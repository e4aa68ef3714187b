import Mathlib.Algebra.Group.Nat.Defs
import Mathlib.Data.FinEnum
import Mathlib.Data.Fintype.Card
import Trisect.Proofs.Fleet.Naming

/-!
# The names and the seeds of workers

Two workers with one seed would make the same databases and ask the same queries, and two with one
name would write into the same files. A name carries the number of its worker as a numeral, from
which the number can be read off. A seed is the configured one, into which the number is folded,
scattered: every step of the scattering can be undone (`Trisect.scatter_injective`), and so nothing
of either is lost as long as the number survives a shift by one place, that is, below `2 ^ 63`.

The main statement is `Trisect.SessionOptions.workers_apart`.
-/

namespace Trisect

/-! ### Scattering -/

/-- **A shift that is folded in** can be undone: were two words folded to one, their difference
would be its own shift. -/
theorem foldShift_injective {k : UInt64} (hk : 0 < k.toNat % 64) :
    Function.Injective fun x : UInt64 => x ^^^ (x >>> k) := by
  intro x y h
  replace h : x ^^^ (x >>> k) = y ^^^ (y >>> k) := h
  have hfixed : x ^^^ y = (x ^^^ y) >>> k := by
    calc x ^^^ y = (x ^^^ (x >>> k)) ^^^ (x >>> k) ^^^ y := by
          rw [UInt64.xor_assoc x, UInt64.xor_self, UInt64.xor_zero]
      _ = (y ^^^ y) ^^^ ((x >>> k) ^^^ (y >>> k)) := by
          rw [h]
          ac_rfl
      _ = (x ^^^ y) >>> k := by rw [UInt64.xor_self, UInt64.zero_xor, UInt64.shiftRight_xor]
  -- a number that a shift by at least one place leaves as it is, is zero
  have hnat : (x ^^^ y).toNat = (x ^^^ y).toNat / 2 ^ (k.toNat % 64) := by
    rw [← Nat.shiftRight_eq_div_pow, ← UInt64.toNat_shiftRight, ← hfixed]
  have hpow : 1 < 2 ^ (k.toNat % 64) := Nat.one_lt_two_pow (by omega)
  have hzero : (x ^^^ y).toNat = 0 := by
    by_contra hne
    have hlt := Nat.div_lt_self (Nat.pos_of_ne_zero hne) hpow
    omega
  exact UInt64.xor_eq_zero_iff.1 (UInt64.toNat_inj.1 hzero)

/-- **A factor that has an inverse** can be undone. -/
theorem mul_injective_of_inverse {c d : UInt64} (hcd : c * d = 1) :
    Function.Injective fun x : UInt64 => x * c := by
  intro x y h
  replace h : x * c = y * c := h
  calc x = x * c * d := by rw [UInt64.mul_assoc, hcd, UInt64.mul_one]
    _ = y * c * d := by rw [h]
    _ = y := by rw [UInt64.mul_assoc, hcd, UInt64.mul_one]

/-- **Different words are scattered differently.** -/
theorem scatter_injective : Function.Injective scatter := by
  have hsum : Function.Injective fun x : UInt64 => x + 0x9e3779b97f4a7c15 :=
    fun _ _ h => (UInt64.add_left_inj _).1 h
  have hfirst : Function.Injective fun x : UInt64 => x * 0xbf58476d1ce4e5b9 :=
    mul_injective_of_inverse (d := 0x96de1b173f119089) (by decide)
  have hsecond : Function.Injective fun x : UInt64 => x * 0x94d049bb133111eb :=
    mul_injective_of_inverse (d := 0x319642b2d24d8ec3) (by decide)
  have hshift : ∀ k : UInt64, 0 < k.toNat % 64 →
      Function.Injective fun x : UInt64 => x ^^^ (x >>> k) := fun k hk => foldShift_injective hk
  exact (hshift 31 (by decide)).comp <| hsecond.comp <| (hshift 27 (by decide)).comp <|
    hfirst.comp <| (hshift 30 (by decide)).comp hsum

/-! ### Seeds -/

/-- **A worker's seed tells the configured one**, and every word is the seed of some
configuration. -/
theorem workerSeed_bijective (worker : UInt64) :
    Function.Bijective fun seed => workerSeed seed worker := by
  refine Finite.injective_iff_bijective.1 fun seed seed' h => ?_
  exact (UInt64.xor_left_inj _).1 (scatter_injective h)

/-- Numbers below `2 ^ 63` are told apart when they are shifted by one place. -/
theorem eq_of_shiftLeft_one {v w : Nat} (hv : v < 2 ^ 63) (hw : w < 2 ^ 63)
    (h : UInt64.ofNat v <<< 1 = UInt64.ofNat w <<< 1) : v = w := by
  have hnat : ∀ n, n < 2 ^ 63 → (UInt64.ofNat n <<< 1).toNat = 2 * n := by
    intro n hn
    rw [UInt64.toNat_shiftLeft, UInt64.toNat_ofNat', Nat.shiftLeft_eq]
    change n % 2 ^ 64 * 2 % 2 ^ 64 = 2 * n
    omega
  have htwice := congrArg UInt64.toNat h
  rw [hnat v hv, hnat w hw] at htwice
  omega

/-- Different workers have different seeds. -/
theorem workerSeed_ne {v w : Nat} (hne : v ≠ w) (hv : v < 2 ^ 63) (hw : w < 2 ^ 63)
    (seed : UInt64) : workerSeed seed (UInt64.ofNat v) ≠ workerSeed seed (UInt64.ofNat w) := by
  intro h
  have hfolded := scatter_injective h
  exact hne (eq_of_shiftLeft_one hv hw ((UInt64.xor_right_inj seed).1 hfolded))

/-! ### Workers -/

namespace SessionOptions

variable {o : SessionOptions}

theorem seed_forWorker (h : 1 < o.sessions) (index : Nat) :
    (o.forWorker index).seed = workerSeed o.seed (UInt64.ofNat index) := by
  rw [forWorker, if_neg (UInt64.not_le.2 h)]

theorem sessions_forWorker (o : SessionOptions) (index : Nat) :
    (o.forWorker index).sessions = 1 := by
  rw [forWorker]
  split
  · rfl
  · rfl

/-- Different workers have different names. -/
theorem databaseName_forWorker_ne (h : 1 < o.sessions) {v w : Nat} (hne : v ≠ w) :
    (o.forWorker v).databaseName ≠ (o.forWorker w).databaseName := by
  rw [databaseName_forWorker h, databaseName_forWorker h]
  intro hnames
  exact hne (Json.eq_of_toString_eq ((String.append_right_inj _).1 hnames))

/-- The options of a worker are those of a session that is alone. -/
theorem forWorker_of_sessions_eq_one (h : o.sessions = 1) (index : Nat) :
    o.forWorker index = o := by
  rw [forWorker, if_pos (by rw [h]; exact UInt64.le_refl 1), ← h]

/-- The seed of a worker tells the configured one, also where it is the same. -/
theorem seed_forWorker_bijective (o : SessionOptions) (index : Nat) :
    Function.Bijective fun seed => ({ o with seed }.forWorker index).seed := by
  by_cases h : o.sessions ≤ 1
  · have hsame : (fun seed => ({ o with seed }.forWorker index).seed) = id := by
      funext seed
      rw [forWorker, if_pos h]
      rfl
    rw [hsame]
    exact Function.bijective_id
  · have hscattered : (fun seed => ({ o with seed }.forWorker index).seed) =
        fun seed => workerSeed seed (UInt64.ofNat index) := by
      funext seed
      exact seed_forWorker (o := { o with seed }) (UInt64.not_le.1 h) index
    rw [hscattered]
    exact workerSeed_bijective _

/-- **Workers share neither a name nor a seed.** If there are several, any two of them have
different names and, if their numbers are below `2 ^ 63`, different seeds. For a given number no
seed gets lost: configured seeds and seeds of the worker correspond to each other one to one. And a
worker's options are final: made the options of any worker once more, they stay as they are. -/
theorem workers_apart (o : SessionOptions) :
    (1 < o.sessions → ∀ v w, v ≠ w → v < 2 ^ 63 → w < 2 ^ 63 →
      (o.forWorker v).databaseName ≠ (o.forWorker w).databaseName ∧
        (o.forWorker v).seed ≠ (o.forWorker w).seed) ∧
    (∀ index, Function.Bijective fun seed => ({ o with seed }.forWorker index).seed) ∧
    ∀ v w, (o.forWorker v).forWorker w = o.forWorker v := by
  refine ⟨fun h v w hne hv hw => ⟨databaseName_forWorker_ne h hne, ?_⟩,
    seed_forWorker_bijective o, ?_⟩
  · rw [seed_forWorker h, seed_forWorker h]
    exact workerSeed_ne hne hv hw o.seed
  · intro v w
    exact forWorker_of_sessions_eq_one (o.sessions_forWorker v) w

/-- The first and the last worker of a session in three. -/
theorem workers_apart_of_three :
    1 < ({ sessions := 3, seed := 10 } : SessionOptions).sessions ∧ 0 ≠ 2 ∧ 0 < 2 ^ 63 ∧
      2 < 2 ^ 63 ∧
      (({ sessions := 3, seed := 10 } : SessionOptions).forWorker 0).databaseName ≠
        (({ sessions := 3, seed := 10 } : SessionOptions).forWorker 2).databaseName ∧
      (({ sessions := 3, seed := 10 } : SessionOptions).forWorker 0).seed ≠
        (({ sessions := 3, seed := 10 } : SessionOptions).forWorker 2).seed := by
  have hsessions : 1 < ({ sessions := 3, seed := 10 } : SessionOptions).sessions := by decide
  exact ⟨hsessions, by decide, by decide, by decide,
    (workers_apart { sessions := 3, seed := 10 }).1 hsessions 0 2 (by decide) (by decide)
      (by decide)⟩

/-- From `2 ^ 63` on the number is shifted out of the word, and seeds come back. -/
example : workerSeed 10 (UInt64.ofNat (Nat.pow 2 63)) = workerSeed 10 (UInt64.ofNat 0) := by decide

end SessionOptions

end Trisect
