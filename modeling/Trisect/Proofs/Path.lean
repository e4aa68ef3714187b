import Trisect.Session.State

/-!
# Paths through a dialogue

A `Trisect.Dialogue` branches at every request, one branch for each answer. A **path**
`Trisect.Dialogue.Path` is one way from the root to an end: the exchanges on it, each with its
answer, and the result that stands there. No handler occurs in it, so that what holds of every path
holds whoever answers, with whatever state.

A run that nobody breaks off follows a path, namely its own transcript
(`Trisect.Dialogue.path_of_run`), and a run is broken off over an exchange that has no answer
(`Trisect.Dialogue.exists_breakdown_of_run`) and over no other
(`Trisect.Dialogue.exists_run_of_answered`). In between, the rules of this file take
a path apart along the program: `Trisect.Dialogue.path_bind_iff` for dialogues, and the same for
the steps of a session, whose state and error are part of the result (`Trisect.SessionM.Path`).
-/

namespace Trisect

namespace Dialogue

variable {α β σ : Type}

/-- The exchanges from the root of a dialogue to one of its ends, and the result there. -/
inductive Path : Dialogue α → List Exchange → α → Prop
  | done (a : α) : Path (.done a) [] a
  | ask {r : Request} {next : r.Answer → Dialogue α} {answer : r.Answer} {t : List Exchange} {a : α}
      (rest : Path (next answer) t a) : Path (.ask r next) (⟨r, some answer⟩ :: t) a

@[simp] theorem path_done_iff {a b : α} {t : List Exchange} :
    Path (.done a) t b ↔ t = [] ∧ b = a := by
  constructor
  · rintro ⟨⟩
    exact ⟨rfl, rfl⟩
  · rintro ⟨rfl, rfl⟩
    exact .done _

theorem path_ask_iff {r : Request} {next : r.Answer → Dialogue α} {t : List Exchange} {a : α} :
    Path (.ask r next) t a ↔ ∃ answer t', Path (next answer) t' a ∧ t = ⟨r, some answer⟩ :: t' := by
  constructor
  · intro h
    cases h with
    | ask rest => exact ⟨_, _, rest, rfl⟩
  · rintro ⟨answer, t', rest, rfl⟩
    exact .ask rest

/-- Nobody breaks down on a path. -/
theorem Path.isSome_answer {d : Dialogue α} {t : List Exchange} {a : α} (h : d.Path t a) :
    ∀ e ∈ t, e.answer.isSome := by
  induction h with
  | done a => simp
  | ask _ ih => exact List.forall_mem_cons.2 ⟨rfl, ih⟩

/-- A path through two dialogues is a path through the first followed by one through the second. -/
theorem path_bind_iff {d : Dialogue α} {f : α → Dialogue β} {t : List Exchange} {b : β} :
    (d.bind f).Path t b ↔ ∃ t₁ a t₂, d.Path t₁ a ∧ (f a).Path t₂ b ∧ t = t₁ ++ t₂ := by
  induction d generalizing t with
  | done a =>
    rw [done_bind]
    constructor
    · intro h
      exact ⟨[], a, t, .done a, h, rfl⟩
    · rintro ⟨t₁, a', t₂, h₁, h₂, rfl⟩
      obtain ⟨rfl, rfl⟩ := path_done_iff.1 h₁
      exact h₂
  | ask r next ih =>
    rw [ask_bind, path_ask_iff]
    constructor
    · rintro ⟨answer, t', h, rfl⟩
      obtain ⟨t₁, a, t₂, h₁, h₂, rfl⟩ := (ih answer).1 h
      exact ⟨⟨r, some answer⟩ :: t₁, a, t₂, .ask h₁, h₂, rfl⟩
    · rintro ⟨t₁, a, t₂, h₁, h₂, rfl⟩
      obtain ⟨answer, t', h, rfl⟩ := path_ask_iff.1 h₁
      exact ⟨answer, t' ++ t₂, (ih answer).2 ⟨t', a, t₂, h, h₂, rfl⟩, rfl⟩

/-! ### Runs follow paths -/

/-- **A run that comes to an end follows a path**, and the path is its transcript. -/
theorem path_of_run {h : Handler σ} {d : Dialogue α} {s s' : σ} {a : α}
    (hrun : d.run h s = (some a, s')) : d.Path (d.transcript h s) a := by
  induction d generalizing s with
  | done b =>
    obtain ⟨rfl, rfl⟩ : b = a ∧ s = s' := by simpa [run] using hrun
    exact .done b
  | ask r next ih =>
    rw [run] at hrun
    rw [transcript]
    split at hrun
    · next answer s₁ heq => exact .ask (ih answer hrun)
    · simp at hrun

/-- A run in which every request is answered comes to an end. -/
theorem exists_run_of_answered {h : Handler σ} {d : Dialogue α} {s : σ}
    (hall : ∀ e ∈ d.transcript h s, e.answer.isSome) : ∃ a s', d.run h s = (some a, s') := by
  induction d generalizing s with
  | done a => exact ⟨a, s, rfl⟩
  | ask r next ih =>
    rw [transcript] at hall
    rw [run]
    split at hall
    · next answer s₁ heq => exact ih answer fun e he => hall e (List.mem_cons_of_mem _ he)
    · next s₁ heq => simpa using hall ⟨r, none⟩ (by simp)

/-- A run that comes to no end broke down over a request. -/
theorem exists_breakdown_of_run {h : Handler σ} {d : Dialogue α} {s s' : σ}
    (hrun : d.run h s = (none, s')) : ∃ e ∈ d.transcript h s, e.answer = none := by
  induction d generalizing s with
  | done a => simp [run] at hrun
  | ask r next ih =>
    rw [run] at hrun
    rw [transcript]
    split at hrun
    · next answer s₁ heq =>
      obtain ⟨e, he, hnone⟩ := ih answer hrun
      exact ⟨e, List.mem_cons_of_mem _ he, hnone⟩
    · exact ⟨⟨r, none⟩, List.mem_singleton_self _, rfl⟩

end Dialogue

/-! ### Steps of a session -/

namespace Session

variable {α β : Type} {s s' : Session} {t : List Exchange}

/-- The paths through a step that begins in one state of a session and ends in another. -/
def Path (m : StateT Session Dialogue α) (s : Session) (t : List Exchange) (a : α) (s' : Session) :
    Prop :=
  Dialogue.Path (m s) t (a, s')

theorem path_pure_iff {a b : α} : Path (pure a) s t b s' ↔ t = [] ∧ b = a ∧ s' = s := by
  change Dialogue.Path (.done (a, s)) t (b, s') ↔ _
  simp

theorem path_bind_iff {m : StateT Session Dialogue α} {f : α → StateT Session Dialogue β} {b : β} :
    Path (m >>= f) s t b s' ↔
      ∃ t₁ a s₁ t₂, Path m s t₁ a s₁ ∧ Path (f a) s₁ t₂ b s' ∧ t = t₁ ++ t₂ := by
  change Dialogue.Path ((m s).bind _) t (b, s') ↔ _
  rw [Dialogue.path_bind_iff]
  constructor
  · rintro ⟨t₁, ⟨a, s₁⟩, t₂, h₁, h₂, ht⟩
    exact ⟨t₁, a, s₁, t₂, h₁, h₂, ht⟩
  · rintro ⟨t₁, a, s₁, t₂, h₁, h₂, ht⟩
    exact ⟨t₁, (a, s₁), t₂, h₁, h₂, ht⟩

end Session

namespace SessionM

variable {α β : Type} {s s' : Session} {t : List Exchange}

/-- The paths through a step that may end in an error. -/
def Path (m : SessionM α) (s : Session) (t : List Exchange) (r : Except OracleError α)
    (s' : Session) : Prop :=
  Session.Path m.run s t r s'

theorem path_pure_iff {a : α} {r : Except OracleError α} :
    Path (pure a) s t r s' ↔ t = [] ∧ r = .ok a ∧ s' = s := by
  change Dialogue.Path (.done (.ok a, s)) t (r, s') ↔ _
  simp

theorem path_throw_iff {e : OracleError} {r : Except OracleError α} :
    Path (throw e) s t r s' ↔ t = [] ∧ r = .error e ∧ s' = s := by
  change Dialogue.Path (.done (.error e, s)) t (r, s') ↔ _
  simp

theorem path_ask_iff {q : Request} {r : Except OracleError q.Answer} :
    Path (ask q) s t r s' ↔ ∃ answer, t = [⟨q, some answer⟩] ∧ r = .ok answer ∧ s' = s := by
  change Dialogue.Path (.ask q fun a => .done (.ok a, s)) t (r, s') ↔ _
  rw [Dialogue.path_ask_iff]
  constructor
  · rintro ⟨answer, t', h, rfl⟩
    obtain ⟨rfl, hr⟩ := Dialogue.path_done_iff.1 h
    obtain ⟨rfl, rfl⟩ := Prod.mk.inj hr
    exact ⟨answer, rfl, rfl, rfl⟩
  · rintro ⟨answer, rfl, rfl, rfl⟩
    exact ⟨answer, [], .done _, rfl⟩

theorem path_ofExcept_iff {x r : Except OracleError α} :
    Path (ofExcept x) s t r s' ↔ t = [] ∧ r = x ∧ s' = s := by
  cases x with
  | ok a => exact path_pure_iff
  | error e => exact path_throw_iff

theorem path_ofIo_iff {x : Except IoError Unit} {r : Except OracleError Unit} :
    Path (ofIo x) s t r s' ↔ t = [] ∧ r = x.mapError .io ∧ s' = s := by
  rcases x with cause | ⟨⟩
  · exact path_throw_iff
  · exact path_pure_iff

theorem path_get_iff {r : Except OracleError Session} :
    Path get s t r s' ↔ t = [] ∧ r = .ok s ∧ s' = s := by
  change Dialogue.Path (.done (.ok s, s)) t (r, s') ↔ _
  simp

theorem path_modify_iff {f : Session → Session} {r : Except OracleError PUnit} :
    Path (modify f) s t r s' ↔ t = [] ∧ r = .ok ⟨⟩ ∧ s' = f s := by
  change Dialogue.Path (.done (.ok ⟨⟩, f s)) t (r, s') ↔ _
  simp

theorem path_lift_iff {m : StateT Session Dialogue α} {r : Except OracleError α} :
    Path (liftM m) s t r s' ↔ ∃ a, Session.Path m s t a s' ∧ r = .ok a := by
  change Session.Path (m >>= fun a => pure (.ok a)) s t r s' ↔ _
  rw [Session.path_bind_iff]
  constructor
  · rintro ⟨t₁, a, s₁, t₂, h₁, h₂, rfl⟩
    obtain ⟨rfl, rfl, rfl⟩ := Session.path_pure_iff.1 h₂
    exact ⟨a, by rwa [List.append_nil], rfl⟩
  · rintro ⟨a, h, rfl⟩
    exact ⟨t, a, s', [], h, Session.path_pure_iff.2 ⟨rfl, rfl, rfl⟩, (List.append_nil t).symm⟩

/-- A path through two steps ends with the error of the first, or goes on from its result. -/
theorem path_bind_iff {m : SessionM α} {f : α → SessionM β} {r : Except OracleError β} :
    Path (m >>= f) s t r s' ↔
      (∃ e, Path m s t (.error e) s' ∧ r = .error e) ∨
        ∃ t₁ a s₁ t₂, Path m s t₁ (.ok a) s₁ ∧ Path (f a) s₁ t₂ r s' ∧ t = t₁ ++ t₂ := by
  change Session.Path (m.run >>= ExceptT.bindCont f) s t r s' ↔ _
  rw [Session.path_bind_iff]
  constructor
  · rintro ⟨t₁, x, s₁, t₂, h₁, h₂, rfl⟩
    cases x with
    | ok a => exact Or.inr ⟨t₁, a, s₁, t₂, h₁, h₂, rfl⟩
    | error e =>
      obtain ⟨rfl, rfl, rfl⟩ := Session.path_pure_iff.1 h₂
      exact Or.inl ⟨e, by rwa [List.append_nil], rfl⟩
  · rintro (⟨e, h₁, rfl⟩ | ⟨t₁, a, s₁, t₂, h₁, h₂, rfl⟩)
    · exact ⟨t, .error e, s', [], h₁, Session.path_pure_iff.2 ⟨rfl, rfl, rfl⟩,
        (List.append_nil t).symm⟩
    · exact ⟨t₁, .ok a, s₁, t₂, h₁, h₂, rfl⟩

/-- A step that begins with a question has a path for every answer to it. -/
theorem path_ask_bind_iff {q : Request} {f : q.Answer → SessionM β} {r : Except OracleError β} :
    Path (ask q >>= f) s t r s' ↔
      ∃ answer t', Path (f answer) s t' r s' ∧ t = ⟨q, some answer⟩ :: t' := by
  rw [path_bind_iff]
  constructor
  · rintro (⟨e, h, -⟩ | ⟨t₁, a, s₁, t₂, h₁, h₂, rfl⟩)
    · obtain ⟨answer, -, he, -⟩ := path_ask_iff.1 h
      simp at he
    · obtain ⟨answer, rfl, ha, rfl⟩ := path_ask_iff.1 h₁
      obtain rfl := Except.ok.inj ha
      exact ⟨a, t₂, h₂, rfl⟩
  · rintro ⟨answer, t', h, rfl⟩
    exact Or.inr ⟨[_], answer, s, t', path_ask_iff.2 ⟨answer, rfl, rfl, rfl⟩, h, rfl⟩

/-- A step that begins with what may be an error ends in it or goes on. -/
theorem path_ofExcept_bind_iff {x : Except OracleError α} {f : α → SessionM β}
    {r : Except OracleError β} :
    Path (ofExcept x >>= f) s t r s' ↔
      (∃ e, x = .error e ∧ t = [] ∧ r = .error e ∧ s' = s) ∨
        ∃ a, x = .ok a ∧ Path (f a) s t r s' := by
  rw [path_bind_iff]
  constructor
  · rintro (⟨e, h, rfl⟩ | ⟨t₁, a, s₁, t₂, h₁, h₂, rfl⟩)
    · obtain ⟨rfl, he, rfl⟩ := path_ofExcept_iff.1 h
      exact Or.inl ⟨e, he.symm, rfl, rfl, rfl⟩
    · obtain ⟨rfl, ha, rfl⟩ := path_ofExcept_iff.1 h₁
      exact Or.inr ⟨a, ha.symm, h₂⟩
  · rintro (⟨e, rfl, rfl, rfl, rfl⟩ | ⟨a, rfl, h⟩)
    · exact Or.inl ⟨e, path_ofExcept_iff.2 ⟨rfl, rfl, rfl⟩, rfl⟩
    · exact Or.inr ⟨[], a, s, t, path_ofExcept_iff.2 ⟨rfl, rfl, rfl⟩, h, rfl⟩

end SessionM

end Trisect
