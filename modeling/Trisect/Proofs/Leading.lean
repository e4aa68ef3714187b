import Trisect.Proofs.Path
import Trisect.Proofs.Twin

/-!
# A dialogue that begins like another

One dialogue **leads** another (`Trisect.Dialogue.Leads`) if the second asks what the first asks,
answer by answer, until the first is over; a relation says with what result that may be, and how the
second may go on from there. Nothing is said about the rest. This is how two sessions compare of
which one is cut short, or of which one stops over an answer that the other gets past.

Run by the same handler, the second does what the first does, and then goes on from the state that
the first has left (`Trisect.Dialogue.Leads.run`). Two paths through them that hear the same do so
as well (`Trisect.Dialogue.Leads.path`); in particular there is only one path through a dialogue for
what is heard on it (`Trisect.Dialogue.Path.unique`).
-/

namespace Trisect

variable {α β α' β' σ : Type}

namespace Dialogue

/-- The second dialogue asks what the first asks until the first is over; there the relation holds
of the result of the first and of what is left of the second. -/
inductive Leads (R : α → Dialogue β → Prop) : Dialogue α → Dialogue β → Prop
  | finished {a : α} {e : Dialogue β} (h : R a e) : Leads R (.done a) e
  | ask (r : Request) {next : r.Answer → Dialogue α} {next' : r.Answer → Dialogue β}
      (h : ∀ answer, Leads R (next answer) (next' answer)) : Leads R (.ask r next) (.ask r next')

variable {R : α → Dialogue β → Prop} {Q : α' → Dialogue β' → Prop} {d : Dialogue α} {e : Dialogue β}

theorem Leads.mono {R' : α → Dialogue β → Prop} (h : Leads R d e) (hR : ∀ a e', R a e' → R' a e') :
    Leads R' d e := by
  induction h with
  | finished ha => exact .finished (hR _ _ ha)
  | ask r _ ih => exact .ask r ih

theorem leads_refl {R : α → Dialogue α → Prop} (d : Dialogue α) (h : ∀ a, R a (.done a)) :
    Leads R d d := by
  induction d with
  | done a => exact .finished (h a)
  | ask r next ih => exact .ask r ih

theorem leads_bind {f : α → Dialogue α'} {g : β → Dialogue β'} (h : Leads R d e)
    (hf : ∀ a e', R a e' → Leads Q (f a) (e'.bind g)) : Leads Q (d.bind f) (e.bind g) := by
  induction h with
  | finished ha => exact hf _ _ ha
  | ask r _ ih => exact .ask r ih

/-- The case that occurs most: both begin with the same dialogue. -/
theorem leads_bind_self {f g : α → Dialogue α'} {Q : α' → Dialogue α' → Prop} (d : Dialogue α)
    (hf : ∀ a, Leads Q (f a) (g a)) : Leads Q (d.bind f) (d.bind g) := by
  refine leads_bind (R := fun a e => e = .done a) (leads_refl d fun _ => rfl) ?_
  rintro a _ rfl
  exact hf a

/-- Twins that hear the same are over at the same time. -/
theorem Twin.leads {V : α → β → Prop} (h : Twin (fun _ => Eq) V d e) :
    Leads (fun a e' => ∃ b, e' = .done b ∧ V a b) d e := by
  induction h with
  | done hab => exact .finished ⟨_, rfl, hab⟩
  | ask r _ ih => exact .ask r fun answer => ih answer answer rfl

theorem Twin.mono {A : AnswerRelation} {V W : α → β → Prop} (h : Twin A V d e)
    (hVW : ∀ a b, V a b → W a b) : Twin A W d e := by
  induction h with
  | done hab => exact .done (hVW _ _ hab)
  | ask r _ ih => exact .ask r ih

/-- A dialogue is its own twin as long as both hear the same. -/
theorem twin_self (d : Dialogue α) : Twin (fun _ => Eq) Eq d d := by
  induction d with
  | done a => exact .done rfl
  | ask r next ih =>
    refine .ask r ?_
    rintro x _ rfl
    exact ih x

/-! ### Runs -/

/-- **A run of the second dialogue begins with a run of the first.** Either both break down over the
same request, or the first is over, and the second goes on from the state that
the first has left. -/
theorem Leads.run (hd : Leads R d e) (h : Handler σ) (s : σ) :
    ∃ s',
      (d.run h s = (none, s') ∧ e.run h s = (none, s') ∧ e.transcript h s = d.transcript h s) ∨
      ∃ a e', R a e' ∧ d.run h s = (some a, s') ∧ e.run h s = e'.run h s' ∧
        e.transcript h s = d.transcript h s ++ e'.transcript h s' := by
  induction hd generalizing s with
  | @finished a e ha => exact ⟨s, Or.inr ⟨a, e, ha, rfl, rfl, rfl⟩⟩
  | @ask r next next' _ ih =>
    simp only [Dialogue.run, transcript]
    rcases h r s with ⟨_ | answer, s₁⟩
    · exact ⟨s₁, Or.inl ⟨rfl, rfl, rfl⟩⟩
    · obtain ⟨s', ⟨hd, he, ht⟩ | ⟨a, e', ha, hd, he, ht⟩⟩ := ih answer s₁
      · exact ⟨s', Or.inl ⟨hd, he, congrArg _ ht⟩⟩
      · exact ⟨s', Or.inr ⟨a, e', ha, hd, he, congrArg _ ht⟩⟩

/-! ### Paths -/

/-- **A path through the second dialogue begins with a path through the first**, if what is heard on
both is the beginning of one and the same. -/
theorem Leads.path {t t' u u' : List Exchange} {a : α} {b : β} (hd : Leads R d e)
    (hpath : d.Path t a) (hpath' : e.Path t' b) (hheard : t ++ u = t' ++ u') :
    ∃ e' t'', R a e' ∧ e'.Path t'' b ∧ t' = t ++ t'' := by
  induction hd generalizing t t' with
  | finished ha =>
    obtain ⟨rfl, rfl⟩ := path_done_iff.1 hpath
    exact ⟨_, t', ha, hpath', rfl⟩
  | ask r _ ih =>
    obtain ⟨x, t₁, hrest, rfl⟩ := path_ask_iff.1 hpath
    obtain ⟨y, t₁', hrest', rfl⟩ := path_ask_iff.1 hpath'
    obtain ⟨hanswer, hlater⟩ := List.cons.inj hheard
    obtain rfl : x = y := by simpa using hanswer
    obtain ⟨e', t'', ha, hpath'', rfl⟩ := ih x hrest hrest' hlater
    exact ⟨e', t'', ha, hpath'', rfl⟩

/-- **There is one path for what is heard**: none is the beginning of another. -/
theorem Path.unique {t t' u u' : List Exchange} {a b : α} (hpath : d.Path t a)
    (hpath' : d.Path t' b) (hheard : t ++ u = t' ++ u') : t' = t ∧ b = a := by
  obtain ⟨e', t'', ⟨c, rfl, rfl⟩, hdone, rfl⟩ := (twin_self d).leads.path hpath hpath' hheard
  obtain ⟨rfl, rfl⟩ := path_done_iff.1 hdone
  exact ⟨List.append_nil t, rfl⟩

end Dialogue

/-! ### Steps of a session -/

namespace Session

variable {V : α → β → Prop} {m : StateT Session Dialogue α} {n : StateT Session Dialogue β}
  {s s₁ s₂ : Session} {t t' u u' : List Exchange} {a : α} {b : β}

theorem twin_self (m : StateT Session Dialogue α) : Twin (fun _ => Eq) Eq m m := by
  refine fun s => (Dialogue.twin_self (m s)).mono ?_
  rintro x _ rfl
  exact ⟨rfl, rfl⟩

/-- Paths through steps that are twins, of which one begins with the other, are the same but for
their results. -/
theorem Twin.eq_of_paths (h : Twin (fun _ => Eq) V m n) (hpath : Path m s t a s₁)
    (hpath' : Path n s t' b s₂) (hheard : t ++ u = t' ++ u') : t' = t ∧ V a b ∧ s₂ = s₁ := by
  obtain ⟨e', t'', ⟨x, rfl, hab, hstate⟩, hdone, rfl⟩ := (h s).leads.path hpath hpath' hheard
  obtain ⟨rfl, hx⟩ := Dialogue.path_done_iff.1 hdone
  obtain rfl := hx
  exact ⟨List.append_nil t, hab, hstate.symm⟩

end Session

end Trisect
