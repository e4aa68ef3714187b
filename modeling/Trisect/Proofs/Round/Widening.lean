import Trisect.Proofs.Leading
import Trisect.Proofs.Round.Deciding

/-!
# Rounds that expect more

Of two oracles that differ in the messages they expect, let the second expect all that the first
expects (`Trisect.Oracle.Widens`). Their rounds ask the same as long as they hear the same, and end
in the same way, with one exception: a message that only the second expects is a failure to the
first and a reason to skip the round to the second (`Trisect.Widened`). That such a message ends the
round in both is what keeps the two together; neither goes on with a part of a result.

`Trisect.Oracle.twin_runRound_of_widens` shows so along the program of a round. Since a round is
settled, its exchanges tell whether the exception has occurred, and `Trisect.WidenedRound` is all
that there is to say about the two outcomes.
-/

namespace Trisect

variable {α β : Type} {errors errors' : ExpectedErrors}

/-- Every message that is expected in the first place is expected in the second. -/
def ExpectedErrors.Within (errors errors' : ExpectedErrors) : Prop :=
  ∀ text, errors.expects text = true → errors'.expects text = true

/-- A message that only the second of two expects. -/
def ExpectedErrors.Gains (errors errors' : ExpectedErrors) (text : String) : Prop :=
  errors.expects text = false ∧ errors'.expects text = true

/-- **The same result, but for a message that only the second of two expects.** -/
inductive Widened (errors errors' : ExpectedErrors) :
    Except OracleError α → Except OracleError α → Prop
  | same (r : Except OracleError α) : Widened errors errors' r r
  | excused (sql : String) {text : String} (h : errors.Gains errors' text) :
      Widened errors errors' (.error (.unexpectedEngineError sql (some text)))
        (.error (.skip .expectedError))

theorem Widened.map {x y : Except OracleError α} (h : Widened errors errors' x y) (f : α → β) :
    Widened errors errors' (x.map f) (y.map f) := by
  cases h with
  | same r => exact .same _
  | excused sql h => exact .excused sql h

/-! ### Steps that may end in an error -/

namespace SessionM

/-- Two steps that ask the same as long as they hear the same, and have the same result but for
messages that only the second expects. -/
def Widens (errors errors' : ExpectedErrors) (m n : SessionM α) : Prop :=
  Session.Twin (fun _ => Eq) (Widened errors errors') m.run n.run

theorem widens_self (m : SessionM α) : Widens errors errors' m m := by
  refine fun s => (Session.twin_self m.run s).mono ?_
  rintro ⟨a, s'⟩ ⟨b, _⟩ ⟨rfl, rfl⟩
  exact ⟨.same _, rfl⟩

theorem widens_ofExcept {x y : Except OracleError α} (h : Widened errors errors' x y) :
    Widens errors errors' (ofExcept x) (ofExcept y) := by
  cases h with
  | same r => exact widens_self _
  | excused sql h => exact Session.twin_pure (.excused sql h)

theorem widens_bind {m n : SessionM α} {f g : α → SessionM β} (h : Widens errors errors' m n)
    (hf : ∀ a, Widens errors errors' (f a) (g a)) :
    Widens errors errors' (m >>= f) (n >>= g) := by
  refine Session.twin_bind h ?_
  rintro _ _ (⟨e | a⟩ | ⟨sql, hgains⟩)
  · exact Session.twin_pure (.same _)
  · exact hf a
  · exact Session.twin_pure (.excused sql hgains)

/-- The case that occurs most: both begin with the same step. -/
theorem widens_bind_self (m : SessionM α) {f g : α → SessionM β}
    (hf : ∀ a, Widens errors errors' (f a) (g a)) : Widens errors errors' (m >>= f) (m >>= g) :=
  widens_bind (widens_self m) hf

end SessionM

/-! ### Statements -/

section Statements

variable (hwithin : errors.Within errors')

include hwithin

/-- **What a failure of the engine means** to the two. -/
theorem EngineError.widened_classify (failure : EngineError) (sql : String) :
    Widened errors errors' (.error (failure.classify sql errors) : Except OracleError α)
      (.error (failure.classify sql errors')) := by
  cases failure with
  | rejected text =>
    cases h : errors.expects text with
    | true => simpa [classify, h, hwithin text h] using Widened.same _
    | false =>
      cases h' : errors'.expects text with
      | true => simpa [classify, h, h'] using Widened.excused sql ⟨h, h'⟩
      | false => simpa [classify, h, h'] using Widened.same _
  | silent => exact .same _
  | conversion detail => exact .same _

theorem widened_collected (sql : String) (answer : EngineAnswer) :
    Widened errors errors' (collected sql errors answer) (collected sql errors' answer) := by
  rcases answer with failure | (_ | cells)
  · exact failure.widened_classify hwithin sql
  · exact .same _
  · exact .same _

theorem widens_collect (sql : String) :
    SessionM.Widens errors errors' (collect errors sql) (collect errors' sql) := by
  refine SessionM.widens_bind_self (SessionM.recordQuery sql) fun _ => ?_
  refine SessionM.widens_bind_self (SessionM.ask (.query sql)) fun answer => ?_
  exact SessionM.widens_ofExcept (widened_collected hwithin sql answer)

end Statements

/-- The same statements, and the same cells but for messages that only the second expects. -/
structure CombinedResult.Widened (errors errors' : ExpectedErrors) (a b : CombinedResult) :
    Prop where
  reconstructed : a.reconstructed = b.reconstructed
  cells : Trisect.Widened errors errors' a.cells b.cells

section Parts

variable (hwithin : errors.Within errors')

include hwithin

theorem widens_combineAs (text : String) :
    Session.Twin (fun _ => Eq) (CombinedResult.Widened errors errors') (combineAs errors text)
      (combineAs errors' text) :=
  Session.twin_bind (widens_collect hwithin text) fun _ _ h => Session.twin_pure ⟨rfl, h⟩

theorem widens_concatenate (queries : List String) :
    Session.Twin (fun _ => Eq) (CombinedResult.Widened errors errors') (concatenate errors queries)
      (concatenate errors' queries) := by
  induction queries with
  | nil => exact Session.twin_pure ⟨rfl, .same _⟩
  | cons q qs ih =>
    refine Session.twin_bind (widens_collect hwithin q) ?_
    rintro _ _ (⟨e | cells⟩ | ⟨sql, hgains⟩)
    · exact Session.twin_pure ⟨rfl, .same _⟩
    · refine Session.twin_bind ih fun rest rest' hrest => Session.twin_pure ⟨?_, hrest.cells.map _⟩
      rw [hrest.reconstructed]
    · exact Session.twin_pure ⟨rfl, .excused sql hgains⟩

end Parts

/-! ### Rounds -/

/-- Two dialects of the same engine, which may differ in the messages that are benign in them. -/
structure Dialect.SameEngine (d d' : Dialect) : Prop where
  bareUnion : d'.bareUnion = d.bareUnion
  unionAllInOrderByContext : d'.unionAllInOrderByContext = d.unionAllInOrderByContext
  canonicalizeNegativeZero : d'.canonicalizeNegativeZero = d.canonicalizeNegativeZero

/-- **An oracle expects more than another**, and is the same in all else that a round looks at. -/
structure Oracle.Widens (o o' : Oracle) : Prop where
  kind : o'.kind = o.kind
  within : o.errors.Within o'.errors
  engine : o.dialect.SameEngine o'.dialect

namespace Oracle

variable {o o' : Oracle} (h : o.Widens o')

include h

theorem widens_combine (q : CombinedQuery) :
    Session.Twin (fun _ => Eq) (CombinedResult.Widened o.errors o'.errors)
      (combine o.dialect o.errors q) (combine o'.dialect o'.errors q) := by
  rw [combine, combine, h.engine.bareUnion]
  split
  · exact widens_combineAs h.within _
  · exact widens_concatenate h.within _
  · exact widens_combineAs h.within _
  · exact Session.twin_pure ⟨rfl, .same _⟩

theorem compare_eq_of_widens : o'.compare = o.compare := by
  funext whole reconstructed first second
  rw [compare, compare, h.engine.canonicalizeNegativeZero]

theorem widens_checkParts (base : Select) (condition : String) :
    SessionM.Widens o.errors o'.errors (o.checkParts base condition)
      (o'.checkParts base condition) := by
  rw [checkParts, checkParts, compare_eq_of_widens h, h.kind, singleStatement, singleStatement,
    h.engine.unionAllInOrderByContext]
  refine SessionM.widens_bind (widens_collect h.within _) fun first => ?_
  refine Session.twin_bind (SessionM.twin_lift (widens_combine h _)) ?_
  rintro _ _ (@⟨second, second', hreconstructed, hcells⟩ | e)
  · change SessionM.Widens o.errors o'.errors
      (SessionM.ofExcept second.cells >>= o.compare base.sql second.reconstructed first)
      (SessionM.ofExcept second'.cells >>= o.compare base.sql second'.reconstructed first)
    rw [hreconstructed]
    exact SessionM.widens_bind (SessionM.widens_ofExcept hcells) fun _ => SessionM.widens_self _
  · exact Session.twin_pure (.same _)

theorem widens_checkAggregate (base : Select) (f : AggregateFn) (argument condition : String) :
    SessionM.Widens o.errors o'.errors (o.checkAggregate base f argument condition)
      (o'.checkAggregate base f argument condition) := by
  rw [checkAggregate, checkAggregate, compare_eq_of_widens h]
  refine SessionM.widens_bind (widens_collect h.within _) fun first => ?_
  refine SessionM.widens_bind (widens_collect h.within _) fun second => ?_
  exact SessionM.widens_self _

theorem widens_check : SessionM.Widens o.errors o'.errors o.check o'.check := by
  rw [check, check, h.kind]
  refine SessionM.widens_bind_self (askBase o.kind) fun base => ?_
  split
  · refine SessionM.widens_bind_self _ fun answer => ?_
    refine SessionM.widens_bind_self _ fun x => ?_
    refine SessionM.widens_bind_self _ fun answer => ?_
    exact SessionM.widens_bind_self _ fun condition => widens_checkAggregate h _ _ _ _
  · refine SessionM.widens_bind_self _ fun answer => ?_
    exact SessionM.widens_bind_self _ fun condition => widens_checkParts h _ _
  · refine SessionM.widens_bind_self _ fun answer => ?_
    exact SessionM.widens_bind_self _ fun condition => widens_checkParts h _ _

end Oracle

/-- **The same outcome, but for a message that only the second of two expects.** -/
inductive RoundOutcome.Widened (errors errors' : ExpectedErrors) :
    RoundOutcome → RoundOutcome → Prop
  | same (o : RoundOutcome) : Widened errors errors' o o
  | excused (sql : String) {text : String} (h : errors.Gains errors' text) :
      Widened errors errors' (failed (.unexpectedEngineError sql (some text)))
        (skipped .expectedError)

/-- **A round that expects more** asks the same as long as it hears the same, and ends in the same
way but for messages that only it expects. -/
theorem Oracle.twin_runRound_of_widens {o o' : Oracle} (h : o.Widens o') :
    Session.Twin (fun _ => Eq) (RoundOutcome.Widened o.errors o'.errors) o.runRound
      o'.runRound := by
  refine Session.twin_bind (widens_check h) ?_
  rintro _ _ (r | ⟨sql, hgains⟩)
  · exact Session.twin_pure (.same _)
  · exact Session.twin_pure (.excused sql hgains)

/-! ### The two outcomes -/

/-- **What the outcomes of two rounds have to do with each other** that hear the same, of which the
second expects more than the first. -/
structure WidenedRound (errors errors' : ExpectedErrors) (t : List Exchange)
    (o o' : RoundOutcome) : Prop where
  passed : o = .passed ↔ o' = .passed
  bug (report : BugReport) : o = .bug report ↔ o' = .bug report
  /-- They differ if and only if the engine has refused a query with a message that only the second
  expects. -/
  differ : o ≠ o' ↔ ∃ sql text, ⟨.query sql, some (.error (.rejected text))⟩ ∈ t ∧
    errors.Gains errors' text
  /-- Then the first has failed over this message, and the second is skipped. -/
  excused : o ≠ o' → ∃ sql text, ⟨.query sql, some (.error (.rejected text))⟩ ∈ t ∧
    errors.Gains errors' text ∧ o = .failed (.unexpectedEngineError sql (some text)) ∧
    o' = .skipped .expectedError

theorem eq_rejected_of_collected {sql sql' text : String} {answer : EngineAnswer}
    (h : collected sql' errors answer = .error (.unexpectedEngineError sql (some text))) :
    sql' = sql ∧ answer = .error (.rejected text) := by
  rcases answer with (text' | _ | detail) | (_ | cells)
  · rw [collected, EngineError.classify] at h
    split at h <;> cases h
    exact ⟨rfl, rfl⟩
  all_goals cases h

/-- A message that only the second expects tells the outcomes apart. -/
theorem collected_of_gains {text : String} (h : errors.Gains errors' text) (sql : String) :
    collected sql errors (.error (.rejected text)) =
        .error (.unexpectedEngineError sql (some text)) ∧
      collected sql errors' (.error (.rejected text)) = .error (.skip .expectedError) := by
  simp [collected, EngineError.classify, h.1, h.2]

/-- A round that failed over a message, while a round that hears the same did not, has failed over
what the engine said. -/
theorem Oracle.mem_rejected_of_ne {o o' : Oracle} {s s₁ s₂ : Session} {t : List Exchange}
    {sql text : String} {outcome : RoundOutcome}
    (h : Session.Path o.runRound s t (.failed (.unexpectedEngineError sql (some text))) s₁)
    (h' : Session.Path o'.runRound s t outcome s₂)
    (hne : outcome ≠ .failed (.unexpectedEngineError sql (some text))) :
    ⟨.query sql, some (.error (.rejected text))⟩ ∈ t := by
  obtain ⟨r, hr, hsettled⟩ := o.settled_of_path h
  cases hsettled with
  | ok => cases hr
  | @error before x e _ hx =>
    obtain rfl : e = .unexpectedEngineError sql (some text) := by
      cases e <;> cases hr
      rfl
    cases hx with
    | refusal hx => exact absurd (outcome_of_refusal h' (by simp) hx) hne
    | answer he =>
      obtain ⟨rfl, rfl⟩ := eq_rejected_of_collected he
      simp

/-- **Expecting more hides nothing**: no bug and no verdict of a round. -/
theorem Oracle.widenedRound_of_paths {o o' : Oracle} (h : o.Widens o') {s s₁ s₂ : Session}
    {t : List Exchange} {outcome outcome' : RoundOutcome}
    (hpath : Session.Path o.runRound s t outcome s₁)
    (hpath' : Session.Path o'.runRound s t outcome' s₂) :
    WidenedRound o.errors o'.errors t outcome outcome' := by
  obtain ⟨-, hwidened, -⟩ :=
    (twin_runRound_of_widens h).eq_of_paths hpath hpath' (rfl : t ++ [] = t ++ [])
  have hdiffer : (∃ sql text, (⟨.query sql, some (.error (.rejected text))⟩ : Exchange) ∈ t ∧
      o.errors.Gains o'.errors text) → outcome ≠ outcome' := by
    rintro ⟨sql, text, hx, hgains⟩
    obtain ⟨hfirst, hsecond⟩ := collected_of_gains hgains sql
    rw [outcome_of_answer hpath hx hfirst, outcome_of_answer hpath' hx hsecond]
    simp [RoundOutcome.ofResult]
  cases hwidened with
  | same outcome =>
    exact ⟨Iff.rfl, fun _ => Iff.rfl, ⟨fun hne => absurd rfl hne, hdiffer⟩,
      fun hne => absurd rfl hne⟩
  | @excused sql text hgains =>
    have hx := mem_rejected_of_ne hpath hpath' (by simp)
    exact ⟨by simp, by simp, ⟨fun _ => ⟨sql, text, hx, hgains⟩, hdiffer⟩,
      fun _ => ⟨sql, text, hx, hgains, rfl, rfl⟩⟩

/-- Run by one handler from one state, the two rounds say the same and leave the same behind. -/
theorem Oracle.run_of_widens {σ : Type} {o o' : Oracle} (h : o.Widens o') (handler : Handler σ)
    (s : Session) (w : σ) :
    let a := o.runRound.run s
    let b := o'.runRound.run s
    b.transcript handler w = a.transcript handler w ∧
      (b.run handler w).2 = (a.run handler w).2 ∧
      Option.Rel (fun x y => y.2 = x.2 ∧
          WidenedRound o.errors o'.errors (a.transcript handler w) x.1 y.1)
        (a.run handler w).1 (b.run handler w).1 := by
  intro a b
  have hleads : Dialogue.Leads _ a b := (twin_runRound_of_widens h s).leads
  obtain ⟨w', ⟨ha, hb, ht⟩ | ⟨⟨outcome, s₁⟩, _, ⟨⟨outcome', s₂⟩, rfl, -, hstate⟩, ha, hb, ht⟩⟩ :=
    hleads.run handler w
  · rw [ha, hb]
    exact ⟨ht, rfl, .none⟩
  · replace ht : b.transcript handler w = a.transcript handler w := ht.trans (List.append_nil _)
    have hpath := Dialogue.path_of_run hb
    rw [ht] at hpath
    rw [ha, hb]
    exact ⟨ht, rfl, .some ⟨hstate.symm, widenedRound_of_paths h (Dialogue.path_of_run ha) hpath⟩⟩

end Trisect
