import Trisect.Proofs.Asking
import Trisect.Proofs.Round.Soundness
import Trisect.Proofs.Session.Noting

/-!
# The clauses of a round's queries

A query over the whole and the queries over its parts belong together only if the clauses of the
base query are such that results can be put together part by part: duplicates that are eliminated
within the parts, groups whose rows fall into several of them, and conditions on groups are all in
the way. Which clauses a kind has room for is `Trisect.OracleKind.HasRoom`. A kind sets some of
them and leaves the others as the source made them, and `Trisect.OracleKind.Suits` says what those
must be like; a source may give any base query, so that this is a condition on sources and not on
rounds.

The main statement, `Trisect.Oracle.clauses_of_round`, is about every round, whoever answers: the
statements that are sent are the query over the whole and then those that put the three parts
together, up to some point, **the query over the whole has only clauses that its kind has room for
if and only if the base query suits the kind**, and the parts differ from it by the partition in its
place, and by the name of the aggregate, alone. What comes of a base query that does not suit is in
`Trisect.Oracle.false_alarms_of_unsuitable_bases`: reports about an engine that answers as it
should.

That a step sends statements in a given order, and none besides, is a watch whose state is what is
left of them (`Trisect.Watch.script`).
-/

namespace Trisect

/-! ### Clauses -/

namespace OracleKind

/-- **The clauses a kind has room for** in the query over the whole: rows are distinct in the
distinct kind only, groups are those of the fetched expressions and belong to the kinds for groups,
and only where results keep their duplicates row by row may the rows be in order. -/
def HasRoom (k : OracleKind) (whole : Select) : Prop :=
  (whole.distinct = true ↔ k = .distinct) ∧
    whole.groupBy = (if k = .having ∨ k = .groupBy then whole.fetch else []) ∧
    whole.having = none ∧
    (whole.orderBy ≠ [] → k = .whereClause ∨ k = .having)

instance (k : OracleKind) (whole : Select) : Decidable (k.HasRoom whole) :=
  inferInstanceAs (Decidable (_ ∧ _ ∧ _ ∧ _))

/-- **The base queries that suit a kind**: those in which the clauses are absent that it neither has
room for nor sets. -/
def Suits : OracleKind → Select → Prop
  | whereClause, base => base.distinct = false ∧ base.groupBy = [] ∧ base.having = none
  | groupBy, base => base.having = none
  | distinct, base => base.groupBy = [] ∧ base.having = none
  | having, _ => True
  | aggregate, _ => True

/-- The query over the whole, in clauses. -/
def whole (k : OracleKind) (x : Offer) : Select :=
  if k = .aggregate then { k.prepare x.base with fetch := [x.aggregate.1.term x.aggregate.2] }
  else k.prepare x.base

/-- The query over the part of a whole in which a condition holds: the condition is on groups in the
kind for them and on rows else, and an aggregate has a name. -/
def part (k : OracleKind) (whole : Select) (c : String) : Select :=
  match k with
  | having => { whole with having := some c }
  | aggregate =>
    { whole with
      fetch := whole.fetch.map (· ++ " AS agg")
      condition := some (Select.conjoin whole.condition c) }
  | _ => { whole with condition := some (Select.conjoin whole.condition c) }

/-- The texts of the queries over the three parts. -/
def partTexts (k : OracleKind) (x : Offer) : List String :=
  (Partition.of x.condition).parts.map fun c => (k.part (k.whole x) c).sql

/-- **A kind has room for the clauses of its query** if the base query suits it, and only then. -/
theorem hasRoom_whole_iff (k : OracleKind) (x : Offer) :
    k.HasRoom (k.whole x) ↔ k.Suits x.base := by
  cases k with
  | whereClause => simp [HasRoom, whole, prepare, Suits]
  | having => simp [HasRoom, whole, prepare, Suits]
  | groupBy => simp [HasRoom, whole, prepare, Suits]
  | distinct => simp [HasRoom, whole, prepare, Suits]
  | aggregate => simp [HasRoom, whole, prepare, Suits]

end OracleKind

namespace Oracle

/-- The statements that put three queries together. -/
def joined (o : Oracle) (x : Offer) (parts : List String) : List String :=
  if o.kind = .aggregate then
    ["SELECT " ++ x.aggregate.1.outer.name ++ "(agg) FROM (" ++ " UNION ALL ".intercalate parts ++
      ") AS partitions"]
  else
    CombinedQuery.statements o.dialect
      ⟨parts, o.kind.combination, o.singleStatement (o.kind.prepare x.base)⟩

theorem wholeQuery_eq (o : Oracle) (x : Offer) : o.wholeQuery x = (o.kind.whole x).sql := by
  rw [wholeQuery, OracleKind.whole]
  split
  · rfl
  · rfl

theorem partQueries_eq (o : Oracle) (x : Offer) :
    o.partQueries x = o.joined x (o.kind.partTexts x) := by
  rw [partQueries, joined]
  by_cases hk : o.kind = .aggregate
  · rw [if_pos hk, if_pos hk, hk]
    rfl
  · have hparts : o.kind.components (o.kind.prepare x.base) x.condition = o.kind.partTexts x := by
      rw [OracleKind.components, OracleKind.partTexts, OracleKind.whole, if_neg hk]
      cases hkind : o.kind with
      | aggregate => exact absurd hkind hk
      | _ => rfl
    rw [if_neg hk, if_neg hk, combined, hparts]

end Oracle

/-! ### Statements in a given order -/

/-- **The watch over a script**: the only statement that may be sent is the first of those that are
left. -/
def Watch.script : Watch (List String) where
  allows left r := ∀ sql, r.statement? = some sql → ∃ rest, left = sql :: rest
  next left r _ := if r.statement?.isSome then left.tail else left

/-- What passes the watch has sent statements of the script, from its beginning. -/
theorem Watch.Passes.statementsOf_prefix {left : List String} {t : List Exchange}
    {last : Option (List String)} (h : Watch.script.Passes left t last) :
    statementsOf t <+: left := by
  induction h with
  | nil left => exact List.nil_prefix
  | @breakdown left r hallows =>
    cases hr : r.statement? with
    | none => simp [statementsOf, hr]
    | some sql =>
      obtain ⟨rest, rfl⟩ := hallows sql hr
      simp [statementsOf, hr]
  | @cons left r answer t last hallows _ ih =>
    cases hr : r.statement? with
    | none =>
      have hnext : Watch.script.next left r answer = left := by simp [Watch.script, hr]
      rw [hnext] at ih
      simpa [statementsOf, hr] using ih
    | some sql =>
      obtain ⟨rest, rfl⟩ := hallows sql hr
      have hnext : Watch.script.next (sql :: rest) r answer = rest := by simp [Watch.script, hr]
      rw [hnext] at ih
      simpa [statementsOf, hr] using ih

/-- Whether a request is no statement to the engine. -/
def Request.IsNoStatement (r : Request) : Prop := r.statement? = none

variable {α β : Type} {errors : ExpectedErrors} {left rest rest' : List String}

/-- A step that sends nothing but the statements that are left, in their order; what its result says
about those that are left behind it. -/
def Session.Follows (post : α → List String → Prop) (m : StateT Session Dialogue α)
    (left : List String) : Prop :=
  ∀ s, (m s).Obeys Watch.script (fun a left' => post a.1 left') left

theorem Session.follows_pure {post : α → List String → Prop} {a : α} (h : post a left) :
    Follows post (pure a) left := fun _ => .done h

theorem Session.follows_bind {post : α → List String → Prop} {post' : β → List String → Prop}
    {m : StateT Session Dialogue α} {f : α → StateT Session Dialogue β} (h : Follows post m left)
    (hf : ∀ a left', post a left' → Follows post' (f a) left') : Follows post' (m >>= f) left :=
  fun s => Dialogue.obeys_bind (h s) fun x left' hx => hf x.1 left' hx x.2

/-- What is left behind a step that may end in an error is known if there is a result. -/
def LeavesOver (rest : List String) (r : Except OracleError α) (left : List String) : Prop :=
  ∀ a, r = .ok a → left = rest

theorem leavesOver_error (e : OracleError) (left : List String) :
    LeavesOver (α := α) rest (.error e) left := by
  intro a ha
  cases ha

namespace SessionM

/-- A step that may end in an error sends nothing but the statements that are left, in their order;
those behind a result are given. -/
def Follows (m : SessionM α) (left rest : List String) : Prop :=
  Session.Follows (LeavesOver rest) m.run left

/-- A step that sends no statement leaves all of them. -/
theorem follows_of_asks {m : SessionM α} (h : Asks Request.IsNoStatement m) :
    Follows m left left := by
  intro s
  have hobeys : (m.run s).Obeys Watch.script (fun _ left' => left' = left) left := by
    refine (h s).obeys (I := (· = left)) ?_ rfl
    rintro _ r rfl hr
    rw [Request.IsNoStatement] at hr
    refine ⟨fun sql hsql => ?_, fun answer => ?_⟩
    · rw [hr] at hsql
      cases hsql
    · simp [Watch.script, hr]
  have hmono : ((m.run s).bind .done).Obeys Watch.script
      (fun a left' => LeavesOver left a.1 left') left :=
    Dialogue.obeys_bind hobeys fun a left' hleft => .done fun _ _ => hleft
  rwa [Dialogue.bind_done] at hmono

theorem follows_bind {m : SessionM α} {f : α → SessionM β} (h : Follows m left rest)
    (hf : ∀ a, Follows (f a) rest rest') : Follows (m >>= f) left rest' := by
  refine Session.follows_bind h ?_
  rintro (e | a) left' hleft
  · exact Session.follows_pure (leavesOver_error e left')
  · obtain rfl := hleft a rfl
    exact hf a

/-- **Sending a statement** takes it from those that are left. -/
theorem follows_query (sql : String) : Follows (ask (.query sql)) (sql :: rest) rest := by
  intro s
  refine .ask (fun sql' hsql => ?_) fun answer => .done fun _ _ => rfl
  obtain rfl := Option.some.inj hsql
  exact ⟨rest, rfl⟩

theorem follows_throw (e : OracleError) : Follows (throw e : SessionM α) left rest :=
  Session.follows_pure (leavesOver_error e left)

/-- A step that cannot end in an error goes before one that can. -/
theorem follows_lift_bind {post : α → List String → Prop} {m : StateT Session Dialogue α}
    {f : α → SessionM β} (h : Session.Follows post m left)
    (hf : ∀ a left', post a left' → (f a).Follows left' rest) :
    Follows ((liftM m : SessionM α) >>= f) left rest := by
  rw [Follows, run_lift_bind]
  exact Session.follows_bind h hf

end SessionM

section Rounds

theorem follows_collect (sql : String) : (collect errors sql).Follows (sql :: rest) rest := by
  refine SessionM.follows_bind (SessionM.follows_of_asks (SessionM.asks_recordQuery rfl rfl)) ?_
  intro _
  refine SessionM.follows_bind (SessionM.follows_query sql) fun answer => ?_
  exact SessionM.follows_of_asks (SessionM.asks_ofExcept _)

/-- What is left behind a result that was put together. -/
def CombinedResult.LeavesOver (rest : List String) (result : CombinedResult) (left : List String) :
    Prop :=
  Trisect.LeavesOver rest result.cells left

theorem follows_concatenate (queries : List String) :
    Session.Follows (CombinedResult.LeavesOver []) (concatenate errors queries) queries := by
  induction queries with
  | nil => exact Session.follows_pure fun _ _ => rfl
  | cons q qs ih =>
    refine Session.follows_bind (follows_collect q) ?_
    rintro (e | cells) left hleft
    · exact Session.follows_pure (leavesOver_error e left)
    · obtain rfl := hleft cells rfl
      -- the results of the others are put together with this one only if they all are there
      refine Session.follows_bind ih fun result left hresult => Session.follows_pure ?_
      intro all hall
      cases hcells : result.cells with
      | error e =>
        rw [hcells] at hall
        cases hall
      | ok later => exact hresult later hcells

theorem follows_combineAs (text : String) :
    Session.Follows (CombinedResult.LeavesOver []) (combineAs errors text) [text] :=
  Session.follows_bind (follows_collect text) fun _ _ hleft => Session.follows_pure hleft

/-- **Putting the parts together** sends the statements of the form it takes. -/
theorem follows_combine (dialect : Dialect) (q : CombinedQuery) :
    Session.Follows (CombinedResult.LeavesOver []) (combine dialect errors q)
      (q.statements dialect) := by
  rw [combine, CombinedQuery.statements]
  cases q.combination with
  | preserveDuplicates =>
    cases q.singleStatement with
    | true => exact follows_combineAs _
    | false => exact follows_concatenate _
  | eliminateDuplicates =>
    cases q.singleStatement with
    | true => exact follows_combineAs _
    | false => exact Session.follows_pure (leavesOver_error _ _)

theorem asks_compare (o : Oracle) (whole : String) (parts : List String)
    (first second : List Cell) :
    (o.compare whole parts first second).Asks Request.IsNoStatement := by
  have hequal : ∀ first second : List Cell,
      (assertEqual whole parts first second).Asks Request.IsNoStatement := by
    intro first second
    rw [assertEqual]
    split
    · exact SessionM.asks_pure _
    · refine SessionM.asks_bind (SessionM.asks_ask (r := .writeDiagnostic _) rfl) fun _ => ?_
      exact SessionM.asks_bind (SessionM.asks_modify _) fun _ => SessionM.asks_throw _
  rw [Oracle.compare]
  split
  · exact hequal _ _
  · exact hequal _ _

variable (o : Oracle)

theorem follows_checkParts (base : Select) (condition : String) :
    (o.checkParts base condition).Follows
      (base.sql :: CombinedQuery.statements o.dialect
        ⟨o.kind.components base condition, o.kind.combination, o.singleStatement base⟩) [] := by
  refine SessionM.follows_bind (follows_collect _) fun first => ?_
  refine SessionM.follows_lift_bind (follows_combine o.dialect _) fun result left hresult => ?_
  cases hcells : result.cells with
  | error e => exact SessionM.follows_throw e
  | ok second =>
    obtain rfl := hresult second hcells
    exact SessionM.follows_of_asks (asks_compare o _ _ _ _)

theorem follows_checkAggregate (base : Select) (f : AggregateFn) (argument condition : String) :
    (o.checkAggregate base f argument condition).Follows
      [aggregateOfWhole base f argument, aggregateOfParts base f argument condition] [] := by
  refine SessionM.follows_bind (follows_collect _) fun first => ?_
  refine SessionM.follows_bind (follows_collect _) fun second => SessionM.follows_of_asks ?_
  split
  · exact SessionM.asks_pure _
  · exact asks_compare o _ _ _ _

/-! ### Rounds -/

variable {σ : Type} (h : Handler σ) (s : Session) (w : σ)

/-- The statements of a step are the beginning of those that it follows. -/
theorem SessionM.Follows.statementsOf_prefix {m : SessionM α} (hm : m.Follows left rest) :
    statementsOf ((m.run s).transcript h w) <+: left := by
  obtain ⟨last, hpasses, -⟩ := (hm s).passes h w
  exact hpasses.statementsOf_prefix

/-- What is done with the result of a dialogue is not in its transcript. -/
theorem transcript_bind_done (d : Dialogue α) (f : α → β) :
    (d.bind fun a => .done (f a)).transcript h w = d.transcript h w := by
  rw [Dialogue.transcript_bind]
  split
  · exact List.append_nil _
  · exact List.append_nil _

/-- A transcript without statements, or one of a round that follows an offer. -/
def Oracle.IsRound (t : List Exchange) : Prop :=
  statementsOf t = [] ∨ ∃ x : Offer, o.kind.offering x <+: t ∧
    statementsOf t <+: o.wholeQuery x :: o.partQueries x

/-- After exchanges without a statement, **asking the source** for something adds none. There is
more to the transcript only if the source gives what it is asked for. -/
theorem isRound_offered {made : List Exchange} (hmade : statementsOf made = []) {r : Request}
    (hr : r.IsNoStatement) {x : r.Answer → Except OracleError α} {f : α → SessionM β}
    (hf : ∀ answer a w, x answer = .ok a →
      o.IsRound (made ++ [⟨r, some answer⟩] ++ ((f a).run s).transcript h w)) :
    o.IsRound (made ++ Dialogue.transcript h
      ((SessionM.ask r >>= fun answer => SessionM.ofExcept (x answer) >>= f).run s) w) := by
  have hnone : ∀ answer, statementsOf (made ++ [⟨r, answer⟩]) = [] := by
    intro answer
    rw [Request.IsNoStatement] at hr
    rw [statementsOf, List.filterMap_append, ← statementsOf, hmade]
    simp [hr]
  change o.IsRound (made ++ Dialogue.transcript h (.ask r _) w)
  rw [Dialogue.transcript]
  rcases h r w with ⟨_ | answer, w'⟩
  · exact .inl (hnone none)
  · change o.IsRound (made ++ ⟨r, some answer⟩ ::
      ((SessionM.ofExcept (x answer) >>= f).run s).transcript h w')
    cases ha : x answer with
    | error e => exact .inl (hnone _)
    | ok a =>
      have hgoes := hf answer a w' ha
      rw [List.append_assoc] at hgoes
      exact hgoes

/-- Exchanges in which an offer is made, and then a step that follows it. -/
theorem isRound_of_follows {made : List Exchange} {x : Offer} {m : SessionM α}
    (hmade : o.kind.offering x = made)
    (hm : m.Follows (o.wholeQuery x :: o.partQueries x) []) :
    o.IsRound (made ++ (m.run s).transcript h w) := by
  subst hmade
  have hsource : statementsOf (o.kind.offering x) = [] := by
    cases o.kind <;> rfl
  refine .inr ⟨x, List.prefix_append _ _, ?_⟩
  rw [statementsOf, List.filterMap_append, ← statementsOf, hsource]
  exact hm.statementsOf_prefix h s w

theorem isRound_transcript_check : o.IsRound ((o.check.run s).transcript h w) := by
  rw [Oracle.check, Oracle.askBase]
  simp only [bind_assoc, pure_bind]
  rw [← List.nil_append (Dialogue.transcript _ _ _)]
  refine isRound_offered o h s w rfl (r := .baseSelect) rfl ?_
  rintro _ base w₁ rfl
  -- the four kinds that check parts differ in what they ask for before they do
  have hparts : ∀ condition aggregate, o.kind ≠ .aggregate →
      (o.checkParts (o.kind.prepare base) condition).Follows
        (o.wholeQuery ⟨base, condition, aggregate⟩ ::
          o.partQueries ⟨base, condition, aggregate⟩) [] := by
    intro condition aggregate hne
    rw [Oracle.wholeQuery, Oracle.partQueries, if_neg hne, if_neg hne]
    exact follows_checkParts o (o.kind.prepare base) condition
  split
  · next hk =>
    refine isRound_offered o h s w₁ rfl (r := .aggregate) rfl ?_
    rintro _ ⟨f, argument⟩ w₂ rfl
    refine isRound_offered o h s w₂ rfl (r := .predicate) rfl ?_
    rintro _ condition w₃ rfl
    refine isRound_of_follows o h s w₃ (x := ⟨base, condition, (f, argument)⟩) ?_ ?_
    · rw [hk]
      rfl
    · rw [Oracle.wholeQuery, Oracle.partQueries, if_pos hk, if_pos hk]
      exact follows_checkAggregate o (o.kind.prepare base) f argument condition
  · next hk =>
    refine isRound_offered o h s w₁ rfl (r := .groupPredicate _) rfl ?_
    rintro _ condition w₂ rfl
    refine isRound_of_follows o h s w₂ ?_ (hparts condition default (by simp [hk]))
    rw [hk]
    rfl
  · next hne hne' =>
    refine isRound_offered o h s w₁ rfl (r := .predicate) rfl ?_
    rintro _ condition w₂ rfl
    refine isRound_of_follows o h s w₂ ?_ (hparts condition default hne)
    exact OracleKind.offering_eq hne hne'

/-- **The clauses of a round**, whoever answers. Nothing is sent before an offer is made. Then it is
the query over the whole that is sent, and after it the statements that put the three parts
together, up to some point. The query over the whole has only clauses that its kind has room for if
and only if the base query of the offer suits the kind. -/
theorem Oracle.clauses_of_round {σ : Type} (h : Handler σ) (o : Oracle) (s : Session) (w : σ) :
    statementsOf ((o.runRound.run s).transcript h w) = [] ∨
      ∃ x : Offer, o.kind.offering x <+: (o.runRound.run s).transcript h w ∧
        statementsOf ((o.runRound.run s).transcript h w) <+:
          (o.kind.whole x).sql :: o.joined x (o.kind.partTexts x) ∧
        (o.kind.HasRoom (o.kind.whole x) ↔ o.kind.Suits x.base) := by
  have ht : (o.runRound.run s).transcript h w = (o.check.run s).transcript h w :=
    transcript_bind_done h w (o.check.run s) _
  rw [ht]
  rcases isRound_transcript_check o h s w with hnone | ⟨x, hoffer, hstatements⟩
  · exact .inl hnone
  · rw [wholeQuery_eq, partQueries_eq] at hstatements
    exact .inr ⟨x, hoffer, hstatements, o.kind.hasRoom_whole_iff x⟩

end Rounds

/-! ### Base queries that do not suit -/

/-- How a round ends that is given an offer and, one after the other, rows. -/
def OracleKind.outcomeOf (k : OracleKind) (x : Offer) (answers : List (List Cell)) :
    Option RoundOutcome :=
  let w : World (List EngineAnswer) Unit MemoryLog :=
    ⟨answers.map fun cells => .ok (.rows cells), (), {}⟩
  (((Oracle.mk k ∅ .sqlite).runRound.run (.new false "db0" 0)).run x.handler w).1.map Prod.fst

open Sql in
/-- **False alarms** about two rows, that hold 0 and 1, and 0 and 5. The first is a round on rows
over a query that keeps every row once, and its answers are what the statements mean. The answers of
the other two are those of an engine that groups the rows by what they hold first and keeps a group
if the sum over it is more than 5, which it is over the whole but over no part. -/
theorem Oracle.false_alarms_of_unsuitable_bases :
    (let o : Oracle := ⟨.whereClause, ∅, .sqlite⟩
      let base : Query Nat Cell := { distinct := true, fetch := ["t0.c0"], tables := ["t0"] }
      let p : Predicate Nat (Tuple Cell) :=
        ⟨"t0.c1 > 1", fun r => if r = 1 then .yes else .no, fun _ => .yes⟩
      let D : Content Nat Cell := ⟨[0, 1], fun _ => (some "0", []), id⟩
      let x : Offer := base.offer p
      (¬ o.kind.HasRoom (o.kind.whole x)) ∧
        o.kind.outcomeOf x ((o.statements base p).map (Statement.cells D)) =
          some (.bug ⟨o.wholeQuery x, o.partQueries x, .cardinality 1 2⟩)) ∧
    (let base : Select := { fetch := ["t0.c0"], tables := ["t0"], having := some "SUM(t0.c1) > 5" }
      let x : Offer := ⟨base, "t0.c1 > 1", default⟩
      (¬ OracleKind.groupBy.HasRoom (OracleKind.groupBy.whole x)) ∧
        ∃ report, OracleKind.groupBy.outcomeOf x [[some "0"], []] = some (.bug report)) ∧
    (let base : Select :=
        { fetch := ["t0.c0"], tables := ["t0"], groupBy := ["t0.c0"],
          having := some "SUM(t0.c1) > 5" }
      let x : Offer := ⟨base, "t0.c1 > 1", default⟩
      (¬ OracleKind.distinct.HasRoom (OracleKind.distinct.whole x)) ∧
        ∃ report, OracleKind.distinct.outcomeOf x [[some "0"], []] = some (.bug report)) := by
  -- that the rounds end in reports is found by running them
  refine ⟨⟨by decide, rfl⟩, ⟨by decide, ?_⟩, ⟨by decide, ?_⟩⟩
  · exact ⟨_, rfl⟩
  · exact ⟨_, rfl⟩

end Trisect
