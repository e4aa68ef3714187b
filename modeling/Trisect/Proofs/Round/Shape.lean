import Trisect.Oracle.Round
import Trisect.Proofs.Disagreement
import Trisect.Session.World

/-!
# What a round does

The five kinds of oracle differ in what they ask of the source and in the statements they write, and
in nothing else. What a source gives to a round is a `Trisect.Offer`; it comes in the exchanges
`Trisect.OracleKind.offering`. From it an oracle makes the query over the whole,
`Trisect.Oracle.wholeQuery`, and the statements that rebuild its result,
`Trisect.Oracle.partQueries`.

The main statement is `Trisect.path_check`: **a round of any kind takes an offer, sends these
statements one after the other, and judges.** It says what a round is without a word of how its
kind is written, and everything about verdicts is derived from it. In particular duplicates are
never to be eliminated over several statements (`Trisect.singleStatement_prepare`), so that the
internal error for that case does not arise in a round.
-/

namespace Trisect

/-- What a source gives to a round. -/
structure Offer where
  /-- The base query, before a kind sets its clauses. -/
  base : Select
  /-- The partitioning condition. -/
  condition : String
  /-- The aggregate function and its argument; only the aggregate oracle asks for them. -/
  aggregate : AggregateFn × String

/-- The exchanges in which the offer is made to an oracle of a kind. -/
def OracleKind.offering (k : OracleKind) (x : Offer) : List Exchange :=
  match k with
  | aggregate =>
    [⟨.baseSelect, some (.ok x.base)⟩, ⟨.aggregate, some (.ok x.aggregate)⟩,
      ⟨.predicate, some (.ok x.condition)⟩]
  | having =>
    [⟨.baseSelect, some (.ok x.base)⟩, ⟨.groupPredicate x.base.fetch, some (.ok x.condition)⟩]
  | _ => [⟨.baseSelect, some (.ok x.base)⟩, ⟨.predicate, some (.ok x.condition)⟩]

theorem OracleKind.offering_eq {k : OracleKind} {x : Offer} (h : k ≠ .aggregate)
    (h' : k ≠ .having) :
    k.offering x =
      [⟨.baseSelect, some (.ok x.base)⟩, ⟨.predicate, some (.ok x.condition)⟩] := by
  cases k <;> first | rfl | contradiction

namespace Oracle

/-- The parts of the partition, and how the oracle puts them together. -/
def combined (o : Oracle) (x : Offer) : CombinedQuery :=
  ⟨o.kind.components (o.kind.prepare x.base) x.condition, o.kind.combination,
    o.singleStatement (o.kind.prepare x.base)⟩

/-- The query over the whole. -/
def wholeQuery (o : Oracle) (x : Offer) : String :=
  if o.kind = .aggregate then
    aggregateOfWhole (o.kind.prepare x.base) x.aggregate.1 x.aggregate.2
  else (o.kind.prepare x.base).sql

/-- The statements that rebuild the result of the query over the whole. -/
def partQueries (o : Oracle) (x : Offer) : List String :=
  if o.kind = .aggregate then
    [aggregateOfParts (o.kind.prepare x.base) x.aggregate.1 x.aggregate.2 x.condition]
  else (o.combined x).statements o.dialect

/-- The end of a round: the cells of the first answer are compared with those of all later ones. Two
single values may pass for the same aggregate without being equal. -/
def judge (o : Oracle) (whole : String) (parts : List String) : List (List Cell) → SessionM Unit
  | [] => pure ()
  | first :: rest =>
    if o.kind = .aggregate ∧ singleValuesAgree first rest.flatten then pure ()
    else o.compare whole parts first rest.flatten

end Oracle

/-- An offer can be read off the exchanges in which it is made, so far as the kind asks for it. -/
theorem OracleKind.offering_inj {k : OracleKind} {x y : Offer} (h : k.offering x = k.offering y) :
    x.base = y.base ∧ x.condition = y.condition ∧ (k = .aggregate → x.aggregate = y.aggregate) := by
  obtain ⟨base, condition, aggregate⟩ := x
  obtain ⟨base', condition', aggregate'⟩ := y
  cases k with
  | aggregate =>
    obtain ⟨hbase, haggregate, hcondition⟩ : base = base' ∧ aggregate = aggregate' ∧
        condition = condition' := by simpa [offering] using h
    exact ⟨hbase, hcondition, fun _ => haggregate⟩
  | having =>
    obtain ⟨rfl, hcondition⟩ : base = base' ∧ _ := by simpa [offering] using h
    exact ⟨rfl, by simpa using hcondition, fun hk => by simp at hk⟩
  | _ =>
    obtain ⟨hbase, hcondition⟩ : base = base' ∧ condition = condition' := by
      simpa [offering] using h
    exact ⟨hbase, hcondition, fun hk => by simp at hk⟩

/-- What is offered at the beginning of a transcript determines the statements of the round. -/
theorem Oracle.queries_eq_of_offering {o : Oracle} {x y : Offer} {t : List Exchange}
    (hx : o.kind.offering x <+: t) (hy : o.kind.offering y <+: t) :
    o.wholeQuery x = o.wholeQuery y ∧ o.partQueries x = o.partQueries y := by
  have hlen : (o.kind.offering x).length = (o.kind.offering y).length := by
    cases o.kind <;> rfl
  obtain ⟨hbase, hcondition, haggregate⟩ := OracleKind.offering_inj
    ((List.prefix_of_prefix_length_le hx hy (Nat.le_of_eq hlen)).eq_of_length hlen)
  rw [wholeQuery, wholeQuery, partQueries, partQueries, combined, combined, hbase, hcondition]
  by_cases hk : o.kind = .aggregate
  · rw [haggregate hk]
    exact ⟨rfl, rfl⟩
  · simp only [if_neg hk, and_self]

/-- Where duplicates are eliminated, the base query does not order its rows. -/
theorem singleStatement_prepare (o : Oracle) (base : Select)
    (h : o.kind.combination = .eliminateDuplicates) :
    o.singleStatement (o.kind.prepare base) = true := by
  rw [Oracle.singleStatement, Select.isOrdered]
  cases hk : o.kind with
  | groupBy => simp [OracleKind.prepare]
  | distinct => simp [OracleKind.prepare]
  | whereClause => simp [hk, OracleKind.combination] at h
  | having => simp [hk, OracleKind.combination] at h
  | aggregate => simp [hk, OracleKind.combination] at h

section Paths

variable {o : Oracle} {s s' : Session} {t : List Exchange} {r : Except OracleError Unit}

/-! ### Statements and their judgement -/

theorem path_checkParts {base : Select} {condition : String} (hkind : o.kind ≠ .aggregate)
    (hsingle : o.kind.combination = .eliminateDuplicates → o.singleStatement base = true)
    (h : SessionM.Path (o.checkParts base condition) s t r s') (hall : ∀ e ∈ t, e.isSmooth) :
    let parts := CombinedQuery.statements o.dialect
      ⟨o.kind.components base condition, o.kind.combination, o.singleStatement base⟩
    Sends o.errors (base.sql :: parts) (o.judge base.sql parts) s t r s' := by
  intro parts
  refine sends_cons h hall fun first t₁ h₁ hall₁ => ?_
  obtain ⟨e, h₂, -⟩ | ⟨t₂, result, s₁, t₃, h₂, h₃, rfl⟩ := SessionM.path_bind_iff.1 h₁
  · obtain ⟨_, -, he⟩ := SessionM.path_lift_iff.1 h₂
    simp at he
  obtain ⟨result', h₄, hres⟩ := SessionM.path_lift_iff.1 h₂
  obtain rfl := Except.ok.inj hres
  obtain ⟨rfl, hin, hcells, hrec⟩ :=
    path_combine hsingle h₄ fun e he => hall₁ e (List.mem_append_left _ he)
  refine ⟨t₂, t₃, rfl, hin, ?_⟩
  obtain ⟨e, he, rfl, rfl, rfl⟩ | ⟨second, hsecond, h₅⟩ := SessionM.path_ofExcept_bind_iff.1 h₃
  · cases hg : gather o.errors (sent t₂) with
    | ok rest => simp [hcells, hg, Except.map] at he
    | error e' =>
      obtain rfl : e' = e := by simpa [hcells, hg, Except.map] using he
      exact Or.inl ⟨e', rfl, rfl, rfl, rfl⟩
  · cases hg : gather o.errors (sent t₂) with
    | error e' => simp [hcells, hg, Except.map] at hsecond
    | ok rest =>
      obtain rfl : rest.flatten = second := by simpa [hcells, hg, Except.map] using hsecond
      rw [hrec _ hsecond] at h₅
      refine Or.inr ⟨rest, rfl, ?_⟩
      change SessionM.Path (o.judge base.sql parts (first :: rest)) s₁ t₃ r s'
      rw [Oracle.judge, if_neg fun hc => hkind hc.1]
      exact h₅

theorem path_checkAggregate {base : Select} {f : AggregateFn} {argument condition : String}
    (hkind : o.kind = .aggregate)
    (h : SessionM.Path (o.checkAggregate base f argument condition) s t r s')
    (hall : ∀ e ∈ t, e.isSmooth) :
    let whole := aggregateOfWhole base f argument
    let parts := [aggregateOfParts base f argument condition]
    Sends o.errors (whole :: parts) (o.judge whole parts) s t r s' := by
  intro whole parts
  refine sends_cons h hall fun first t₁ h₁ hall₁ => sends_cons h₁ hall₁ fun second t₂ h₂ _ => ?_
  refine sends_nil ?_
  rw [Oracle.judge]
  simpa [hkind] using h₂

/-! ### The offer -/

/-- Asking the source for something, on a path on which it gives what it is asked for. -/
theorem path_ask_offered {α β : Type} {q : Request} (x : q.Answer → Except OracleError α)
    (hx : ∀ answer, Exchange.isSmooth ⟨q, some answer⟩ = (x answer).isOk)
    {f : α → SessionM β} {r : Except OracleError β}
    (h : SessionM.Path (SessionM.ask q >>= fun answer => SessionM.ofExcept (x answer) >>= f)
      s t r s')
    (hall : ∀ e ∈ t, e.isSmooth) :
    ∃ answer a t', x answer = .ok a ∧ SessionM.Path (f a) s t' r s' ∧
      t = ⟨q, some answer⟩ :: t' := by
  obtain ⟨answer, t', h', rfl⟩ := SessionM.path_ask_bind_iff.1 h
  have hok := hall ⟨q, some answer⟩ List.mem_cons_self
  obtain ⟨e, he, -⟩ | ⟨a, ha, h''⟩ := SessionM.path_ofExcept_bind_iff.1 h'
  · simp [hx, he, Except.isOk, Except.toBool] at hok
  · exact ⟨answer, a, t', ha, h'', rfl⟩

theorem path_askBase {k : OracleKind} {r : Except OracleError Select}
    (h : SessionM.Path (Oracle.askBase k) s t r s') (hall : ∀ e ∈ t, e.isSmooth) :
    ∃ base, t = [⟨.baseSelect, some (.ok base)⟩] ∧ r = .ok (k.prepare base) ∧ s' = s := by
  obtain ⟨answer, base, t', rfl, h', rfl⟩ :=
    path_ask_offered (q := .baseSelect) id (fun _ => rfl) h hall
  obtain ⟨rfl, rfl, rfl⟩ := SessionM.path_pure_iff.1 h'
  exact ⟨base, rfl, rfl, rfl⟩

/-- **What a round does**: it takes an offer, sends the query over the whole and the statements of
the parts, one after the other, and judges. -/
theorem path_check (h : SessionM.Path o.check s t r s') (hall : ∀ e ∈ t, e.isSmooth) :
    ∃ x t', t = o.kind.offering x ++ t' ∧
      Sends o.errors (o.wholeQuery x :: o.partQueries x)
        (o.judge (o.wholeQuery x) (o.partQueries x)) s t' r s' := by
  rw [Oracle.check] at h
  obtain ⟨e, h₁, rfl⟩ | ⟨t₁, base, s₁, t₂, h₁, h₂, rfl⟩ := SessionM.path_bind_iff.1 h
  · obtain ⟨_, -, he, -⟩ := path_askBase h₁ hall
    simp at he
  obtain ⟨base', rfl, hbase, rfl⟩ := path_askBase h₁ fun e he => hall e (List.mem_append_left _ he)
  obtain rfl := Except.ok.inj hbase
  have hall₂ : ∀ e ∈ t₂, e.isSmooth := fun e he => hall e (List.mem_append_right _ he)
  split at h₂
  · next hk =>
    obtain ⟨_, ⟨f, argument⟩, t₃, rfl, h₃, rfl⟩ :=
      path_ask_offered (q := .aggregate) id (fun _ => rfl) h₂ hall₂
    obtain ⟨_, condition, t₄, rfl, h₄, rfl⟩ :=
      path_ask_offered (q := .predicate) id (fun _ => rfl) h₃ fun e he =>
        hall₂ e (List.mem_cons_of_mem _ he)
    refine ⟨⟨base', condition, (f, argument)⟩, t₄, by rw [hk]; rfl, ?_⟩
    rw [Oracle.wholeQuery, Oracle.partQueries, if_pos hk, if_pos hk]
    exact path_checkAggregate hk h₄ fun e he =>
      hall₂ e (List.mem_cons_of_mem _ (List.mem_cons_of_mem _ he))
  · next hk =>
    obtain ⟨_, condition, t₃, rfl, h₃, rfl⟩ :=
      path_ask_offered (q := .groupPredicate _) id (fun _ => rfl) h₂ hall₂
    refine ⟨⟨base', condition, default⟩, t₃, by rw [hk]; rfl, ?_⟩
    have hne : o.kind ≠ .aggregate := by simp [hk]
    rw [Oracle.wholeQuery, Oracle.partQueries, if_neg hne, if_neg hne]
    exact path_checkParts hne (singleStatement_prepare o base') h₃ fun e he =>
      hall₂ e (List.mem_cons_of_mem _ he)
  · next hne hne' =>
    obtain ⟨_, condition, t₃, rfl, h₃, rfl⟩ :=
      path_ask_offered (q := .predicate) id (fun _ => rfl) h₂ hall₂
    refine ⟨⟨base', condition, default⟩, t₃, by rw [OracleKind.offering_eq hne hne']; rfl, ?_⟩
    rw [Oracle.wholeQuery, Oracle.partQueries, if_neg hne, if_neg hne]
    exact path_checkParts hne (singleStatement_prepare o base') h₃ fun e he =>
      hall₂ e (List.mem_cons_of_mem _ he)

end Paths

/-! ### Rounds by script -/

/-- An engine that gives prepared answers to queries, one after the other, and breaks down when it
has no more. -/
def Connection.scripted : Connection (List EngineAnswer) where
  query _ answers :=
    match answers with
    | [] => (none, [])
    | answer :: answers => (some answer, answers)
  execute _ answers := (some (.ok ()), answers)
  tables answers := (some (.ok []), answers)
  version answers := (some none, answers)

/-- The dialect of SQLite, with no message in it that is benign. -/
def Dialect.strict : Dialect := { sqlite with expectedErrors := [], expectedErrorPatterns := [] }

/-- A source that has a single offer to make. -/
def Offer.source (x : Offer) : ShapeSource Unit where
  refresh _ := .done (.ok (), ())
  baseSelect _ := (.ok x.base, ())
  predicate _ := (.ok x.condition, ())
  groupPredicate _ _ := (.ok x.condition, ())
  aggregate _ := (.ok x.aggregate, ())

/-- Who answers a round that has an offer and prepared answers, and keeps its log in memory. -/
def Offer.handler (x : Offer) : Handler (World (List EngineAnswer) Unit MemoryLog) :=
  World.handler Connection.scripted x.source MemoryLog.journal

end Trisect
