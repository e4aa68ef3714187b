import Mathlib.Data.List.Dedup
import Trisect.ExpectedErrors

/-!
# What a set of expected errors looks for

A set of expected errors comes about by operations, some of which refuse what they are given, and
some of which get half through a list before they do. A `Trisect.History` is a record of such
operations, with further histories in it where sets are merged, and `Trisect.History.accepted` lists
the matchers that were accepted on the way, in order and with every repetition. It is read off the
written forms alone: a literal is accepted unless it is empty, a pattern if it can be read, and the
members of a list up to the first that is not. All of this is for any reader of patterns.

That a set **gathers** a list of matchers, `Trisect.ExpectedErrors.Gathers`, is what every operation
preserves, the matchers it accepts being added to the list, and so what a whole history comes to
(`Trisect.History.gathers`). From it is read off which messages are expected
(`Trisect.ExpectedErrors.Gathers.expects_iff`): those in which some accepted matcher is found,
whatever else was tried. Neither the order nor the repetition of matchers makes a difference to
that; it does make one to their number (`Trisect.ExpectedErrors.Gathers.size_eq`), since a literal
is kept once and a pattern as often as it was put in.
-/

namespace Trisect

/-! ### Matchers -/

/-- What is looked for in a message. -/
inductive Matcher
  | literal (text : String)
  | pattern (p : Pattern)

namespace Matcher

/-- Whether a matcher is found in a message: a literal as a part of it, a pattern by a match of some
part. -/
def Hits (message : String) : Matcher → Prop
  | literal text => text.toList <:+: message.toList
  | pattern p => p.occursIn message = true

/-- The text of a literal. -/
def text? : Matcher → Option String
  | literal text => some text
  | pattern _ => none

/-- The pattern, if a matcher is one. -/
def pattern? : Matcher → Option Pattern
  | literal _ => none
  | pattern p => some p

/-- The literal with a text; the empty text is none. -/
def ofText? (text : String) : Option Matcher := if text = "" then none else some (literal text)

/-- The pattern with a written form, if it can be read; the empty form is none. -/
def ofSource? [PatternReader] (source : String) : Option Matcher :=
  if source = "" then none else (PatternReader.compile source).toOption.map pattern

/-- The matchers that the members of a list stand for, up to the first that stands for none. -/
def upToFault (read : String → Option Matcher) : List String → List Matcher
  | [] => []
  | m :: ms =>
    match read m with
    | none => []
    | some x => x :: upToFault read ms

theorem ofText?_ne (text : String) : ofText? text ≠ some (literal "") := by
  rw [ofText?]
  split
  · simp
  · next hne => simpa using hne

theorem ofSource?_ne [PatternReader] (source : String) :
    ofSource? source ≠ some (literal "") := by
  rw [ofSource?]
  split
  · simp
  · cases PatternReader.compile source <;> simp [Except.toOption]

/-- What cannot be read off a single written form is not read off a list of them. -/
theorem notMem_upToFault {read : String → Option Matcher} {x : Matcher}
    (hread : ∀ m, read m ≠ some x) (ms : List String) : x ∉ upToFault read ms := by
  induction ms with
  | nil => simp [upToFault]
  | cons m ms ih =>
    rw [upToFault]
    cases hm : read m with
    | none => simp
    | some y =>
      have hne : x ≠ y := by
        rintro rfl
        exact hread m hm
      exact List.not_mem_cons_of_ne_of_not_mem hne ih

end Matcher

namespace ExpectedErrors

open Matcher (upToFault)

/-! ### Sets that gather matchers -/

theorem mem_addTo {l x : String} {ls : List String} : x ∈ addTo l ls ↔ x ∈ ls ∨ x = l := by
  rw [addTo]
  split
  · next hmem =>
    refine ⟨Or.inl, ?_⟩
    rintro (h | rfl)
    · exact h
    · exact hmem
  · rw [List.mem_append, List.mem_singleton]

theorem nodup_addTo {l : String} {ls : List String} (h : ls.Nodup) : (addTo l ls).Nodup := by
  rw [addTo]
  split
  · exact h
  · next hmem =>
    rw [← List.concat_eq_append]
    exact h.concat hmem

theorem mem_foldl_addTo {x : String} (ms ls : List String) :
    x ∈ ms.foldl (fun literals l => addTo l literals) ls ↔ x ∈ ls ∨ x ∈ ms := by
  induction ms generalizing ls with
  | nil => simp
  | cons m ms ih => rw [List.foldl_cons, ih, mem_addTo, or_assoc, List.mem_cons]

theorem nodup_foldl_addTo (ms : List String) {ls : List String} (h : ls.Nodup) :
    (ms.foldl (fun literals l => addTo l literals) ls).Nodup := by
  induction ms generalizing ls with
  | nil => exact h
  | cons m ms ih => exact ih (nodup_addTo h)

/-- **A set gathers a list of matchers**: it keeps the literals among them, each once, and the
patterns as they come. -/
structure Gathers (xs : List Matcher) (errors : ExpectedErrors) : Prop where
  mem_literals : ∀ l, l ∈ errors.literals ↔ Matcher.literal l ∈ xs
  nodup : errors.literals.Nodup
  patterns : errors.patterns = xs.filterMap Matcher.pattern?

variable {xs ys : List Matcher} {errors a b : ExpectedErrors}

theorem gathers_empty : Gathers [] empty where
  mem_literals l := by simp [empty]
  nodup := List.nodup_nil
  patterns := rfl

theorem Gathers.withLiteral (h : Gathers xs errors) (text : String) :
    Gathers (xs ++ [.literal text]) { errors with literals := addTo text errors.literals } where
  mem_literals l := by
    rw [mem_addTo, h.mem_literals, List.mem_append, List.mem_singleton, Matcher.literal.injEq]
  nodup := nodup_addTo h.nodup
  patterns := by
    rw [List.filterMap_append, ← h.patterns]
    exact (List.append_nil _).symm

theorem Gathers.addCompiled (h : Gathers xs errors) (p : Pattern) :
    Gathers (xs ++ [.pattern p]) (errors.addCompiled p) where
  mem_literals l := by
    have hne : Matcher.literal l ≠ .pattern p := by simp
    rw [List.mem_append, List.mem_singleton, or_iff_left hne]
    exact h.mem_literals l
  nodup := h.nodup
  patterns := by
    rw [List.filterMap_append, ← h.patterns]
    rfl

/-- Merging gathers the matchers of both sets. -/
theorem Gathers.merge (ha : Gathers xs a) (hb : Gathers ys b) : Gathers (xs ++ ys) (a.merge b) where
  mem_literals l := by
    have hmerge : l ∈ (a.merge b).literals ↔ l ∈ a.literals ∨ l ∈ b.literals :=
      mem_foldl_addTo b.literals a.literals
    rw [hmerge, ha.mem_literals, hb.mem_literals, List.mem_append]
  nodup := nodup_foldl_addTo b.literals ha.nodup
  patterns := by
    rw [List.filterMap_append, ← ha.patterns, ← hb.patterns]
    rfl

/-- **The messages that are expected** are those in which one of the gathered matchers is found. -/
theorem Gathers.expects_iff (h : Gathers xs errors) (message : String) :
    errors.expects message = true ↔ ∃ x ∈ xs, x.Hits message := by
  rw [expects, Bool.or_eq_true, List.any_eq_true, List.any_eq_true, h.patterns]
  constructor
  · rintro (⟨l, hl, hocc⟩ | ⟨p, hp, hocc⟩)
    · exact ⟨.literal l, (h.mem_literals l).1 hl, Text.occursIn_iff.1 hocc⟩
    · obtain ⟨x, hx, hxp⟩ := List.mem_filterMap.1 hp
      cases x with
      | literal text => cases hxp
      | pattern q =>
        obtain rfl := Option.some.inj hxp
        exact ⟨.pattern q, hx, hocc⟩
  · rintro ⟨x, hx, hhit⟩
    cases x with
    | literal l => exact Or.inl ⟨l, (h.mem_literals l).2 hx, Text.occursIn_iff.2 hhit⟩
    | pattern p => exact Or.inr ⟨p, List.mem_filterMap.2 ⟨_, hx, rfl⟩, hhit⟩

/-- **The number of matchers**: every literal counts once, every pattern as often as it was put
in. -/
theorem Gathers.size_eq (h : Gathers xs errors) :
    errors.size =
      (xs.filterMap Matcher.text?).dedup.length + (xs.filterMap Matcher.pattern?).length := by
  have hperm : errors.literals.Perm (xs.filterMap Matcher.text?).dedup := by
    refine (List.perm_ext_iff_of_nodup h.nodup (List.nodup_dedup _)).2 fun l => ?_
    rw [h.mem_literals, List.mem_dedup, List.mem_filterMap]
    constructor
    · intro hl
      exact ⟨_, hl, rfl⟩
    · rintro ⟨x, hx, hl⟩
      cases x with
      | literal text =>
        obtain rfl := Option.some.inj hl
        exact hx
      | pattern p => cases hl
  rw [size, hperm.length_eq, h.patterns]

/-! ### Operations that add matchers -/

/-- A written form that stands for no matcher is refused; another adds its matcher to the set. -/
def Adds (add : ExpectedErrors → String → Except OracleError ExpectedErrors)
    (read : String → Option Matcher) : Prop :=
  ∀ errors m, (read m = none ∧ ∃ fault, add errors m = .error fault) ∨
    ∃ x errors', read m = some x ∧ add errors m = .ok errors' ∧
      ∀ xs, Gathers xs errors → Gathers (xs ++ [x]) errors'

theorem adds_addLiteral : Adds addLiteral Matcher.ofText? := by
  intro errors text
  rw [addLiteral, literalFault?, Matcher.ofText?]
  by_cases htext : text = ""
  · subst htext
    exact Or.inl ⟨rfl, _, rfl⟩
  · rw [if_neg htext, if_neg (by simpa using htext)]
    exact Or.inr ⟨_, _, rfl, rfl, fun xs h => h.withLiteral text⟩

theorem adds_addPattern [PatternReader] : Adds addPattern Matcher.ofSource? := by
  intro errors source
  rw [addPattern, compilePattern, Matcher.ofSource?]
  by_cases hsource : source = ""
  · subst hsource
    exact Or.inl ⟨rfl, _, rfl⟩
  · rw [if_neg hsource, if_neg (by simpa using hsource)]
    cases PatternReader.compile source with
    | error fault => exact Or.inl ⟨rfl, _, rfl⟩
    | ok p => exact Or.inr ⟨_, _, rfl, rfl, fun xs h => h.addCompiled p⟩

section AddAll

variable {add : ExpectedErrors → String → Except OracleError ExpectedErrors}
  {read : String → Option Matcher}

/-- **Adding the members of a list** adds those before the first that is refused. -/
theorem Gathers.addAll (hadd : Adds add read) (h : Gathers xs errors) (ms : List String) :
    Gathers (xs ++ upToFault read ms) (addAll add errors ms).1 := by
  induction ms generalizing xs errors with
  | nil => simpa [upToFault, ExpectedErrors.addAll] using h
  | cons m ms ih =>
    rw [ExpectedErrors.addAll, upToFault]
    obtain ⟨hread, fault, hfault⟩ | ⟨x, errors', hread, hok, hx⟩ := hadd errors m
    · rw [hread, hfault]
      simpa using h
    · rw [hread, hok]
      have hrest := ih (hx xs h)
      rwa [List.append_assoc, List.singleton_append] at hrest

/-- It succeeds if none is refused. -/
theorem addAll_eq_ok_iff (hadd : Adds add read) (errors : ExpectedErrors) (ms : List String) :
    (addAll add errors ms).2 = .ok () ↔ ∀ m ∈ ms, (read m).isSome := by
  induction ms generalizing errors with
  | nil => simp [addAll]
  | cons m ms ih =>
    rw [addAll, List.forall_mem_cons]
    obtain ⟨hread, fault, hfault⟩ | ⟨x, errors', hread, hok, -⟩ := hadd errors m
    · simp [hread, hfault]
    · rw [hread, hok]
      exact (ih errors').trans (and_iff_right rfl).symm

end AddAll

end ExpectedErrors

/-! ### Written matchers -/

namespace MatcherList

open Matcher (upToFault ofText? ofSource?)

variable [PatternReader]

/-- Whether every written matcher stands for one. -/
def Readable (m : MatcherList) : Prop :=
  (∀ text ∈ m.literals, (ofText? text).isSome) ∧ ∀ source ∈ m.patterns, (ofSource? source).isSome

instance (m : MatcherList) : Decidable m.Readable :=
  inferInstanceAs (Decidable ((∀ text ∈ m.literals, _) ∧ ∀ source ∈ m.patterns, _))

/-- The matchers that are written in a list. -/
def matchers (m : MatcherList) : List Matcher :=
  upToFault ofText? m.literals ++ upToFault ofSource? m.patterns

/-- **A set is made of written matchers** if all of them can be read, and gathers them. -/
theorem ofMatchers_cases (m : MatcherList) :
    (m.Readable ∧ ∃ errors, ExpectedErrors.ofMatchers m = .ok errors ∧ errors.Gathers m.matchers) ∨
      (¬ m.Readable ∧ ∃ fault, ExpectedErrors.ofMatchers m = .error fault) := by
  open ExpectedErrors in
  have hliterals := addAll_eq_ok_iff adds_addLiteral empty m.literals
  have hgathers := gathers_empty.addAll adds_addLiteral m.literals
  rw [ofMatchers, extend, extendLiterals]
  rcases hadded : addAll addLiteral empty m.literals with ⟨errors, fault | ⟨⟩⟩
  · rw [hadded] at hliterals
    refine Or.inr ⟨fun hreadable => ?_, fault, rfl⟩
    cases hliterals.2 hreadable.1
  · rw [hadded] at hliterals hgathers
    have hpatterns := addAll_eq_ok_iff adds_addPattern errors m.patterns
    have hgathers' := hgathers.addAll adds_addPattern m.patterns
    dsimp only
    rw [extendPatterns]
    rcases hadded' : addAll addPattern errors m.patterns with ⟨errors', fault | ⟨⟩⟩
    · rw [hadded'] at hpatterns
      refine Or.inr ⟨fun hreadable => ?_, fault, rfl⟩
      cases hpatterns.2 hreadable.2
    · rw [hadded'] at hpatterns hgathers'
      exact Or.inl ⟨⟨hliterals.1 rfl, hpatterns.1 rfl⟩, errors', rfl, hgathers'⟩

end MatcherList

/-! ### Histories -/

/-- An operation on a set of expected errors. -/
inductive Change
  | addLiteral (text : String)
  | addPattern (source : String)
  | addCompiled (p : Pattern)
  | extendLiterals (texts : List String)
  | extendPatterns (sources : List String)

namespace Change

open Matcher (upToFault ofText? ofSource?)

/-- The set after an operation that adds a single matcher: one that refuses it leaves the set as it
is. -/
def replyTo (errors : ExpectedErrors) :
    Except OracleError ExpectedErrors → ExpectedErrors × Except OracleError Unit
  | .ok errors' => (errors', .ok ())
  | .error fault => (errors, .error fault)

/-- The set after an operation, and the reply to it. -/
def apply [PatternReader] (errors : ExpectedErrors) :
    Change → ExpectedErrors × Except OracleError Unit
  | addLiteral text => replyTo errors (errors.addLiteral text)
  | addPattern source => replyTo errors (errors.addPattern source)
  | addCompiled p => (errors.addCompiled p, .ok ())
  | extendLiterals texts => errors.extendLiterals texts
  | extendPatterns sources => errors.extendPatterns sources

/-- The matchers that an operation accepts. -/
def accepted [PatternReader] : Change → List Matcher
  | addLiteral text => upToFault ofText? [text]
  | addPattern source => upToFault ofSource? [source]
  | addCompiled p => [.pattern p]
  | extendLiterals texts => upToFault ofText? texts
  | extendPatterns sources => upToFault ofSource? sources

/-- Adding one matcher is adding a list of one. -/
theorem replyTo_eq (add : ExpectedErrors → String → Except OracleError ExpectedErrors)
    (errors : ExpectedErrors) (m : String) :
    replyTo errors (add errors m) = ExpectedErrors.addAll add errors [m] := by
  rw [ExpectedErrors.addAll]
  cases add errors m with
  | ok errors' => rfl
  | error fault => rfl

/-- **What an operation preserves**: it adds the matchers that it accepts to those that are
gathered. -/
theorem gathers_apply [PatternReader] {xs : List Matcher} {errors : ExpectedErrors}
    (h : errors.Gathers xs) (c : Change) : (c.apply errors).1.Gathers (xs ++ c.accepted) := by
  open ExpectedErrors in
  cases c with
  | addLiteral text =>
    rw [apply, replyTo_eq]
    exact h.addAll adds_addLiteral [text]
  | addPattern source =>
    rw [apply, replyTo_eq]
    exact h.addAll adds_addPattern [source]
  | addCompiled p => exact h.addCompiled p
  | extendLiterals texts => exact h.addAll adds_addLiteral texts
  | extendPatterns sources => exact h.addAll adds_addPattern sources

theorem literal_empty_notMem_accepted [PatternReader] (c : Change) :
    Matcher.literal "" ∉ c.accepted := by
  cases c with
  | addLiteral text => exact Matcher.notMem_upToFault Matcher.ofText?_ne [text]
  | addPattern source => exact Matcher.notMem_upToFault Matcher.ofSource?_ne [source]
  | addCompiled p => simp [accepted]
  | extendLiterals texts => exact Matcher.notMem_upToFault Matcher.ofText?_ne texts
  | extendPatterns sources => exact Matcher.notMem_upToFault Matcher.ofSource?_ne sources

end Change

/-- **How a set of expected errors comes about.** -/
inductive History
  /-- The set without matchers. -/
  | new
  /-- A set made of written matchers in the place of the one there was, which stays if one of them
  cannot be read. -/
  | made (h : History) (m : MatcherList)
  /-- A further operation. -/
  | changed (h : History) (c : Change)
  /-- A second set is merged into the first. -/
  | merged (h other : History)

namespace History

variable [PatternReader]

/-- The set that comes about. -/
def result : History → ExpectedErrors
  | new => ∅
  | made h m =>
    match ExpectedErrors.ofMatchers m with
    | .ok errors => errors
    | .error _ => h.result
  | changed h c => (c.apply h.result).1
  | merged h other => h.result.merge other.result

/-- The matchers that were accepted for it. -/
def accepted : History → List Matcher
  | new => []
  | made h m => if m.Readable then m.matchers else h.accepted
  | changed h c => h.accepted ++ c.accepted
  | merged h other => h.accepted ++ other.accepted

/-- **A set gathers the matchers that were accepted for it**, whatever else was tried. -/
theorem gathers (h : History) : h.result.Gathers h.accepted := by
  induction h with
  | new => exact ExpectedErrors.gathers_empty
  | made h m ih =>
    rw [result, accepted]
    obtain ⟨hreadable, errors, hok, hgathers⟩ | ⟨hreadable, fault, herror⟩ := m.ofMatchers_cases
    · rw [hok, if_pos hreadable]
      exact hgathers
    · rw [herror, if_neg hreadable]
      exact ih
  | changed h c ih => exact c.gathers_apply ih
  | merged h other ih ih' => exact ih.merge ih'

theorem literal_empty_notMem_accepted (h : History) : Matcher.literal "" ∉ h.accepted := by
  induction h with
  | new => simp [accepted]
  | made h m ih =>
    rw [accepted]
    split
    · rw [MatcherList.matchers, List.mem_append, not_or]
      exact ⟨Matcher.notMem_upToFault Matcher.ofText?_ne _,
        Matcher.notMem_upToFault Matcher.ofSource?_ne _⟩
    · exact ih
  | changed h c ih =>
    rw [accepted, List.mem_append, not_or]
    exact ⟨ih, c.literal_empty_notMem_accepted⟩
  | merged h other ih ih' =>
    rw [accepted, List.mem_append, not_or]
    exact ⟨ih, ih'⟩

/-- Histories that accepted the same matchers, in whatever order and however often, expect the same
messages. -/
theorem expects_congr {h other : History} (hsame : ∀ x, x ∈ h.accepted ↔ x ∈ other.accepted)
    (message : String) : h.result.expects message = other.result.expects message := by
  rw [Bool.eq_iff_iff, h.gathers.expects_iff, other.gathers.expects_iff]
  simp only [hsame]

/-- Two sets merged expect what one of them expects. -/
theorem expects_merge (h other : History) (message : String) :
    (h.result.merge other.result).expects message =
      (h.result.expects message || other.result.expects message) := by
  have hmerged := (h.gathers.merge other.gathers).expects_iff message
  rw [Bool.eq_iff_iff, hmerged, Bool.or_eq_true, h.gathers.expects_iff, other.gathers.expects_iff]
  simp only [List.mem_append, or_and_right, exists_or]

/-- What is expected stays so, whatever is done to the set. -/
theorem expects_apply {h : History} {message : String} (hexp : h.result.expects message = true)
    (c : Change) : (c.apply h.result).1.expects message = true := by
  obtain ⟨x, hx, hhit⟩ := (h.gathers.expects_iff message).1 hexp
  exact ((c.gathers_apply h.gathers).expects_iff message).2 ⟨x, List.mem_append_left _ hx, hhit⟩

/-- **A set of expected errors is the union of its accepted matchers**, by whatever operations it
came about: no literal in it is empty, and a message is expected if some accepted matcher is found
in it. So it is only the matchers that count and not their order or number, merging is disjunction,
and nothing that is done to a set makes a message unexpected. Of the accepted matchers each literal
counts once, and each pattern as often as it was put in. -/
theorem union_of_accepted (h : History) :
    "" ∉ h.result.literals ∧
      (∀ message, h.result.expects message = true ↔ ∃ x ∈ h.accepted, x.Hits message) ∧
      (∀ other : History, (∀ x, x ∈ h.accepted ↔ x ∈ other.accepted) →
        ∀ message, h.result.expects message = other.result.expects message) ∧
      (∀ (other : History) (message : String), (h.result.merge other.result).expects message =
        (h.result.expects message || other.result.expects message)) ∧
      (∀ (c : Change) (message : String), h.result.expects message = true →
        (c.apply h.result).1.expects message = true) ∧
      h.result.size = (h.accepted.filterMap Matcher.text?).dedup.length +
        (h.accepted.filterMap Matcher.pattern?).length ∧
      (h.result.isEmpty = true ↔ h.result.size = 0) := by
  refine ⟨?_, h.gathers.expects_iff, fun other => expects_congr, h.expects_merge,
    fun c message hexp => expects_apply hexp c, h.gathers.size_eq, ?_⟩
  · intro hempty
    exact h.literal_empty_notMem_accepted ((h.gathers.mem_literals "").1 hempty)
  · rw [ExpectedErrors.isEmpty, ExpectedErrors.size, Bool.and_eq_true, List.isEmpty_iff,
      List.isEmpty_iff, Nat.add_eq_zero_iff, List.length_eq_zero_iff, List.length_eq_zero_iff]

/-- A list is given up at its empty member, a literal comes twice, and one from a merged set. -/
example :
    let other : History := .changed .new (.extendLiterals ["overflow", "", "misuse"])
    let h : History :=
      .merged (.changed (.made .new ⟨["misuse", "misuse"], []⟩) (.addLiteral "")) other
    h.accepted.filterMap Matcher.text? = ["misuse", "misuse", "overflow"] ∧ h.result.size = 2 ∧
      h.result.expects "integer overflow" = true ∧ h.result.expects "no such column" = false :=
  ⟨rfl, rfl, rfl, rfl⟩

end History

end Trisect
