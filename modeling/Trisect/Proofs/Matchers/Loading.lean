import Mathlib.Data.List.TakeWhile
import Trisect.Config.Configuration
import Trisect.Proofs.Matchers.Union

/-!
# Loading matchers in bulk

Matchers come in lists, of which any member may be bad: an empty literal, an empty pattern, a
pattern that cannot be read. `Trisect.ExpectedErrors.literalFault?` and
`Trisect.ExpectedErrors.patternFault?` say what is wrong with a single one, the latter in the words
of the reader of patterns.

A list is loaded **up to its first fault** (`Trisect.ExpectedErrors.LoadsUpToFault`): the members
before it are in the set, those after it are not looked at, and the error is that of the bad member.
It is one induction that shows so for literals and for patterns
(`Trisect.ExpectedErrors.addAll_eq`).

Literals and patterns can be collected by calls in any order, of which only the two lists remain in
the end (`Trisect.MatcherList.collected_eq`), and then a set is made of them, all literals first;
or a dialect holds the two lists. In every case the outcome is `Trisect.ExpectedErrors.loaded`. A
configuration that is otherwise right is refused exactly if that fails, with the error wrapped
(`Trisect.Configuration.OtherwiseValid.validate_eq`). The main statement is
`Trisect.ExpectedErrors.bulk_loading`.
-/

namespace Trisect

namespace ExpectedErrors

/-! ### Faults -/

theorem literalFault?_eq_none_iff {l : String} : literalFault? l = none ↔ l ≠ "" := by
  rw [literalFault?]
  split <;> simp_all

section Patterns

variable [PatternReader]

/-- What is wrong with a pattern, if anything is. -/
def patternFault? (source : String) : Option OracleError :=
  if source = "" then some (.invalidArgument "expected-error pattern must be non-empty")
  else
    match PatternReader.compile source with
    | .ok _ => none
    | .error fault => some (patternError source fault)

/-- The patterns with the given written forms, as far as these can be read. -/
def readPatterns (sources : List String) : List Pattern :=
  sources.filterMap fun source => (PatternReader.compile source).toOption

theorem patternFault?_eq_none_iff {source : String} :
    patternFault? source = none ↔ source ≠ "" ∧ ∃ p, PatternReader.compile source = .ok p := by
  rw [patternFault?]
  split
  · simp_all
  · cases PatternReader.compile source <;> simp_all

/-- What can be read is read, each pattern once. -/
theorem length_readPatterns {sources : List String}
    (h : ∀ source ∈ sources, patternFault? source = none) :
    (readPatterns sources).length = sources.length := by
  induction sources with
  | nil => rfl
  | cons source sources ih =>
    obtain ⟨hsource, hsources⟩ := List.forall_mem_cons.1 h
    obtain ⟨-, p, hp⟩ := patternFault?_eq_none_iff.1 hsource
    rw [readPatterns, List.filterMap_cons, hp]
    exact congrArg (· + 1) (ih hsources)

theorem mem_readPatterns {sources : List String} {p : Pattern} :
    p ∈ readPatterns sources ↔ ∃ source ∈ sources, PatternReader.compile source = .ok p := by
  rw [readPatterns, List.mem_filterMap]
  refine exists_congr fun source => and_congr_right fun _ => ?_
  cases PatternReader.compile source <;> simp [Except.toOption]

end Patterns

variable (errors : ExpectedErrors)

/-- The set with a literal in it. -/
def putLiteral (l : String) : ExpectedErrors :=
  { errors with literals := addTo l errors.literals }

/-- The set with a pattern in it, if that can be read. -/
def putPattern [PatternReader] (errors : ExpectedErrors) (source : String) : ExpectedErrors :=
  match PatternReader.compile source with
  | .ok p => errors.addCompiled p
  | .error _ => errors

/-- The reply where there may be a fault. -/
def replyOf {α : Type} (a : α) : Option OracleError → Except OracleError α
  | none => .ok a
  | some fault => .error fault

theorem addLiteral_eq (l : String) :
    errors.addLiteral l = replyOf (errors.putLiteral l) (literalFault? l) := by
  rw [addLiteral]
  cases literalFault? l <;> rfl

theorem addPattern_eq [PatternReader] (errors : ExpectedErrors) (source : String) :
    errors.addPattern source = replyOf (errors.putPattern source) (patternFault? source) := by
  rw [addPattern, compilePattern, patternFault?, putPattern]
  by_cases hsource : source = ""
  · subst hsource
    rfl
  · rw [if_neg (by simpa using hsource), if_neg hsource]
    cases PatternReader.compile source <;> rfl

/-! ### Lists -/

/-- The members of a list before the first that has a fault. -/
def beforeFault (fault? : String → Option OracleError) (ms : List String) : List String :=
  ms.takeWhile fun m => (fault? m).isNone

section AddAll

variable {add : ExpectedErrors → String → Except OracleError ExpectedErrors}
  {put : ExpectedErrors → String → ExpectedErrors} {fault? : String → Option OracleError}
  {good rest : List String} {bad : String} {fault : OracleError}

/-- **What adding the members of a list comes to**, if adding one of them puts it into the set
unless it has a fault. -/
theorem addAll_eq (hadd : ∀ errors m, add errors m = replyOf (put errors m) (fault? m))
    (ms : List String) :
    addAll add errors ms =
      ((beforeFault fault? ms).foldl put errors, replyOf () (ms.findSome? fault?)) := by
  induction ms generalizing errors with
  | nil => rfl
  | cons m ms ih =>
    rw [addAll, hadd, beforeFault]
    cases hm : fault? m with
    | none =>
      rw [List.takeWhile_cons_of_pos (by simp [hm]), List.findSome?_cons, hm]
      exact ih (put errors m)
    | some fault =>
      rw [List.takeWhile_cons_of_neg (by simp [hm]), List.findSome?_cons, hm]
      rfl

theorem beforeFault_of_forall {ms : List String} (h : ∀ m ∈ ms, fault? m = none) :
    beforeFault fault? ms = ms :=
  List.takeWhile_eq_self_iff.2 fun m hm => by simp [h m hm]

theorem beforeFault_append_cons (hgood : ∀ m ∈ good, fault? m = none)
    (hbad : fault? bad = some fault) : beforeFault fault? (good ++ bad :: rest) = good := by
  rw [beforeFault, List.takeWhile_append_of_pos fun m hm => by simp [hgood m hm],
    List.takeWhile_cons_of_neg (by simp [hbad]), List.append_nil]

theorem findSome?_append_cons (hgood : ∀ m ∈ good, fault? m = none)
    (hbad : fault? bad = some fault) : (good ++ bad :: rest).findSome? fault? = some fault := by
  rw [List.findSome?_append, List.findSome?_eq_none_iff.2 hgood, List.findSome?_cons, hbad]
  rfl

end AddAll

/-! ### Sets with more matchers -/

theorem foldl_putLiteral (ls : List String) :
    ls.foldl putLiteral errors = errors.merge ⟨ls, []⟩ := by
  rw [merge, List.append_nil]
  induction ls generalizing errors with
  | nil => rfl
  | cons l ls ih => exact ih (errors.putLiteral l)

theorem foldl_putPattern [PatternReader] (errors : ExpectedErrors) (sources : List String) :
    sources.foldl putPattern errors = errors.merge ⟨[], readPatterns sources⟩ := by
  induction sources generalizing errors with
  | nil => simp [merge, readPatterns]
  | cons source sources ih =>
    rw [List.foldl_cons, ih, putPattern, merge, merge, readPatterns, readPatterns,
      List.filterMap_cons]
    cases PatternReader.compile source with
    | error fault => rfl
    | ok p => simp [addCompiled, Except.toOption]

theorem extendLiterals_eq (ls : List String) :
    errors.extendLiterals ls =
      (errors.merge ⟨beforeFault literalFault? ls, []⟩,
        replyOf () (ls.findSome? literalFault?)) := by
  rw [extendLiterals, addAll_eq errors addLiteral_eq, foldl_putLiteral]

theorem extendPatterns_eq [PatternReader] (errors : ExpectedErrors) (sources : List String) :
    errors.extendPatterns sources =
      (errors.merge ⟨[], readPatterns (beforeFault patternFault? sources)⟩,
        replyOf () (sources.findSome? patternFault?)) := by
  rw [extendPatterns, addAll_eq errors addPattern_eq, foldl_putPattern]

/-- **A list is loaded up to its first fault**: if there is one, the set has the matchers before it
in addition, and the error is the fault; if there is none, the set has all of them. -/
structure LoadsUpToFault (fault? : String → Option OracleError)
    (matchers : List String → ExpectedErrors)
    (load : ExpectedErrors → List String → ExpectedErrors × Except OracleError Unit) : Prop where
  ok (errors : ExpectedErrors) (ms : List String) (h : ∀ m ∈ ms, fault? m = none) :
    load errors ms = (errors.merge (matchers ms), .ok ())
  stops (errors : ExpectedErrors) (good : List String) (bad : String) (rest : List String)
    (fault : OracleError) (hgood : ∀ m ∈ good, fault? m = none) (hbad : fault? bad = some fault) :
    load errors (good ++ bad :: rest) = (errors.merge (matchers good), .error fault)

theorem loadsUpToFault_of_eq {fault? : String → Option OracleError}
    {matchers : List String → ExpectedErrors}
    {load : ExpectedErrors → List String → ExpectedErrors × Except OracleError Unit}
    (h : ∀ errors ms, load errors ms =
      (errors.merge (matchers (beforeFault fault? ms)), replyOf () (ms.findSome? fault?))) :
    LoadsUpToFault fault? matchers load where
  ok errors ms hms := by
    rw [h, beforeFault_of_forall hms, List.findSome?_eq_none_iff.2 hms]
    rfl
  stops errors good bad rest fault hgood hbad := by
    rw [h, beforeFault_append_cons hgood hbad, findSome?_append_cons hgood hbad]
    rfl

/-- A list is refused if one of its members is, and only then. -/
theorem replyOf_findSome?_eq_error_iff {fault? : String → Option OracleError} {ms : List String} :
    (∃ fault, replyOf () (ms.findSome? fault?) = .error fault) ↔ ∃ m ∈ ms, fault? m ≠ none := by
  cases hfault : ms.findSome? fault? with
  | none =>
    rw [List.findSome?_eq_none_iff] at hfault
    simpa [replyOf] using hfault
  | some fault =>
    obtain ⟨m, hm, hmfault⟩ := List.exists_of_findSome?_eq_some hfault
    simp only [replyOf, Except.error.injEq, exists_eq', true_iff]
    exact ⟨m, hm, by simp [hmfault]⟩

/-! ### Sets made of two lists -/

theorem merge_merge (ls : List String) (ps : List Pattern) :
    (errors.merge ⟨ls, []⟩).merge ⟨[], ps⟩ = errors.merge ⟨ls, ps⟩ := by
  simp [merge]

/-- What is loaded are the literals and the patterns of the two lists. -/
theorem gathers_loaded (ls : List String) (ps : List Pattern) :
    Gathers (ls.map .literal ++ ps.map .pattern) ((∅ : ExpectedErrors).merge ⟨ls, ps⟩) where
  mem_literals l := by
    have hmem : l ∈ ((∅ : ExpectedErrors).merge ⟨ls, ps⟩).literals ↔ l ∈ [] ∨ l ∈ ls :=
      mem_foldl_addTo ls []
    simpa using hmem
  nodup := nodup_foldl_addTo ls List.nodup_nil
  patterns := by
    have hliterals : (ls.map Matcher.literal).filterMap Matcher.pattern? = [] := by
      simp [Matcher.pattern?]
    have hpatterns : (ps.map Matcher.pattern).filterMap Matcher.pattern? = ps := by
      simp [List.filterMap_map, Function.comp_def, Matcher.pattern?]
    rw [List.filterMap_append, hliterals, hpatterns]
    rfl

variable [PatternReader]

/-- **What two lists come to**: the first fault, those of the literals before those of the patterns,
or the set of all of them. -/
def loaded (ls sources : List String) : Except OracleError ExpectedErrors :=
  replyOf ((∅ : ExpectedErrors).merge ⟨ls, readPatterns sources⟩)
    ((ls.findSome? literalFault?).or (sources.findSome? patternFault?))

/-- **A set is made of two lists**, or refused for their first fault. -/
theorem ofMatchers_eq (m : MatcherList) : ofMatchers m = loaded m.literals m.patterns := by
  rw [ofMatchers, extend, extendLiterals_eq, loaded]
  cases hl : m.literals.findSome? literalFault? with
  | some fault => rfl
  | none =>
    dsimp only [replyOf, Option.none_or]
    rw [extendPatterns_eq]
    cases hp : m.patterns.findSome? patternFault? with
    | some fault => rfl
    | none =>
      rw [List.findSome?_eq_none_iff] at hl hp
      rw [beforeFault_of_forall hl, beforeFault_of_forall hp, merge_merge]
      rfl

/-- The messages that are expected once everything is loaded. -/
theorem expects_loaded_iff (ls sources : List String) (message : String) :
    ((∅ : ExpectedErrors).merge ⟨ls, readPatterns sources⟩).expects message = true ↔
      (∃ l ∈ ls, l.toList <:+: message.toList) ∨
        ∃ source ∈ sources, ∃ p, PatternReader.compile source = .ok p ∧
          p.occursIn message = true := by
  rw [(gathers_loaded ls (readPatterns sources)).expects_iff]
  simp only [List.mem_append, List.mem_map, mem_readPatterns]
  constructor
  · rintro ⟨_, ⟨l, hl, rfl⟩ | ⟨p, ⟨source, hsource, hp⟩, rfl⟩, hhit⟩
    · exact Or.inl ⟨l, hl, hhit⟩
    · exact Or.inr ⟨source, hsource, p, hp, hhit⟩
  · rintro (⟨l, hl, hhit⟩ | ⟨source, hsource, p, hp, hhit⟩)
    · exact ⟨.literal l, Or.inl ⟨l, hl, rfl⟩, hhit⟩
    · exact ⟨.pattern p, Or.inr ⟨p, ⟨source, hsource, hp⟩, rfl⟩, hhit⟩

/-- Their number: a literal counts once, a pattern as often as it is in the list. -/
theorem size_loaded (ls : List String) {sources : List String}
    (h : ∀ source ∈ sources, patternFault? source = none) :
    ((∅ : ExpectedErrors).merge ⟨ls, readPatterns sources⟩).size =
      ls.dedup.length + sources.length := by
  rw [(gathers_loaded ls (readPatterns sources)).size_eq]
  simp [List.filterMap_append, List.filterMap_map, Function.comp_def, Matcher.text?,
    Matcher.pattern?, length_readPatterns h]

theorem loaded_eq_ok_iff {ls sources : List String} :
    loaded ls sources = .ok errors ↔
      ((∀ l ∈ ls, literalFault? l = none) ∧ ∀ source ∈ sources, patternFault? source = none) ∧
        (∅ : ExpectedErrors).merge ⟨ls, readPatterns sources⟩ = errors := by
  rw [← List.findSome?_eq_none_iff, ← List.findSome?_eq_none_iff, loaded]
  cases ls.findSome? literalFault? <;> cases sources.findSome? patternFault? <;> simp [replyOf]

end ExpectedErrors

/-! ### Collecting matchers -/

namespace MatcherList

/-- A call that adds to the matchers that are collected. -/
inductive Call
  | literals (texts : List String)
  | patterns (sources : List String)

/-- The literals of a call. -/
def Call.texts : Call → List String
  | literals texts => texts
  | patterns _ => []

/-- The patterns of a call. -/
def Call.sources : Call → List String
  | literals _ => []
  | patterns sources => sources

/-- The matchers after a call. -/
def after (m : MatcherList) : Call → MatcherList
  | .literals texts => m.withLiterals texts
  | .patterns sources => m.withPatterns sources

/-- The matchers that several calls collect. -/
def collected (calls : List Call) : MatcherList := calls.foldl after {}

theorem foldl_after (m : MatcherList) (calls : List Call) :
    calls.foldl after m =
      ⟨m.literals ++ calls.flatMap Call.texts, m.patterns ++ calls.flatMap Call.sources⟩ := by
  induction calls generalizing m with
  | nil => simp
  | cons call calls ih =>
    rw [List.foldl_cons, ih]
    cases call <;> simp [after, withLiterals, withPatterns, Call.texts, Call.sources]

/-- **How calls are interleaved makes no difference**: only the two lists remain. -/
theorem collected_eq (calls : List Call) :
    collected calls = ⟨calls.flatMap Call.texts, calls.flatMap Call.sources⟩ := by
  rw [collected, foldl_after]
  rfl

end MatcherList

/-! ### Configurations -/

namespace Configuration

/-- What a configuration has to be like apart from its matchers. -/
structure OtherwiseValid (c : Configuration) : Prop where
  databaseName : Text.isAllBlank c.session.databaseName = false
  oracles : c.session.oracles ≠ []
  sessions : c.session.sessions ≠ 0
  tables : c.session.tables ≠ 0
  maxExpressionDepth : c.session.maxExpressionDepth ≠ 0
  dialectName : Text.isAllBlank c.dialect.name = false

/-- **Validation comes down to the matchers** if all else is right. -/
theorem OtherwiseValid.validate_eq_error_iff [PatternReader] {c : Configuration}
    (h : c.OtherwiseValid) {e : OracleError} : c.validate = .error e ↔
      ∃ fault, c.dialect.errors = .error fault ∧
        e = .config ("dialect expected errors: " ++ fault.message) := by
  simp only [validate, require, h.databaseName, List.isEmpty_eq_false_iff.2 h.oracles,
    bne_iff_ne.2 h.sessions, bne_iff_ne.2 h.tables, bne_iff_ne.2 h.maxExpressionDepth,
    h.dialectName, Bool.not_false, if_true, bind, Except.bind]
  cases c.dialect.errors with
  | ok errors => simp
  | error fault => simp [eq_comm]

end Configuration

namespace ExpectedErrors

open MatcherList (Call collected)

/-- **Loading stops cleanly.** A list of literals is refused if there is an empty one in it, a list
of patterns if one is empty or cannot be read, and what was before the first such member is in the
set, with the error of that member alone. A set that is made of the matchers that several calls
collected, and the set of a dialect, come to the same if the two lists are the same: the first
fault, those of the literals before those of the patterns, or all the matchers, so that the same
messages are expected and the same number is counted. And a configuration with that dialect, if all
else in it is right, is refused if they are, with the text of the same fault. -/
theorem bulk_loading [PatternReader] (errors : ExpectedErrors) (ls sources : List String) :
    ((∃ fault, (errors.extendLiterals ls).2 = .error fault) ↔ "" ∈ ls) ∧
      ((∃ fault, (errors.extendPatterns sources).2 = .error fault) ↔
        ∃ source ∈ sources, source = "" ∨ ∃ fault, PatternReader.compile source = .error fault) ∧
      LoadsUpToFault literalFault? (fun ls => ⟨ls, []⟩) extendLiterals ∧
      LoadsUpToFault patternFault? (fun sources => ⟨[], readPatterns sources⟩) extendPatterns ∧
      (∀ m fault, (literalFault? m = some fault ↔ errors.addLiteral m = .error fault) ∧
        (patternFault? m = some fault ↔ errors.addPattern m = .error fault)) ∧
      (∀ calls, calls.flatMap Call.texts = ls → calls.flatMap Call.sources = sources →
        ofMatchers (collected calls) = loaded ls sources) ∧
      (∀ d : Dialect, d.expectedErrors = ls → d.expectedErrorPatterns = sources →
        d.errors = loaded ls sources) ∧
      (∀ set, loaded ls sources = .ok set →
        (∀ message, set.expects message = true ↔ (∃ l ∈ ls, l.toList <:+: message.toList) ∨
          ∃ source ∈ sources, ∃ p, PatternReader.compile source = .ok p ∧
            p.occursIn message = true) ∧
        set.size = ls.dedup.length + sources.length) ∧
      ∀ c : Configuration, c.OtherwiseValid → c.dialect.expectedErrors = ls →
        c.dialect.expectedErrorPatterns = sources → ∀ e, c.validate = .error e ↔
          ∃ fault, loaded ls sources = .error fault ∧
            e = .config ("dialect expected errors: " ++ fault.message) := by
  have hdialect : ∀ d : Dialect, d.expectedErrors = ls → d.expectedErrorPatterns = sources →
      d.errors = loaded ls sources := by
    rintro d rfl rfl
    exact ofMatchers_eq d.matchers
  refine ⟨?_, ?_, loadsUpToFault_of_eq extendLiterals_eq, loadsUpToFault_of_eq extendPatterns_eq,
    fun m fault => ?_, ?_, hdialect, ?_, ?_⟩
  · rw [extendLiterals_eq, replyOf_findSome?_eq_error_iff]
    simp [literalFault?_eq_none_iff]
  · rw [extendPatterns_eq, replyOf_findSome?_eq_error_iff]
    refine exists_congr fun source => and_congr_right fun _ => ?_
    rw [Ne, patternFault?_eq_none_iff]
    cases PatternReader.compile source <;> simp [or_iff_not_imp_left]
  · rw [addLiteral_eq, addPattern_eq]
    cases literalFault? m <;> cases patternFault? m <;> simp [replyOf]
  · rintro calls rfl rfl
    rw [ofMatchers_eq, MatcherList.collected_eq]
  · intro set hset
    obtain ⟨⟨-, hsources⟩, rfl⟩ := (loaded_eq_ok_iff set).1 hset
    exact ⟨expects_loaded_iff ls sources, size_loaded ls hsources⟩
  · rintro c hc hls hsources e
    rw [hc.validate_eq_error_iff, hdialect c.dialect hls hsources]

/-- Lists with several bad members. Of the literals the second is the first of these, and as it is
found before the patterns are looked at, it is the one to be reported; of the patterns it is the
second as well, which is reported in the words of the reader. -/
theorem bulk_loading_of_bad_members :
    let said := "regex parse error:\n    (\n    ^\nerror: unclosed group"
    let _ : PatternReader :=
      { compile := fun source => if source = "(" then .error said
          else .ok ⟨fun message => Text.occursIn source.toList message.toList⟩ }
    let ls := ["misuse", "", "overflow", ""]
    let sources := ["locked", "(", ""]
    let empty : OracleError := .invalidArgument "expected-error literal must be non-empty"
    let unclosed : OracleError :=
      .invalidArgument ("bad expected-error pattern \"(\": " ++ said)
    let locked : Pattern := ⟨fun message => Text.occursIn "locked".toList message.toList⟩
    let set : ExpectedErrors := ⟨["deadlock"], []⟩
    let c : Configuration := {
      dialect := { Dialect.sqlite with expectedErrors := ls, expectedErrorPatterns := sources } }
    set.extendLiterals ls = (⟨["deadlock", "misuse"], []⟩, .error empty) ∧
      set.extendPatterns sources = (⟨["deadlock"], [locked]⟩, .error unclosed) ∧
      ofMatchers (collected [.patterns ["locked"], .literals ls, .patterns ["(", ""]]) =
        .error empty ∧
      c.OtherwiseValid ∧ c.validate = .error (.config
        "dialect expected errors: invalid argument: expected-error literal must be non-empty") := by
  intro said reader ls sources empty unclosed locked set c
  obtain ⟨-, -, hliterals, hpatterns, -, hcalls, hdialect, -, hconfiguration⟩ :=
    bulk_loading set ls sources
  have hloaded : loaded ls sources = .error empty := rfl
  have hc : c.OtherwiseValid := by
    refine ⟨?_, ?_, ?_, ?_, ?_, ?_⟩ <;> decide
  refine ⟨?_, ?_, ?_, hc, ?_⟩
  · exact hliterals.stops set ["misuse"] "" ["overflow", ""] empty (by decide) rfl
  · refine hpatterns.stops set ["locked"] "(" [""] unclosed ?_ rfl
    exact List.forall_mem_singleton.2 rfl
  · rw [hcalls _ rfl rfl, hloaded]
  · exact (hconfiguration c hc rfl rfl _).2 ⟨empty, hloaded, rfl⟩

end ExpectedErrors

end Trisect
