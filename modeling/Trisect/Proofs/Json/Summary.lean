import Trisect.Document.Summary
import Trisect.Proofs.Json.Report
import Trisect.Proofs.Session.Accounting

/-!
# A summary survives being written and read

The summary of a session is read back from its text (`Trisect.SessionSummary.ofJson?_written`), if
its counters and the sizes in its report fit into words of 64 bits.

Three of its parts are not written field by field. The counts of skipped rounds are a record whose
keys are data; they are put back one after the other, and since they come in order each of them goes
to the end (`Trisect.TagCounts.ofList_entries`). The version of the engine is left out if there is
none (`Trisect.ReplayState.hasVersion_iff`), and a replay state without that field has none. And how
the session ended is a tagged value around a report that has a tagged value in it: each of the two
tags is looked for among the fields of its own record (`Trisect.SessionOutcome.tagged?_toDocument`).
-/

namespace Trisect

/-! ### Counts -/

namespace TagCounts

/-- A tag after all others is put at the end. -/
theorem alter_of_forall_lt {tag : String} {f : Nat → Nat} {entries : List (String × Nat)}
    (h : ∀ e ∈ entries, e.1 < tag) : alter tag f entries = entries ++ [(tag, f 0)] := by
  induction entries with
  | nil => rfl
  | cons e entries ih =>
    obtain ⟨t, n⟩ := e
    obtain ⟨ht, hentries⟩ := List.forall_mem_cons.1 h
    rw [alter, if_neg (String.lt_asymm ht), if_pos ht, ih hentries, List.cons_append]

/-- Entries that come in order, and after those that are there, are put at the end. -/
theorem entries_foldl_set {c : TagCounts} {entries : List (String × Nat)}
    (h : (c.entries ++ entries).Pairwise fun a b => a.1 < b.1) :
    (entries.foldl (fun c e => c.set e.1 e.2) c).entries = c.entries ++ entries := by
  induction entries generalizing c with
  | nil => simp
  | cons e entries ih =>
    have hset : (c.set e.1 e.2).entries = c.entries ++ [e] :=
      alter_of_forall_lt fun x hx => (List.pairwise_append.1 h).2.2 x hx e List.mem_cons_self
    have hrest := @ih (c.set e.1 e.2) (by simpa [hset] using h)
    simpa [hset] using hrest

/-- **Counts are rebuilt from their entries.** -/
theorem ofList_entries (c : TagCounts) : ofList c.entries = c :=
  ext_entries (entries_foldl_set (c := {}) c.sorted)

variable {c : TagCounts}

theorem ofDocument?_toDocument (h : ∀ e ∈ c.entries, e.2 < 2 ^ 64) :
    ofDocument? c.toDocument = some c := by
  have hentries : (c.entries.map fun e => (e.1, Document.natural e.2)).mapM
      (fun f => do return (f.1, ← f.2.toWord?)) = some c.entries :=
    Document.mapM_map_eq_some fun e he => by simp [Document.toWord?_natural (h e he)]
  rw [toDocument, ofDocument?, hentries]
  simp [ofList_entries]

theorem spellable_toDocument (h : ∀ e ∈ c.entries, e.2 < 2 ^ 64) : c.toDocument.Spellable := by
  refine .record fun f hf => ?_
  obtain ⟨e, he, rfl⟩ := List.mem_map.1 hf
  exact Document.spellable_natural (h e he)

end TagCounts

/-! ### Replay states -/

namespace ReplayState

/-- **The version of the engine is left out if there is none**, and only then. -/
theorem hasVersion_iff (r : ReplayState) : ∃ fields, r.toDocument = .record fields ∧
    ("database_version" ∈ fields.map (·.1) ↔ r.databaseVersion.isSome = true) := by
  refine ⟨_, rfl, ?_⟩
  cases r.databaseVersion <;> simp

theorem ofDocument?_toDocument (r : ReplayState) : ofDocument? r.toDocument = some r := by
  obtain ⟨databaseName, seed, version, statements⟩ := r
  have hparts : Document.parts? ["database_name", "seed", "database_version", "statements"]
      (toDocument ⟨databaseName, seed, version, statements⟩) =
      some [some (.text databaseName), some (.natural seed.toNat),
        version.map Document.text, some (.texts statements)] := by
    cases version with
    | none => exact Document.parts?_record (by simp) _
    | some v => exact Document.parts?_record (by simp) _
  have hversion : Document.orDefault none (Document.toOptional? Document.toText?)
      (version.map Document.text) = some version := by
    cases version <;> rfl
  simp [ofDocument?, hparts, hversion, Document.toText?, Document.toListOf?_texts,
    Document.toWord?_natural seed.toNat_lt]

theorem spellable_toDocument (r : ReplayState) : r.toDocument.Spellable := by
  refine .record ?_
  cases r.databaseVersion <;>
    simp [Document.Spellable.text, Document.spellable_texts,
      Document.spellable_natural r.seed.toNat_lt]

end ReplayState

/-! ### How a session ended -/

namespace SessionOutcome

/-- The sizes in the report of an outcome, if there is one, fit into words of 64 bits. -/
def SizesFit : SessionOutcome → Prop
  | logicBug report _ => report.mismatch.SizesFit
  | _ => True

instance : (o : SessionOutcome) → Decidable o.SizesFit
  | logicBug report _ => inferInstanceAs (Decidable report.mismatch.SizesFit)
  | completed => inferInstanceAs (Decidable True)
  | failed _ => inferInstanceAs (Decidable True)

/-- The tag of an outcome. -/
def status : SessionOutcome → String
  | completed => "completed"
  | logicBug _ _ => "logic_bug"
  | failed _ => "failed"

/-- The fields of an outcome besides its tag. -/
def details : SessionOutcome → List (String × Document)
  | completed => []
  | logicBug report path => [("report", report.toDocument), ("report_path", .textOrNull path)]
  | failed message => [("message", .text message)]

variable {o : SessionOutcome}

theorem toDocument_eq (o : SessionOutcome) :
    o.toDocument = .record (("status", .text o.status) :: o.details) := by
  cases o <;> rfl

theorem spellable_toDocument (h : o.SizesFit) : o.toDocument.Spellable := by
  rw [toDocument_eq]
  refine .record ?_
  cases o with
  | completed => simp [details, Document.Spellable.text]
  | logicBug report path =>
    simp [details, Document.Spellable.text, BugReport.spellable_toDocument h,
      Document.spellable_textOrNull]
  | failed message => simp [details, Document.Spellable.text]

theorem depth_toDocument_le (o : SessionOutcome) : o.toDocument.depth ≤ 4 := by
  rw [toDocument_eq]
  refine Document.depth_record_le ?_
  cases o with
  | completed => simp [details, Document.depth]
  | logicBug report path =>
    simp [details, Document.depth, BugReport.depth_toDocument_le, Document.depth_textOrNull]
  | failed message => simp [details, Document.depth]

/-- The tags that an outcome can have. -/
def statuses : List String := ["completed", "logic_bug", "failed"]

/-- **The tag of an outcome is its own status**, whatever tags there are in its report; and the
other parts are all that it has besides. -/
theorem tagged?_toDocument (h : o.SizesFit) :
    ∃ i, Document.position? statuses o.status = some i ∧
      o.toDocument.tagged? false "status" statuses = some (i, .record o.details) := by
  have hposition : ∃ i, Document.position? statuses o.status = some i := by
    cases o
    · exact ⟨0, rfl⟩
    · exact ⟨1, rfl⟩
    · exact ⟨2, rfl⟩
  have htag : "status" ∉ o.details.map (·.1) := by
    cases o <;> simp [details]
  have hwait : (Document.record (("status", .text o.status) :: o.details)).canWait = true := by
    rw [← toDocument_eq]
    exact Document.canWait_of_spellable (spellable_toDocument h)
      (Nat.le_trans o.depth_toDocument_le (by decide))
  obtain ⟨i, hi⟩ := hposition
  rw [toDocument_eq]
  exact ⟨i, hi, Document.tagged?_record (fun _ => hwait) htag hi⟩

/-- **How a session ended is made from its document.** -/
theorem ofDocument?_toDocument (h : o.SizesFit) : ofDocument? o.toDocument = some o := by
  obtain ⟨i, hi, htagged⟩ := tagged?_toDocument h
  rw [statuses] at htagged
  cases o with
  | completed =>
    obtain rfl : 0 = i := Option.some.inj hi
    simp [ofDocument?, htagged]
  | logicBug report path =>
    obtain rfl : 1 = i := Option.some.inj hi
    have hparts : Document.parts? ["report", "report_path"]
        (.record (logicBug report path).details) =
        some [some report.toDocument, some (.textOrNull path)] :=
      Document.parts?_record (by simp [details]) _
    simp [ofDocument?, htagged, hparts, BugReport.ofDocument?_toDocument h,
      Document.orDefault, Document.toOptional?_textOrNull]
  | failed message =>
    obtain rfl : 2 = i := Option.some.inj hi
    have hparts : Document.parts? ["message"] (.record (failed message).details) =
        some [some (.text message)] :=
      Document.parts?_record (by simp [details]) _
    simp [ofDocument?, htagged, hparts, Document.toText?]

end SessionOutcome

/-! ### Summaries -/

namespace SessionSummary

variable {s : SessionSummary}

theorem spellable_toDocument (hcounters : s.CountersFit) (hsizes : s.outcome.SizesFit) :
    s.toDocument.Spellable := by
  obtain ⟨hrounds, hpassed, hskipped, hreasons⟩ := hcounters
  refine .record ?_
  simp only [List.forall_mem_cons, List.not_mem_nil, IsEmpty.forall_iff, implies_true, and_true]
  exact ⟨.text _, Document.spellable_natural s.seed.toNat_lt, Document.spellable_natural hrounds,
    Document.spellable_natural hpassed, Document.spellable_natural hskipped,
    TagCounts.spellable_toDocument hreasons, SessionOutcome.spellable_toDocument hsizes,
    s.replay.spellable_toDocument⟩

theorem ofDocument?_toDocument (hcounters : s.CountersFit) (hsizes : s.outcome.SizesFit) :
    ofDocument? s.toDocument = some s := by
  obtain ⟨hrounds, hpassed, hskipped, hreasons⟩ := hcounters
  have hkeys : fieldNames.Nodup := by decide
  have hparts : Document.parts? fieldNames s.toDocument =
      some [some (.text s.databaseName), some (.natural s.seed.toNat), some (.natural s.roundsRun),
        some (.natural s.passed), some (.natural s.skipped), some s.skipReasons.toDocument,
        some s.outcome.toDocument, some s.replay.toDocument] :=
    Document.parts?_record (by exact hkeys) _
  calc ofDocument? s.toDocument
      = some { s with seed := .ofNat s.seed.toNat } := by
        rw [ofDocument?, hparts]
        dsimp only [Option.bind_eq_bind, Option.bind_some]
        rw [Document.toWord?_natural s.seed.toNat_lt, Document.toWord?_natural hrounds,
          Document.toWord?_natural hpassed, Document.toWord?_natural hskipped,
          TagCounts.ofDocument?_toDocument hreasons, SessionOutcome.ofDocument?_toDocument hsizes,
          ReplayState.ofDocument?_toDocument]
        rfl
    _ = some s := by rw [UInt64.ofNat_toNat]

/-- **A summary is read back from either of its texts**, so that the summary that is read says the
same about whether a bug was found and whether the session was completed. A version of the engine is
written if and only if there is one, and the replay state is the same again in either case. The tag
that is read for how the session ended is the one that was written for it, with all the other fields
beside it, and so is the report, if there is one. -/
theorem ofJson?_written (s : SessionSummary) (hcounters : s.CountersFit)
    (hsizes : s.outcome.SizesFit) :
    (∀ written ∈ [s.toDocument.compact, s.toDocument.pretty], ∃ read,
      ofJson? written = some read ∧ read = s ∧ read.foundBug = s.foundBug ∧
        read.completed = s.completed) ∧
    (∃ fields, s.replay.toDocument = .record fields ∧
      ("database_version" ∈ fields.map (·.1) ↔ s.replay.databaseVersion.isSome = true) ∧
      ReplayState.ofDocument? (.record fields) = some s.replay) ∧
    (∃ i, Document.position? SessionOutcome.statuses s.outcome.status = some i ∧
      s.outcome.toDocument.tagged? false "status" SessionOutcome.statuses =
        some (i, .record s.outcome.details)) ∧
    ∀ report path, s.outcome = .logicBug report path →
      ("report", report.toDocument) ∈ s.outcome.details ∧
        BugReport.ofDocument? true report.toDocument = some report := by
  refine ⟨fun written hwritten => ?_, ?_, SessionOutcome.tagged?_toDocument hsizes, ?_⟩
  · have hspellable := spellable_toDocument hcounters hsizes
    have hdocument : Document.ofJson? written = some s.toDocument :=
      Document.ofJson?_of_spells (Document.spells_of_mem hspellable hwritten)
    have hread : ofJson? written = some s := by
      rw [ofJson?, hdocument, Option.bind_some, ofDocument?_toDocument hcounters hsizes]
    exact ⟨s, hread, rfl, rfl, rfl⟩
  · obtain ⟨fields, hfields, hversion⟩ := s.replay.hasVersion_iff
    exact ⟨fields, hfields, hversion, hfields ▸ s.replay.ofDocument?_toDocument⟩
  · intro report path houtcome
    rw [houtcome] at hsizes ⊢
    exact ⟨List.mem_cons_self, BugReport.ofDocument?_toDocument hsizes true⟩

/-- A session of three rounds that ended with a bug about a missing NULL and a missing empty text,
its report not written, on an engine whose version is not known. -/
theorem ofJson?_written_of_bug :
    let s : SessionSummary := {
      databaseName := "session-\"0\""
      seed := 18446744073709551615
      roundsRun := 3
      passed := 0
      skipped := 2
      skipReasons := {
        entries := [("expected_error", 1), ("no_result_set", 1)], sorted := by decide }
      outcome := .logicBug {
        wholeQuery := "SELECT c FROM t"
        reconstructedQueries := ["SELECT c FROM t WHERE '\\' = c"]
        mismatch := .content (.ofList [some "", none]) (.ofList [some "b", some "a"]) } none
      replay := { databaseName := "session-\"0\"", seed := 18446744073709551615 } }
    s.CountersFit ∧ s.outcome.SizesFit ∧ s.replay.databaseVersion = none ∧
    (∀ written ∈ [s.toDocument.compact, s.toDocument.pretty], ∃ read,
      ofJson? written = some read ∧ read = s ∧ read.foundBug = true ∧ read.completed = false) ∧
    (∃ i, Document.position? SessionOutcome.statuses s.outcome.status = some i ∧
      s.outcome.toDocument.tagged? false "status" SessionOutcome.statuses =
        some (i, .record s.outcome.details)) := by
  intro s
  have hcounters : s.CountersFit := by
    refine ⟨by decide, by decide, by decide, ?_⟩
    decide
  have hsizes : s.outcome.SizesFit := trivial
  obtain ⟨hread, -, htag, -⟩ := ofJson?_written s hcounters hsizes
  exact ⟨hcounters, hsizes, rfl, hread, htag⟩

end SessionSummary

end Trisect
