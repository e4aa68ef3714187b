import Trisect.Config.Options
import Trisect.Oracle.Round

/-!
# Summaries of sessions

When a session is over, what is left of it is a `Trisect.SessionSummary`: how many rounds were run
and how they ended, what ended the session, and what is needed to replay it. It is made from the
outcomes of the rounds (`Trisect.SessionSummary.ofOutcomes`).
-/

namespace Trisect

/-- How a session ended. -/
inductive SessionOutcome
  /-- Every round was run. -/
  | completed
  /-- A round found a logic bug; the path of the report, if one was written. -/
  | logicBug (report : BugReport) (path : Option String)
  /-- A round failed. -/
  | failed (message : String)
  deriving DecidableEq

/-- Counts for tags, in the order of the tags. -/
structure TagCounts where
  entries : List (String × Nat) := []
  /-- Every tag comes before the later ones. -/
  sorted : entries.Pairwise fun a b => a.1 < b.1 := by simp

namespace TagCounts

@[ext] theorem ext_entries {s t : TagCounts} (h : s.entries = t.entries) : s = t := by
  cases s; cases t; cases h; rfl

instance : DecidableEq TagCounts := fun s t =>
  decidable_of_iff (s.entries = t.entries) ⟨ext_entries, congrArg _⟩

instance : Inhabited TagCounts := ⟨{}⟩

/-- Changes the count of a tag, which is zero if the tag is not there. -/
def alter (tag : String) (f : Nat → Nat) : List (String × Nat) → List (String × Nat)
  | [] => [(tag, f 0)]
  | (t, n) :: rest =>
    if tag < t then (tag, f 0) :: (t, n) :: rest
    else if t < tag then (t, n) :: alter tag f rest
    else (t, f n) :: rest

theorem mem_alter {tag : String} {f : Nat → Nat} {entries : List (String × Nat)}
    {e : String × Nat} (h : e ∈ alter tag f entries) : e.1 = tag ∨ e.1 ∈ entries.map (·.1) := by
  induction entries with
  | nil => simp_all [alter]
  | cons d rest ih =>
    obtain ⟨t, n⟩ := d
    rw [alter] at h
    split at h
    · rcases List.mem_cons.1 h with rfl | h
      · exact .inl rfl
      · exact .inr (List.mem_map_of_mem h)
    · split at h
      · rcases List.mem_cons.1 h with rfl | h
        · exact .inr (by simp)
        · rcases ih h with h | h
          · exact .inl h
          · exact .inr (List.mem_cons_of_mem _ h)
      · rcases List.mem_cons.1 h with rfl | h
        · exact .inr (by simp)
        · exact .inr (List.mem_cons_of_mem _ (List.mem_map_of_mem h))

theorem pairwise_alter {tag : String} {f : Nat → Nat} {entries : List (String × Nat)}
    (h : entries.Pairwise fun a b => a.1 < b.1) :
    (alter tag f entries).Pairwise fun a b => a.1 < b.1 := by
  induction entries with
  | nil => simp [alter]
  | cons d rest ih =>
    obtain ⟨t, n⟩ := d
    rw [List.pairwise_cons] at h
    rw [alter]
    split
    · next ht =>
      refine List.pairwise_cons.2 ⟨?_, List.pairwise_cons.2 h⟩
      intro e he
      rcases List.mem_cons.1 he with rfl | he
      · exact ht
      · exact String.lt_trans ht (h.1 e he)
    · split
      · next ht =>
        refine List.pairwise_cons.2 ⟨?_, ih h.2⟩
        intro e he
        rcases mem_alter he with he | he
        · rw [he]; exact ht
        · obtain ⟨d, hd, hde⟩ := List.mem_map.1 he
          rw [← hde]; exact h.1 d hd
      · exact List.pairwise_cons.2 ⟨h.1, h.2⟩

/-- Counts a tag once more. -/
def increment (tag : String) (c : TagCounts) : TagCounts :=
  ⟨alter tag (· + 1) c.entries, pairwise_alter c.sorted⟩

/-- Sets the count of a tag. -/
def set (tag : String) (n : Nat) (c : TagCounts) : TagCounts :=
  ⟨alter tag (fun _ => n) c.entries, pairwise_alter c.sorted⟩

/-- The counts of a list, later entries taking the place of earlier ones. -/
def ofList (entries : List (String × Nat)) : TagCounts :=
  entries.foldl (fun c e => c.set e.1 e.2) {}

/-- The count of a tag. -/
def count (tag : String) (c : TagCounts) : Nat := (c.entries.lookup tag).getD 0

end TagCounts

/-- What is left of a session. -/
structure SessionSummary where
  databaseName : String
  seed : UInt64
  roundsRun : Nat
  passed : Nat
  skipped : Nat
  /-- How many rounds were skipped for each reason. -/
  skipReasons : TagCounts
  outcome : SessionOutcome
  replay : ReplayState
  deriving DecidableEq

namespace SessionSummary

/-- Whether a logic bug was found. -/
def foundBug (s : SessionSummary) : Bool :=
  match s.outcome with
  | .logicBug _ _ => true
  | _ => false

/-- Whether every round was run. -/
def completed (s : SessionSummary) : Bool :=
  match s.outcome with
  | .completed => true
  | _ => false

/-- A summary after a further round; a bug is reported at the given path. -/
def addOutcome (path : Option String) (s : SessionSummary) (o : RoundOutcome) : SessionSummary :=
  let s := { s with roundsRun := s.roundsRun + 1 }
  match o with
  | .passed => { s with passed := s.passed + 1 }
  | .skipped reason =>
    { s with skipped := s.skipped + 1, skipReasons := s.skipReasons.increment reason.tag }
  | .bug report => { s with outcome := .logicBug report path }
  | .failed e => { s with outcome := .failed e.message }

/-- The summary of a session whose rounds ended in the given ways; a bug is reported at the given
path. -/
def ofOutcomes (options : SessionOptions) (outcomes : List RoundOutcome) (path : Option String)
    (replay : ReplayState) : SessionSummary :=
  outcomes.foldl (addOutcome path)
    { databaseName := options.databaseName
      seed := options.seed
      roundsRun := 0
      passed := 0
      skipped := 0
      skipReasons := {}
      outcome := .completed
      replay }

end SessionSummary

end Trisect
