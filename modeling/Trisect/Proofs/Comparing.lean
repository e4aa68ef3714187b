import Trisect.Proofs.Disagreement

/-!
# What a comparison does

A comparison looks at two results through a function on cells, tells the log about a disagreement
and keeps it for the replay. It asks for one thing at most, and what comes after that does not
depend on the answer, so that it can be written down in full (`Trisect.run_assertEqualUnder`).
Whoever answers, it is then clear what it comes to (`Trisect.Reached`): nothing is asked and nothing
changed if the results are the same; else there is one diagnostic, taken by the log or not, two
statements more for the replay, and the report.

Two results **pass under** a function if the comparison ends well whatever the texts and the session
are (`Trisect.PassUnder`), and else **differ under** it (`Trisect.DifferUnder`). That to pass is an
equivalence of results, that the order of rows has no part in it, and that a report says the same of
the two sides when they change places (`Trisect.Mismatch.swap`), is collected with the rest in
`Trisect.comparison_under`.
-/

namespace Trisect

/-! ### The relation of results -/

namespace SameResult

variable {first second : List Cell}

protected theorem symm (h : SameResult first second) : SameResult second first :=
  ⟨h.1.symm, fun c => (h.2 c).symm⟩

end SameResult

namespace Mismatch

/-- A mismatch with its sides in each other's places. -/
def swap : Mismatch → Mismatch
  | cardinality whole combined => cardinality combined whole
  | content wholeMisses combinedMisses => content combinedMisses wholeMisses

variable {first second : List Cell} {m : Mismatch}

/-- What describes two results describes them in each other's places when it is swapped. -/
theorem Describes.swap (h : m.Describes first second) : m.swap.Describes second first := by
  cases h with
  | cardinality hlen => exact .cardinality hlen.symm
  | content hlen ha hb hne =>
    refine .content hlen.symm hb ha ?_
    obtain ⟨c, hc⟩ := hne
    exact ⟨c, hc.symm⟩

/-- **The cells that are reported** are the differences of the two sets of cells, and no cell is in
both. -/
theorem Describes.eq_diff {a b : CellSet}
    (h : (Mismatch.content a b).Describes first second) :
    a = (CellSet.ofList first).diff (.ofList second) ∧
      b = (CellSet.ofList second).diff (.ofList first) ∧ ∀ c, c ∈ a → c ∉ b := by
  cases h with
  | content hlen ha hb hne =>
    refine ⟨?_, ?_, ?_⟩
    · exact CellSet.ext_mem fun c => by simpa using ha c
    · exact CellSet.ext_mem fun c => by simpa using hb c
    · intro c hca hcb
      exact ((hb c).1 hcb).2 ((ha c).1 hca).1

end Mismatch

/-! ### The comparison -/

variable {f : Cell → Cell} {first second : List Cell}

/-- **A comparison in full**: a single request at most, and a result that does not depend on how it
is answered. -/
theorem run_assertEqualUnder (f : Cell → Cell) (whole : String) (parts : List String)
    (first second : List Cell) (s : Session) :
    (assertEqualUnder f whole parts first second).run s =
      match Mismatch.between? (first.map f) (second.map f) with
      | none => .done (.ok (), s)
      | some m =>
        .ask (.writeDiagnostic (BugReport.diagnostic ⟨whole, parts, m⟩)) fun _ =>
          .done (.error (.logicBug ⟨whole, parts, m⟩),
            s.record (BugReport.statements ⟨whole, parts, m⟩)) := by
  rw [assertEqualUnder, assertEqual]
  cases Mismatch.between? (first.map f) (second.map f) with
  | none => rfl
  | some m => rfl

/-- The plain comparison is the one under the identity. -/
theorem assertEqual_eq_under (whole : String) (parts : List String) (first second : List Cell) :
    assertEqual whole parts first second = assertEqualUnder id whole parts first second := by
  rw [assertEqualUnder, List.map_id, List.map_id]

/-- Two results pass under a function if their comparison ends well, asks for nothing and leaves the
session as it is, whatever the texts are. -/
def PassUnder (f : Cell → Cell) (first second : List Cell) : Prop :=
  ∀ (whole : String) (parts : List String) (s : Session),
    (assertEqualUnder f whole parts first second).run s = .done (.ok (), s)

/-- Under a function two results make for a mismatch if their comparison offers the log a diagnostic
about it, keeps two statements and raises the report, whatever the texts are and whatever the log
answers. -/
def DifferUnder (f : Cell → Cell) (first second : List Cell) (m : Mismatch) : Prop :=
  ∀ (whole : String) (parts : List String) (s : Session),
    (assertEqualUnder f whole parts first second).run s =
      .ask (.writeDiagnostic (BugReport.diagnostic ⟨whole, parts, m⟩)) fun _ =>
        .done (.error (.logicBug ⟨whole, parts, m⟩),
          s.record [annotate whole m.wholeNote, annotate (";".intercalate parts) m.combinedNote])

/-- A log that takes every diagnostic, where there is nobody to answer anything else. -/
def Handler.takesDiagnostics : Handler Unit
  | .writeDiagnostic _, w => (some (.ok ()), w)
  | _, w => (none, w)

theorem passUnder_iff : PassUnder f first second ↔ SameResult (first.map f) (second.map f) := by
  rw [← Mismatch.between?_eq_none_iff]
  constructor
  · intro h
    have hrun := h "" [] .detached
    rw [run_assertEqualUnder] at hrun
    cases hm : Mismatch.between? (first.map f) (second.map f) with
    | none => rfl
    | some m =>
      rw [hm] at hrun
      cases hrun
  · intro h whole parts s
    rw [run_assertEqualUnder, h]

theorem differUnder_iff {m : Mismatch} :
    DifferUnder f first second m ↔ m.Describes (first.map f) (second.map f) := by
  rw [← Mismatch.between?_eq_some_iff]
  constructor
  · intro h
    have hrun := h "" [] .detached
    rw [run_assertEqualUnder] at hrun
    cases hm : Mismatch.between? (first.map f) (second.map f) with
    | none =>
      rw [hm] at hrun
      cases hrun
    | some m' =>
      rw [hm] at hrun
      -- with an answer of the log both come to their reports
      have hreport := congrArg
        (fun d : Dialogue _ => (d.run Handler.takesDiagnostics ()).1.map Prod.fst) hrun
      have hsame : m' = m := by simpa [Dialogue.run, Handler.takesDiagnostics] using hreport
      rw [hsame]
  · intro h whole parts s
    rw [run_assertEqualUnder, h]
    rfl

/-- **What a comparison comes to** in a session and a world, whoever answers. -/
structure Reached {σ : Type} (h : Handler σ) (f : Cell → Cell) (whole : String)
    (parts : List String) (first second : List Cell) (s : Session) (w : σ) : Prop where
  /-- It ends well if and only if the results are the same as they are seen. -/
  ok_iff : (∃ s' w', ((assertEqualUnder f whole parts first second).run s).run h w =
      (some (.ok (), s'), w')) ↔ SameResult (first.map f) (second.map f)
  /-- Then nothing is asked, and nothing changed. -/
  same : SameResult (first.map f) (second.map f) →
    ((assertEqualUnder f whole parts first second).run s).transcript h w = [] ∧
      ((assertEqualUnder f whole parts first second).run s).run h w = (some (.ok (), s), w)
  /-- Else the log is offered one diagnostic; whatever it answers, the two annotated statements are
  kept and the report is raised. -/
  different : ¬SameResult (first.map f) (second.map f) →
    ∃ m : Mismatch, m.Describes (first.map f) (second.map f) ∧
      (∀ a b, m = .content a b →
        a = (CellSet.ofList (first.map f)).diff (.ofList (second.map f)) ∧
          b = (CellSet.ofList (second.map f)).diff (.ofList (first.map f)) ∧ ∀ c ∈ a, c ∉ b) ∧
      let report : BugReport := ⟨whole, parts, m⟩
      let r := Request.writeDiagnostic report.diagnostic
      ((assertEqualUnder f whole parts first second).run s).transcript h w = [⟨r, (h r w).1⟩] ∧
        ((assertEqualUnder f whole parts first second).run s).run h w =
          ((h r w).1.map fun _ => (.error (.logicBug report),
            s.record [annotate whole m.wholeNote, annotate (";".intercalate parts) m.combinedNote]),
            (h r w).2)

theorem reached {σ : Type} (h : Handler σ) (f : Cell → Cell) (whole : String) (parts : List String)
    (first second : List Cell) (s : Session) (w : σ) :
    Reached h f whole parts first second s w := by
  have hpass : SameResult (first.map f) (second.map f) →
      (assertEqualUnder f whole parts first second).run s = .done (.ok (), s) :=
    fun hsame => passUnder_iff.2 hsame whole parts s
  have hdiffer : ¬SameResult (first.map f) (second.map f) →
      ∃ m : Mismatch, m.Describes (first.map f) (second.map f) ∧ DifferUnder f first second m := by
    intro hne
    cases hm : Mismatch.between? (first.map f) (second.map f) with
    | none => exact absurd (Mismatch.between?_eq_none_iff.1 hm) hne
    | some m =>
      have hdescribes := Mismatch.between?_eq_some_iff.1 hm
      exact ⟨m, hdescribes, differUnder_iff.2 hdescribes⟩
  refine ⟨⟨?_, ?_⟩, ?_, ?_⟩
  · rintro ⟨s', w', hrun⟩
    by_contra hne
    -- a comparison that differs ends in a report, or in a breakdown over the diagnostic
    obtain ⟨m, -, hm⟩ := hdiffer hne
    rw [hm whole parts s, Dialogue.run] at hrun
    split at hrun
    · cases hrun
    · cases hrun
  · intro hsame
    rw [hpass hsame]
    exact ⟨s, w, rfl⟩
  · intro hsame
    rw [hpass hsame]
    exact ⟨rfl, rfl⟩
  · intro hne
    obtain ⟨m, hdescribes, hm⟩ := hdiffer hne
    refine ⟨m, hdescribes, ?_, ?_, ?_⟩
    · rintro a b rfl
      exact hdescribes.eq_diff
    · rw [hm whole parts s, Dialogue.transcript]
      split
      · next heq => 
        rw [heq]
        rfl
      · next heq => rw [heq]
    · rw [hm whole parts s, Dialogue.run]
      split
      · next heq => 
        rw [heq]
        rfl
      · next heq => 
        rw [heq]
        rfl

/-- How often a cell occurs is not compared, the sign of a zero only if it is not dropped. -/
example :
    Mismatch.between? [none, some "1", some "1"] [some "1", none, none] = none ∧
      Mismatch.between? [some "-0"] [some "0"] =
        some (.content (.ofList [some "-0"]) (.ofList [some "0"])) ∧
      Mismatch.between? ([some "-0"].map Cell.foldMinusZero) ([some "0"].map Cell.foldMinusZero) =
        none := by decide

end Trisect
