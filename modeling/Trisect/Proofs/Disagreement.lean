import Mathlib.Tactic.ByContra
import Mathlib.Tactic.Tauto
import Trisect.Comparison
import Trisect.Proofs.Sending

/-!
# Where two results disagree

Two results are taken for the same if they have equally many rows and the same distinct cells
(`Trisect.SameResult`); how often each cell occurs, and where, is left open. A mismatch has a
meaning of its own, apart from how it is found (`Trisect.Mismatch.Describes`), and
`Trisect.Mismatch.between?` finds it exactly: no mismatch if the results are the same
(`Trisect.Mismatch.between?_eq_none_iff`), else the one that describes them
(`Trisect.Mismatch.between?_eq_some_iff`). Neither side of that knows an order of the rows, so that
the search does not know one either (`Trisect.Mismatch.between?_eq_of_perm`). The comments on its
two sides are given once more here, letter by letter (`Trisect.Mismatch.notes`), for statements
about what is found in a replay or in a file.

Within a session the comparison sends nothing to the engine. What it leaves behind if it ends in a
report is said by `Trisect.path_assertEqual`.
-/

namespace Trisect

/-- Equally many rows, and the same distinct cells. -/
def SameResult (first second : List Cell) : Prop :=
  first.length = second.length ∧ ∀ c, c ∈ first ↔ c ∈ second

theorem SameResult.of_perm {first second : List Cell} (h : first.Perm second) :
    SameResult first second :=
  ⟨h.length_eq, fun _ => h.mem_iff⟩

theorem CellSet.ofList_eq_iff {first second : List Cell} :
    CellSet.ofList first = CellSet.ofList second ↔ ∀ c, c ∈ first ↔ c ∈ second := by
  constructor
  · intro h c
    rw [← mem_ofList, h, mem_ofList]
  · intro h
    refine ext_mem fun c => ?_
    rw [mem_ofList, mem_ofList]
    exact h c

namespace Mismatch

/-- **What a mismatch says**: how many rows there are on each side, if these numbers differ; else
which cells each side has and the other lacks, of which there is at least one. -/
inductive Describes (first second : List Cell) : Mismatch → Prop
  | cardinality (hlen : first.length ≠ second.length) :
      Describes first second (.cardinality first.length second.length)
  | content {a b : CellSet} (hlen : first.length = second.length)
      (ha : ∀ c, c ∈ a ↔ c ∈ first ∧ c ∉ second) (hb : ∀ c, c ∈ b ↔ c ∈ second ∧ c ∉ first)
      (hne : ∃ c, c ∈ a ∨ c ∈ b) : Describes first second (.content a b)

variable {first second : List Cell}

theorem between?_eq_none_iff : between? first second = none ↔ SameResult first second := by
  rw [between?, SameResult]
  split
  · next hlen => simp [hlen]
  · next hlen =>
    rw [not_not] at hlen
    simp [hlen, CellSet.ofList_eq_iff]

/-- Results that are not the same are described by exactly one mismatch. -/
theorem Describes.unique {m n : Mismatch} (hm : Describes first second m)
    (hn : Describes first second n) : m = n := by
  cases hm with
  | cardinality hlen =>
    cases hn with
    | cardinality => rfl
    | content hlen' => exact absurd hlen' hlen
  | content hlen ha hb =>
    cases hn with
    | cardinality hlen' => exact absurd hlen hlen'
    | content _ ha' hb' =>
      congr 1
      · exact CellSet.ext_mem fun c => (ha c).trans (ha' c).symm
      · exact CellSet.ext_mem fun c => (hb c).trans (hb' c).symm

theorem Describes.not_sameResult {m : Mismatch} (h : Describes first second m) :
    ¬SameResult first second := by
  rintro ⟨hlen, hmem⟩
  cases h with
  | cardinality hne => exact hne hlen
  | content _ ha hb hne =>
    obtain ⟨c, hc | hc⟩ := hne
    · exact ((ha c).1 hc).2 ((hmem c).1 ((ha c).1 hc).1)
    · exact ((hb c).1 hc).2 ((hmem c).2 ((hb c).1 hc).1)

/-- **The mismatch that is found describes the two results.** -/
theorem describes_of_between?_eq_some {m : Mismatch} (h : between? first second = some m) :
    Describes first second m := by
  rw [between?] at h
  split at h
  · next hlen =>
    obtain rfl := Option.some.inj h
    exact .cardinality hlen
  · next hlen =>
    rw [not_not] at hlen
    simp only at h
    split at h
    · simp at h
    · next hne =>
      obtain rfl := Option.some.inj h
      refine .content hlen (by simp) (by simp) ?_
      -- were there no cell on either side alone, the two sets would be one
      by_contra hno
      refine hne (CellSet.ofList_eq_iff.2 fun c => ?_)
      have hc : ¬(c ∈ first ∧ c ∉ second ∨ c ∈ second ∧ c ∉ first) :=
        fun hc => hno ⟨c, by simpa using hc⟩
      tauto

theorem between?_eq_some_iff {m : Mismatch} :
    between? first second = some m ↔ Describes first second m := by
  refine ⟨describes_of_between?_eq_some, fun h => ?_⟩
  cases hm : between? first second with
  | none => exact absurd (between?_eq_none_iff.1 hm) h.not_sameResult
  | some n => rw [(describes_of_between?_eq_some hm).unique h]

/-- **The order of the rows does not matter** to the mismatch, on neither side. -/
theorem between?_eq_of_perm {first' second' : List Cell} (h₁ : first.Perm first')
    (h₂ : second.Perm second') : between? first second = between? first' second' := by
  have hset₁ : CellSet.ofList first = CellSet.ofList first' :=
    CellSet.ofList_eq_iff.2 fun _ => h₁.mem_iff
  have hset₂ : CellSet.ofList second = CellSet.ofList second' :=
    CellSet.ofList_eq_iff.2 fun _ => h₂.mem_iff
  rw [between?, between?, h₁.length_eq, h₂.length_eq, hset₁, hset₂]

end Mismatch

/-! ### Notes -/

/-- The cells of a set in brackets, in order and divided by commas, NULL by its name. -/
def CellSet.inBrackets (s : CellSet) : String :=
  "[" ++ ", ".intercalate (s.toList.map fun
    | none => "NULL"
    | some text => text) ++ "]"

/-- **The notes on the two sides of a mismatch**: how many rows there are on it, or which cells it
has that the other lacks. -/
def Mismatch.notes : Mismatch → String × String
  | cardinality whole combined =>
    ("cardinality: " ++ toString whole, "cardinality: " ++ toString combined)
  | content wholeMisses combinedMisses =>
    ("misses: " ++ wholeMisses.inBrackets, "misses: " ++ combinedMisses.inBrackets)

theorem CellSet.render_eq (s : CellSet) : s.render = s.inBrackets := by
  have hcell : (fun c : Cell => c.getD "NULL") = fun
      | none => "NULL"
      | some text => text := by
    funext c
    cases c <;> rfl
  rw [render, hcell, inBrackets]

theorem Mismatch.wholeNote_eq (m : Mismatch) : m.wholeNote = m.notes.1 := by
  cases m with
  | cardinality => rfl
  | content => rw [wholeNote, CellSet.render_eq, notes]

theorem Mismatch.combinedNote_eq (m : Mismatch) : m.combinedNote = m.notes.2 := by
  cases m with
  | cardinality => rfl
  | content => rw [combinedNote, CellSet.render_eq, notes]

section Order

variable {whole : String} {reconstructed : List String} {first second first' second' : List Cell}

theorem assertEqual_eq_of_perm (h₁ : first.Perm first') (h₂ : second.Perm second') :
    assertEqual whole reconstructed first second =
      assertEqual whole reconstructed first' second' := by
  rw [assertEqual, assertEqual, Mismatch.between?_eq_of_perm h₁ h₂]

/-- A comparison does not see the order of the rows, under whichever function it is made. -/
theorem assertEqualUnder_eq_of_perm (f : Cell → Cell) (h₁ : first.Perm first')
    (h₂ : second.Perm second') :
    assertEqualUnder f whole reconstructed first second =
      assertEqualUnder f whole reconstructed first' second' :=
  assertEqual_eq_of_perm (h₁.map f) (h₂.map f)

end Order

/-- **What a comparison leaves behind**: nothing if the results are the same; else the diagnostic is
offered to the log, the annotated statements are kept, and the report is raised. -/
theorem path_assertEqual {whole : String} {reconstructed : List String} {first second : List Cell}
    {s s' : Session} {t : List Exchange} {r : Except OracleError Unit}
    (h : SessionM.Path (assertEqual whole reconstructed first second) s t r s') :
    (SameResult first second ∧ t = [] ∧ r = .ok () ∧ s' = s) ∨
      ∃ m, m.Describes first second ∧
        (∃ answer, t = [⟨.writeDiagnostic (BugReport.diagnostic ⟨whole, reconstructed, m⟩),
          some answer⟩]) ∧
        r = .error (.logicBug ⟨whole, reconstructed, m⟩) ∧
        s' = s.record (BugReport.statements ⟨whole, reconstructed, m⟩) := by
  rw [assertEqual] at h
  split at h
  · next heq =>
    obtain ⟨rfl, rfl, rfl⟩ := SessionM.path_pure_iff.1 h
    exact Or.inl ⟨Mismatch.between?_eq_none_iff.1 heq, rfl, rfl, rfl⟩
  · next m heq =>
    refine Or.inr ⟨m, Mismatch.between?_eq_some_iff.1 heq, ?_⟩
    obtain ⟨answer, t', h₁, rfl⟩ := SessionM.path_ask_bind_iff.1 h
    obtain ⟨e, h₂, rfl⟩ | ⟨t₂, _, s₁, t₃, h₂, h₃, rfl⟩ := SessionM.path_bind_iff.1 h₁
    · simpa using (SessionM.path_modify_iff.1 h₂).2.1
    · obtain ⟨rfl, -, rfl⟩ := SessionM.path_modify_iff.1 h₂
      obtain ⟨rfl, rfl, rfl⟩ := SessionM.path_throw_iff.1 h₃
      exact ⟨⟨answer, rfl⟩, rfl, rfl⟩

end Trisect
