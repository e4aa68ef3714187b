/-!
# Cells and sets of cells

A query is judged by the first column of its result. A **cell** `Trisect.Cell` is one value of that
column: a text, or `none` for SQL's NULL. Cells are ordered with NULL first and texts by their code
points, which is also the order of their UTF-8 bytes (`Trisect.Cell.before`).

A **cell set** `Trisect.CellSet` keeps its members in that order, each once, so that two cell sets
with the same members are the same value, and a report lists its cells in one order only. It is the
type in which a comparison states which values are missing on either side.
-/

namespace Trisect

/-- A value of the first column of a result, `none` for NULL. -/
abbrev Cell := Option String

namespace Cell

/-- NULL comes before every text, and texts come in the order of their code points. -/
def before : Cell → Cell → Bool
  | none, some _ => true
  | some s, some t => decide (s < t)
  | _, none => false

@[simp] theorem before_none (c : Cell) : c.before none = false := by
  cases c <;> rfl

@[simp] theorem none_before_some (s : String) : before none (some s) = true := rfl

@[simp] theorem some_before_some (s t : String) : before (some s) (some t) = decide (s < t) := rfl

theorem before_irrefl (c : Cell) : c.before c = false := by
  cases c with
  | none => rfl
  | some s => simp

theorem before_trans {a b c : Cell} (hab : a.before b) (hbc : b.before c) : a.before c := by
  cases a with
  | none => cases c with
    | none => simp at hbc
    | some u => rfl
  | some s => cases b with
    | none => simp at hab
    | some t => cases c with
      | none => simp at hbc
      | some u =>
        simp only [some_before_some, decide_eq_true_eq] at hab hbc ⊢
        exact String.lt_trans hab hbc

/-- Two cells of which neither comes before the other are the same. -/
theorem eq_of_not_before {a b : Cell} (hab : a.before b = false) (hba : b.before a = false) :
    a = b := by
  cases a with
  | none => cases b with
    | none => rfl
    | some t => simp at hab
  | some s => cases b with
    | none => simp at hba
    | some t =>
      simp only [some_before_some, decide_eq_false_iff_not, String.not_lt] at hab hba
      rw [String.le_antisymm hba hab]

end Cell

/-! ### Cell sets -/

/-- A finite set of cells, listed in order and without repetition. -/
structure CellSet where
  /-- The members, in order. -/
  toList : List Cell
  /-- Every member comes before the later ones. -/
  sorted : toList.Pairwise fun a b => a.before b

namespace CellSet

@[ext] theorem ext_toList {s t : CellSet} (h : s.toList = t.toList) : s = t := by
  cases s; cases t; cases h; rfl

instance : DecidableEq CellSet := fun s t =>
  decidable_of_iff (s.toList = t.toList) ⟨ext_toList, congrArg _⟩

instance : Membership Cell CellSet := ⟨fun s c => c ∈ s.toList⟩

theorem mem_def {c : Cell} {s : CellSet} : c ∈ s ↔ c ∈ s.toList := Iff.rfl

instance (c : Cell) (s : CellSet) : Decidable (c ∈ s) :=
  inferInstanceAs (Decidable (c ∈ s.toList))

/-- The set without members. -/
def empty : CellSet := ⟨[], .nil⟩

instance : EmptyCollection CellSet := ⟨empty⟩

instance : Inhabited CellSet := ⟨empty⟩

/-- Puts a cell at its place in an ordered list, unless it is there already. -/
def place (c : Cell) : List Cell → List Cell
  | [] => [c]
  | d :: ds =>
    if c.before d then c :: d :: ds
    else if d.before c then d :: place c ds
    else d :: ds

theorem mem_place {c x : Cell} {ds : List Cell} : x ∈ place c ds ↔ x = c ∨ x ∈ ds := by
  induction ds with
  | nil => simp [place]
  | cons d ds ih =>
    rw [place]
    split
    · simp
    · next hcd =>
      split
      · simp only [List.mem_cons, ih]
        exact ⟨fun h => by rcases h with h | h | h <;> simp [h],
          fun h => by rcases h with h | h | h <;> simp [h]⟩
      · next hdc =>
        have := Cell.eq_of_not_before (by simpa using hcd) (by simpa using hdc)
        subst this
        simp

theorem pairwise_place {c : Cell} {ds : List Cell} (h : ds.Pairwise fun a b => a.before b) :
    (place c ds).Pairwise fun a b => a.before b := by
  induction ds with
  | nil => simp [place]
  | cons d ds ih =>
    rw [List.pairwise_cons] at h
    rw [place]
    split
    · next hcd =>
      refine List.pairwise_cons.2 ⟨?_, List.pairwise_cons.2 h⟩
      intro x hx
      rcases List.mem_cons.1 hx with rfl | hx
      · exact hcd
      · exact Cell.before_trans hcd (h.1 x hx)
    · next hcd =>
      split
      · next hdc =>
        refine List.pairwise_cons.2 ⟨?_, ih h.2⟩
        intro x hx
        rcases mem_place.1 hx with rfl | hx
        · exact hdc
        · exact h.1 x hx
      · exact List.pairwise_cons.2 h

/-- Adds a cell to a set. -/
def insert (c : Cell) (s : CellSet) : CellSet := ⟨place c s.toList, pairwise_place s.sorted⟩

@[simp] theorem mem_insert {c x : Cell} {s : CellSet} : x ∈ s.insert c ↔ x = c ∨ x ∈ s :=
  mem_place

/-- The distinct cells of a list. -/
def ofList (cells : List Cell) : CellSet := cells.foldr insert empty

@[simp] theorem mem_ofList {c : Cell} {cells : List Cell} : c ∈ ofList cells ↔ c ∈ cells := by
  induction cells with
  | nil => simp [ofList, empty, mem_def]
  | cons d ds ih =>
    rw [ofList, List.foldr_cons, ← ofList, mem_insert, ih, List.mem_cons]

/-- **Extensionality**: cell sets with the same members are equal. -/
theorem ext_mem {s t : CellSet} (h : ∀ c, c ∈ s ↔ c ∈ t) : s = t := by
  have key : ∀ {l m : List Cell}, (l.Pairwise fun a b => a.before b) →
      (m.Pairwise fun a b => a.before b) → (∀ c, c ∈ l ↔ c ∈ m) → l = m := by
    intro l
    induction l with
    | nil =>
      intro m _ _ hm
      cases m with
      | nil => rfl
      | cons d ds => exact absurd ((hm d).2 (by simp)) (by simp)
    | cons a l ih =>
      intro m hl hm hmem
      cases m with
      | nil => exact absurd ((hmem a).1 (by simp)) (by simp)
      | cons b m =>
        rw [List.pairwise_cons] at hl hm
        have hab : a = b := by
          rcases List.mem_cons.1 ((hmem a).1 (by simp)) with h | h
          · exact h
          · rcases List.mem_cons.1 ((hmem b).2 (by simp)) with h' | h'
            · exact h'.symm
            · have := Cell.before_trans (hm.1 a h) (hl.1 b h')
              rw [Cell.before_irrefl] at this
              exact absurd this (by simp)
        subst hab
        congr 1
        refine ih hl.2 hm.2 fun c => ?_
        have hne : ∀ x, x ∈ l ∨ x ∈ m → x ≠ a := by
          rintro x hx rfl
          have : x.before x := hx.elim (hl.1 x) (hm.1 x)
          rw [Cell.before_irrefl] at this
          exact absurd this (by simp)
        constructor
        · intro hc
          exact (List.mem_cons.1 ((hmem c).1 (List.mem_cons_of_mem _ hc))).resolve_left
            (hne c (.inl hc))
        · intro hc
          exact (List.mem_cons.1 ((hmem c).2 (List.mem_cons_of_mem _ hc))).resolve_left
            (hne c (.inr hc))
  exact ext_toList (key s.sorted t.sorted h)

/-- A set is rebuilt from the list of its members. -/
@[simp] theorem ofList_toList (s : CellSet) : ofList s.toList = s :=
  ext_mem fun _ => by rw [mem_ofList, mem_def]

/-- The members of the first set that are not in the second. -/
def diff (s t : CellSet) : CellSet :=
  ⟨s.toList.filter fun c => !decide (c ∈ t), s.sorted.filter _⟩

@[simp] theorem mem_diff {c : Cell} {s t : CellSet} : c ∈ s.diff t ↔ c ∈ s ∧ c ∉ t := by
  simp [diff, mem_def]

/-- The text of a set in messages: `[a, b, NULL]`. -/
def render (s : CellSet) : String :=
  "[" ++ ", ".intercalate (s.toList.map fun c => c.getD "NULL") ++ "]"

end CellSet

end Trisect
