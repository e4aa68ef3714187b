import Mathlib.Data.List.Perm.Basic
import Trisect.Select

/-!
# Conditions in three-valued logic

In a row, or in a group of rows, a condition is true, false or unknown (`Trisect.Sql.Truth`), and a
row is kept only if it is true there. A `Trisect.Sql.Predicate` is a condition together with its
truth everywhere; the connectives act on its text and on its truth at once, on the truth as
Kleene's logic has it.

The statement that everything rests on is `Trisect.Sql.Predicate.keepRows_parts_perm`: **the three
parts of a partition keep every row exactly once**, also within the rows that another condition has
left.
-/

namespace Trisect.Sql

/-- A truth value of three-valued logic. -/
inductive Truth
  | yes
  | no
  | unknown
  deriving DecidableEq

namespace Truth

/-- What is unknown stays unknown when it is negated. -/
def not : Truth → Truth
  | yes => no
  | no => yes
  | unknown => unknown

/-- Whether a truth value is unknown is never unknown itself. -/
def isUnknown : Truth → Truth
  | unknown => yes
  | yes | no => no

/-- A conjunction is false as soon as one side is, whatever is known of the other. -/
def and : Truth → Truth → Truth
  | yes, t => t
  | no, _ => no
  | unknown, no => no
  | unknown, yes | unknown, unknown => unknown

theorem and_eq_yes_iff {s t : Truth} : s.and t = yes ↔ s = yes ∧ t = yes := by
  cases s <;> cases t <;> decide

/-- The elements at which a truth value is true. -/
def select {α : Type} (truth : α → Truth) (l : List α) : List α := l.filter fun a => truth a = yes

variable {α : Type} {truth : α → Truth} {l : List α}

theorem select_and {truth' : α → Truth} :
    select (fun a => (truth a).and (truth' a)) l = select truth' (select truth l) := by
  rw [select, select, select, List.filter_filter]
  refine List.filter_congr fun a _ => ?_
  simp [and_eq_yes_iff, Bool.and_comm]

/-- **At every element exactly one of the three is true**: the truth value, its negation, and that
it is unknown. -/
theorem select_parts_perm (truth : α → Truth) (l : List α) :
    (select truth l ++ (select (fun a => (truth a).not) l ++
      select (fun a => (truth a).isUnknown) l)).Perm l := by
  induction l with
  | nil => exact .nil
  | cons a l ih =>
    -- one of the three lists takes the element, which then has to be moved to the front
    cases h : truth a with
    | yes => simpa [select, h, not, isUnknown] using ih
    | no =>
      simp only [select, h, not, isUnknown, List.filter_cons, reduceCtorEq, decide_false,
        decide_true, Bool.false_eq_true, if_false, if_true, List.cons_append]
      exact List.perm_middle.trans (ih.cons a)
    | unknown =>
      simp only [select, h, not, isUnknown, List.filter_cons, reduceCtorEq, decide_false,
        decide_true, Bool.false_eq_true, if_false, if_true]
      rw [← List.append_assoc]
      refine List.perm_middle.trans (.cons a ?_)
      rw [List.append_assoc]
      exact ih

end Truth

/-- A condition: its text, and its truth in every row and in every group of rows. -/
structure Predicate (ρ γ : Type) where
  text : String
  inRow : ρ → Truth
  inGroup : γ → Truth

namespace Predicate

variable {ρ γ : Type}

/-- The negation `NOT (p)`. -/
def not (p : Predicate ρ γ) : Predicate ρ γ :=
  ⟨"NOT (" ++ p.text ++ ")", fun r => (p.inRow r).not, fun g => (p.inGroup g).not⟩

/-- The test `(p) IS NULL`. -/
def isNull (p : Predicate ρ γ) : Predicate ρ γ :=
  ⟨"(" ++ p.text ++ ") IS NULL", fun r => (p.inRow r).isUnknown, fun g => (p.inGroup g).isUnknown⟩

/-- The conjunction `(w) AND (p)`. -/
def and (w p : Predicate ρ γ) : Predicate ρ γ :=
  ⟨"(" ++ w.text ++ ") AND (" ++ p.text ++ ")", fun r => (w.inRow r).and (p.inRow r),
    fun g => (w.inGroup g).and (p.inGroup g)⟩

/-- A condition together with the one that is there, if one is. -/
def conjoin : Option (Predicate ρ γ) → Predicate ρ γ → Predicate ρ γ
  | none, p => p
  | some w, p => w.and p

/-- The three parts of the partition of a condition. -/
def parts (p : Predicate ρ γ) : List (Predicate ρ γ) := [p, p.not, p.isNull]

theorem map_text_parts (p : Predicate ρ γ) : p.parts.map text = (Partition.of p.text).parts := rfl

theorem text_conjoin (w : Option (Predicate ρ γ)) (p : Predicate ρ γ) :
    (conjoin w p).text = Select.conjoin (w.map text) p.text := by
  cases w <;> rfl

/-! ### What is kept -/

/-- The rows that a condition keeps, all of them if there is none. -/
def keepRows (w : Option (Predicate ρ γ)) (rows : List ρ) : List ρ :=
  match w with
  | none => rows
  | some p => Truth.select p.inRow rows

/-- The groups that a condition keeps, all of them if there is none. -/
def keepGroups (w : Option (Predicate ρ γ)) (groups : List γ) : List γ :=
  match w with
  | none => groups
  | some p => Truth.select p.inGroup groups

theorem keepRows_conjoin (w : Option (Predicate ρ γ)) (p : Predicate ρ γ) (rows : List ρ) :
    keepRows (some (conjoin w p)) rows = Truth.select p.inRow (keepRows w rows) := by
  cases w with
  | none => rfl
  | some w => exact Truth.select_and

/-- **The parts of a partition keep every row exactly once** among those that the condition which is
there has left. -/
theorem keepRows_parts_perm (w : Option (Predicate ρ γ)) (p : Predicate ρ γ) (rows : List ρ) :
    (p.parts.flatMap fun c => keepRows (some (conjoin w c)) rows).Perm (keepRows w rows) := by
  simp only [keepRows_conjoin, parts, List.flatMap_cons, List.flatMap_nil, List.append_nil]
  exact Truth.select_parts_perm p.inRow (keepRows w rows)

theorem keepGroups_parts_perm (p : Predicate ρ γ) (groups : List γ) :
    (p.parts.flatMap fun c => keepGroups (some c) groups).Perm groups := by
  simp only [parts, List.flatMap_cons, List.flatMap_nil, List.append_nil]
  exact Truth.select_parts_perm p.inGroup groups

end Predicate

end Trisect.Sql
