import Trisect.Proofs.Round.Signs
import Trisect.Proofs.Sql.Token
import Trisect.Sqlite.Value

/-!
# Exact values keep apart

The values of SQLite are compared as texts, and two of the steps on the way identify texts on
purpose. NULL, whole numbers and strings of bytes have one representation each
(`Trisect.Sqlite.Value.IsExact`), so that for these nothing may be lost. Nothing is: no step touches
their texts (`Trisect.Sqlite.Value.IsExact.normalized_toCell`), since there is no point in them and
a zero has no sign; and the texts are different. A text tells the digits of a whole number, and so
the number; the two digits of a byte tell the byte (`Trisect.Hex.upper_injective`); a literal of
bytes begins with an `X`, a number with a digit or a minus sign. This is
`Trisect.Sqlite.Value.IsExact.toCell_inj`.

So the cells of two results of exact values are the same only if the values are, and what a
comparison reports is the difference of the values: `Trisect.Sqlite.exact_values_keep_apart`. For
texts and doubles there is no such statement. A text may look like a number or like a literal.
-/

namespace Trisect

/-! ### Hexadecimal digits -/

namespace Hex

theorem ne_point_of_mem_upper {bytes : List UInt8} {d : Char} (h : d ∈ upper bytes) : d ≠ '.' := by
  have hdigit : ∀ n, n < 16 → upperDigit n ≠ '.' := by decide
  obtain ⟨b, -, hd⟩ := List.mem_flatMap.1 h
  have hb := b.toNat_lt
  obtain rfl | rfl : d = upperDigit (b.toNat / 16) ∨ d = upperDigit (b.toNat % 16) := by
    simpa [byteWith] using hd
  · exact hdigit _ (by omega)
  · exact hdigit _ (by omega)

end Hex

/-! ### Whole numbers -/

section Numbers

open Sql (toList_toString_int exists_cons_digits)

/-- The text of a whole number begins with a minus sign or a digit. -/
theorem exists_cons_toString_int (n : Int) :
    ∃ c cs, (toString n).toList = c :: cs ∧ (c = '-' ∨ Json.isDigit c = true) := by
  rw [toList_toString_int]
  split
  · exact ⟨'-', _, rfl, .inl rfl⟩
  · obtain ⟨d, ds, hds, hd⟩ := exists_cons_digits n.natAbs
    exact ⟨d, ds, hds, .inr hd⟩

theorem notMem_digits {c : Char} (hc : Json.isDigit c = false) (n : Nat) : c ∉ Json.digits n := by
  intro h
  rw [Json.isDigit_of_mem_digits h] at hc
  cases hc

theorem point_notMem_toString_int (n : Int) : '.' ∉ (toString n).toList := by
  rw [toList_toString_int]
  split
  · simpa using notMem_digits (c := '.') rfl n.natAbs
  · simpa using notMem_digits (c := '.') rfl n.natAbs

/-- A zero is written without a sign. -/
theorem toString_int_ne_minusZero (n : Int) : toString n ≠ "-0" := by
  intro h
  have hchars := congrArg String.toList h
  rw [toList_toString_int] at hchars
  split at hchars
  · next hneg =>
    have hdigits : Json.digits n.natAbs = ['0'] := (List.cons.inj hchars).2
    have hzero := Json.eq_zero_of_head?_digits (n := n.natAbs) (by rw [hdigits]; rfl)
    omega
  · -- without a sign the text begins with a digit
    have hdigits : Json.digits n.natAbs = ['-', '0'] := hchars
    exact notMem_digits rfl n.natAbs (hdigits ▸ List.mem_cons_self)

/-- **A whole number is told by its text.** -/
theorem toString_int_inj {m n : Int} (h : toString m = toString n) : m = n := by
  have hchars := congrArg String.toList h
  rw [toList_toString_int, toList_toString_int] at hchars
  -- either both have a sign or neither, since no digit is one
  split at hchars <;> split at hchars
  · have habs := Json.eq_of_digits_eq (List.cons.inj hchars).2
    omega
  · have hdigits : '-' :: Json.digits m.natAbs = Json.digits n.natAbs := hchars
    exact absurd (hdigits ▸ List.mem_cons_self) (notMem_digits rfl n.natAbs)
  · have hdigits : Json.digits m.natAbs = '-' :: Json.digits n.natAbs := hchars
    exact absurd (hdigits ▸ List.mem_cons_self) (notMem_digits rfl m.natAbs)
  · have habs := Json.eq_of_digits_eq hchars
    omega

end Numbers

/-! ### Values -/

namespace Sqlite

/-- **A value with a single representation**: no double and no text. -/
inductive Value.IsExact : Value → Prop
  | null : IsExact .null
  | integer (n : Int64) : IsExact (.integer n)
  | blob (bytes : List UInt8) : IsExact (.blob bytes)

namespace Value

theorem toList_blobLiteral (bytes : List UInt8) :
    (blobLiteral bytes).toList = 'X' :: '\x27' :: (Hex.upper bytes ++ ['\x27']) := by
  simp [blobLiteral, String.toList_append]

theorem point_notMem_blobLiteral (bytes : List UInt8) : '.' ∉ (blobLiteral bytes).toList := by
  rw [toList_blobLiteral]
  simpa using fun h => Hex.ne_point_of_mem_upper h rfl

theorem blobLiteral_inj {xs ys : List UInt8} (h : blobLiteral xs = blobLiteral ys) : xs = ys := by
  have hchars := congrArg String.toList h
  rw [toList_blobLiteral, toList_blobLiteral] at hchars
  have hdigits := (List.cons.inj (List.cons.inj hchars).2).2
  exact Hex.upper_injective (List.append_cancel_right hdigits)

/-- A literal of bytes begins in another way than a number. -/
theorem blobLiteral_ne_toString (bytes : List UInt8) (n : Int) :
    blobLiteral bytes ≠ toString n := by
  intro h
  have hchars := congrArg String.toList h
  obtain ⟨c, cs, hn, hc⟩ := exists_cons_toString_int n
  rw [toList_blobLiteral, hn] at hchars
  rw [← (List.cons.inj hchars).1] at hc
  revert hc
  decide

namespace IsExact

variable {v w : Value}

/-- Zeros at the end are not looked for in the text of an exact value. -/
theorem normalized_toCell (hv : v.IsExact) : v.toCell.normalized = v.toCell := by
  cases hv with
  | null => rfl
  | integer n => exact congrArg some (Decimal.stripZeros_of_no_point (point_notMem_toString_int _))
  | blob bytes => exact congrArg some (Decimal.stripZeros_of_no_point (point_notMem_blobLiteral _))

theorem toCell_ne_minusZero (hv : v.IsExact) : v.toCell ≠ some "-0" := by
  cases hv with
  | null => exact nofun
  | integer n => exact fun h => toString_int_ne_minusZero _ (Option.some.inj h)
  | blob bytes =>
    intro h
    have hchars := congrArg String.toList (Option.some.inj h)
    rw [toList_blobLiteral] at hchars
    exact absurd (List.cons.inj hchars).1 (by decide)

/-- **No step touches the text of an exact value.** -/
theorem foldMinusZero_toCell (hv : v.IsExact) :
    v.toCell.normalized.foldMinusZero = v.toCell := by
  have hne := hv.toCell_ne_minusZero
  rw [← hv.normalized_toCell] at hne
  rw [Cell.foldMinusZero_normalized_of_ne hne, hv.normalized_toCell]

/-- **An exact value is told by its text.** -/
theorem toCell_inj (hv : v.IsExact) (hw : w.IsExact) (h : v.toCell = w.toCell) : v = w := by
  cases hv with
  | null =>
    cases hw with
    | null => rfl
    | integer | blob => cases h
  | integer m =>
    cases hw with
    | null => cases h
    | integer n => rw [Int64.toInt_inj.1 (toString_int_inj (Option.some.inj h))]
    | blob bytes => exact absurd (Option.some.inj h).symm (blobLiteral_ne_toString _ _)
  | blob bytes =>
    cases hw with
    | null => cases h
    | integer n => exact absurd (Option.some.inj h) (blobLiteral_ne_toString _ _)
    | blob bytes' => rw [blobLiteral_inj (Option.some.inj h)]

end IsExact

end Value

/-! ### Results of exact values -/

/-- Equally many rows, and the same distinct values. -/
def SameValues (vs ws : List Value) : Prop := vs.length = ws.length ∧ ∀ v, v ∈ vs ↔ v ∈ ws

/-- Rows that are exact values, as a query gives them. -/
def collectedCells (vs : List Value) : List Cell := (vs.map Value.toCell).map Cell.normalized

section Results

variable {vs ws : List Value}

theorem toCell_mem_map_iff (hvs : ∀ v ∈ vs, v.IsExact) {v : Value} (hv : v.IsExact) :
    v.toCell ∈ vs.map Value.toCell ↔ v ∈ vs := by
  refine ⟨fun h => ?_, List.mem_map_of_mem⟩
  obtain ⟨u, hu, heq⟩ := List.mem_map.1 h
  rwa [← (hvs u hu).toCell_inj hv heq]

/-- A comparison sees the texts of exact values as they are, whatever the dialect is. -/
theorem map_fold_collectedCells (o : Oracle) (hvs : ∀ v ∈ vs, v.IsExact) :
    (collectedCells vs).map o.fold = vs.map Value.toCell := by
  rw [collectedCells, List.map_map, List.map_map]
  refine List.map_congr_left fun v hv => ?_
  change o.fold v.toCell.normalized = v.toCell
  rw [Oracle.fold]
  split
  · exact (hvs v hv).foldMinusZero_toCell
  · exact (hvs v hv).normalized_toCell

theorem sameResult_map_toCell_iff (hvs : ∀ v ∈ vs, v.IsExact) (hws : ∀ w ∈ ws, w.IsExact) :
    SameResult (vs.map Value.toCell) (ws.map Value.toCell) ↔ SameValues vs ws := by
  rw [SameResult, SameValues, List.length_map, List.length_map]
  refine and_congr_right fun _ => ⟨fun h v => ⟨fun hv => ?_, fun hv => ?_⟩, fun h c => ?_⟩
  · exact (toCell_mem_map_iff hws (hvs v hv)).1 ((h _).1 (List.mem_map_of_mem hv))
  · exact (toCell_mem_map_iff hvs (hws v hv)).1 ((h _).2 (List.mem_map_of_mem hv))
  · simp only [List.mem_map, h]

/-- **A mismatch of exact values**: it describes their texts, and the cells that it lists are those
of the values that one side has and the other lacks. -/
structure TellsApart (vs ws : List Value) (m : Mismatch) : Prop where
  describes : m.Describes (vs.map Value.toCell) (ws.map Value.toCell)
  lists : ∀ a b, m = .content a b → ∀ v : Value, v.IsExact →
    (v.toCell ∈ a ↔ v ∈ vs ∧ v ∉ ws) ∧ (v.toCell ∈ b ↔ v ∈ ws ∧ v ∉ vs)

theorem tellsApart_of_describes (hvs : ∀ v ∈ vs, v.IsExact) (hws : ∀ w ∈ ws, w.IsExact)
    {m : Mismatch} (h : m.Describes (vs.map Value.toCell) (ws.map Value.toCell)) :
    TellsApart vs ws m := by
  refine ⟨h, fun a b hm v hv => ?_⟩
  subst hm
  cases h with
  | content hlen ha hb hne =>
    rw [ha, hb, toCell_mem_map_iff hvs hv, toCell_mem_map_iff hws hv]
    exact ⟨Iff.rfl, Iff.rfl⟩

end Results

/-- **Exact values keep apart.** The cells that are compared are equal only if the values are, so
that a comparison of two results of exact values ends well if and only if they have equally many
rows and the same values, whatever the dialect is. If not, it ends in a report that lists the values
which make the difference. -/
theorem exact_values_keep_apart :
    (∀ v w : Value, v.IsExact → w.IsExact →
      (v.toCell.normalized.foldMinusZero = w.toCell.normalized.foldMinusZero ↔ v = w)) ∧
    ∀ (o : Oracle) (vs ws : List Value), (∀ v ∈ vs, v.IsExact) → (∀ w ∈ ws, w.IsExact) →
      (SameValues vs ws → ∀ whole parts s,
        (o.compare whole parts (collectedCells vs) (collectedCells ws)).run s =
          .done (.ok (), s)) ∧
      (¬SameValues vs ws → ∃ m, TellsApart vs ws m ∧ ∀ whole parts s,
        (o.compare whole parts (collectedCells vs) (collectedCells ws)).run s =
          .ask (.writeDiagnostic (BugReport.diagnostic ⟨whole, parts, m⟩)) fun _ =>
            .done (.error (.logicBug ⟨whole, parts, m⟩),
              s.record (BugReport.statements ⟨whole, parts, m⟩))) := by
  refine ⟨fun v w hv hw => ?_,
    fun o vs ws hvs hws => ⟨fun hsame whole parts s => ?_, fun hne => ?_⟩⟩
  · rw [hv.foldMinusZero_toCell, hw.foldMinusZero_toCell]
    exact ⟨hv.toCell_inj hw, congrArg Value.toCell⟩
  · rw [Oracle.compare_eq_under, run_assertEqualUnder, map_fold_collectedCells o hvs,
      map_fold_collectedCells o hws,
      Mismatch.between?_eq_none_iff.2 ((sameResult_map_toCell_iff hvs hws).2 hsame)]
  · rw [← sameResult_map_toCell_iff hvs hws, ← Mismatch.between?_eq_none_iff] at hne
    obtain ⟨m, hm⟩ := Option.ne_none_iff_exists'.1 hne
    refine ⟨m, tellsApart_of_describes hvs hws (Mismatch.between?_eq_some_iff.1 hm), ?_⟩
    intro whole parts s
    rw [Oracle.compare_eq_under, run_assertEqualUnder, map_fold_collectedCells o hvs,
      map_fold_collectedCells o hws, hm]

/-- A number and the bytes of its text, each beside NULL. -/
theorem exact_values_keep_apart_of_one :
    let v : Value := .integer 1
    let w : Value := .blob "1".toUTF8.toList
    let o : Oracle := ⟨.whereClause, ∅, .sqlite⟩
    v.toCell.normalized.foldMinusZero ≠ w.toCell.normalized.foldMinusZero ∧
      (∀ whole parts s, (o.compare whole parts (collectedCells [.null, v])
        (collectedCells [v, .null])).run s = .done (.ok (), s)) ∧
      ∃ m, TellsApart [.null, v] [w, .null] m ∧ ∀ whole parts s,
        (o.compare whole parts (collectedCells [.null, v]) (collectedCells [w, .null])).run s =
          .ask (.writeDiagnostic (BugReport.diagnostic ⟨whole, parts, m⟩)) fun _ =>
            .done (.error (.logicBug ⟨whole, parts, m⟩),
              s.record (BugReport.statements ⟨whole, parts, m⟩)) := by
  intro v w o
  have hv : v.IsExact := .integer 1
  have hw : w.IsExact := .blob _
  have hne : v ≠ w := nofun
  have hleft : ∀ u ∈ [.null, v], u.IsExact := by simp [hv, Value.IsExact.null]
  have hturned : ∀ u ∈ [v, .null], u.IsExact := by simp [hv, Value.IsExact.null]
  have hright : ∀ u ∈ [w, .null], u.IsExact := by simp [hw, Value.IsExact.null]
  obtain ⟨hcells, hresults⟩ := exact_values_keep_apart
  refine ⟨fun h => hne ((hcells v w hv hw).1 h), ?_, ?_⟩
  · exact (hresults o _ _ hleft hturned).1 ⟨rfl, fun u => by simp [or_comm]⟩
  · refine (hresults o _ _ hleft hright).2 fun hsame => ?_
    rcases List.mem_pair.1 ((hsame.2 v).1 (by simp)) with h | h
    · exact hne h
    · exact absurd h nofun

/-- A text may look like a literal of bytes, or like a number. -/
example :
    (Value.text "X'31'").toCell = (Value.blob [0x31]).toCell ∧
      (Value.text "1").toCell = (Value.integer 1).toCell := by decide

end Sqlite

end Trisect
