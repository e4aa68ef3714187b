import Trisect.Document.Decoding
import Trisect.Proofs.Json.Spelling

/-!
# Records are taken apart as they were put together

A decoder undoes what an encoder did, part by part. A word, an optional text and a list are made
from the documents that stand for them (`Trisect.Document.toWord?_natural`,
`Trisect.Document.toOptional?_textOrNull`, `Trisect.Document.toListOf?_map`). A record with
different keys gives each name the value of its field, and nothing to a name without a field
(`Trisect.Document.parts?_record`); if it is tagged, it gives its tag and its other fields
(`Trisect.Document.tagged?_record`).

The tag of a value that is not part of another tagged one is looked for before it is known what the
other parts are, and these have to be such that they can wait. What every node has a written form
for has a meaning (`Trisect.Document.Spellable.isMeaningful`), so it is the depth alone that counts
(`Trisect.Document.canWait_of_spellable`).
-/

namespace Trisect

namespace Document

/-! ### Single values and lists -/

theorem toWord?_natural {n : Nat} (h : n < 2 ^ 64) : (natural n).toWord? = some n := by
  exact if_pos h

theorem toOptional?_textOrNull (o : Option String) :
    (textOrNull o).toOptional? toText? = some o := by
  cases o <;> rfl

/-- A list of which every item can be treated can be treated as a whole. -/
theorem mapM_eq_some_map {α β : Type} {f : α → Option β} {g : α → β} {as : List α}
    (h : ∀ a ∈ as, f a = some (g a)) : as.mapM f = some (as.map g) := by
  induction as with
  | nil => rfl
  | cons a as ih =>
    obtain ⟨ha, has⟩ := List.forall_mem_cons.1 h
    rw [List.mapM_cons, ha, ih has]
    rfl

/-- What is encoded item by item is decoded item by item. -/
theorem mapM_map_eq_some {α β : Type} {encode : α → β} {decode : β → Option α} {as : List α}
    (h : ∀ a ∈ as, decode (encode a) = some a) : (as.map encode).mapM decode = some as := by
  have hid : as.mapM (decode ∘ encode) = some (as.map id) := mapM_eq_some_map h
  rwa [List.map_id, ← List.mapM_map] at hid

theorem toListOf?_map {α : Type} {encode : α → Document} {decode : Document → Option α}
    (h : ∀ a, decode (encode a) = some a) (as : List α) :
    (list (as.map encode)).toListOf? decode = some as :=
  mapM_map_eq_some fun a _ => h a

theorem toListOf?_texts (ss : List String) : (texts ss).toListOf? toText? = some ss :=
  toListOf?_map (fun s => (rfl : (text s).toText? = some s)) ss

/-! ### Named parts -/

section Records

variable {fields : List (String × Document)} {name tag : String} {names : List String}

theorem lookup_eq_none_of_notMem (h : name ∉ fields.map (·.1)) : fields.lookup name = none := by
  rw [List.lookup_eq_none_iff]
  rintro ⟨k, d⟩ hmem
  simpa using fun heq : name = k => h (heq ▸ List.mem_map_of_mem hmem)

/-- If no key occurs twice, a name has one value or none. -/
theorem valuesOf_eq_lookup (h : (fields.map (·.1)).Nodup) :
    valuesOf name fields = (fields.lookup name).toList := by
  induction fields with
  | nil => rfl
  | cons f fields ih =>
    obtain ⟨k, d⟩ := f
    obtain ⟨hk, hfields⟩ := List.nodup_cons.1 h
    have hrest := ih hfields
    rw [valuesOf] at hrest ⊢
    by_cases hname : k = name
    · subst hname
      rw [lookup_eq_none_of_notMem hk] at hrest
      simp only [List.filter_cons, decide_true, if_true, List.map_cons, hrest]
      simp
    · have hne : (name == k) = false := by simpa using fun heq : name = k => hname heq.symm
      simp [hname, List.lookup_cons, hne, hrest]

theorem field?_eq_lookup (h : (fields.map (·.1)).Nodup) (name : String) :
    field? fields name = some (fields.lookup name) := by
  rw [field?, valuesOf_eq_lookup h]
  cases fields.lookup name <;> rfl

/-- **The parts of a record**, if no key occurs twice: for each name the value of its field. -/
theorem parts?_record (h : (fields.map (·.1)).Nodup) (names : List String) :
    parts? names (record fields) = some (names.map (List.lookup · fields)) :=
  mapM_eq_some_map fun name _ => field?_eq_lookup h name

/-! ### Forms -/

/-- **A tagged record** gives the position of its tag, and the fields other than the tag. -/
theorem tagged?_record {nested : Bool} {i : Nat} (hwait : nested = false →
      (record ((tag, text name) :: fields)).canWait = true)
    (htag : tag ∉ fields.map (·.1)) (hname : position? names name = some i) :
    tagged? nested tag names (record ((tag, text name) :: fields)) = some (i, record fields) := by
  have hvalues : valuesOf tag fields = [] := by
    rw [valuesOf, List.filter_eq_nil_iff.2, List.map_nil]
    rintro ⟨k, d⟩ hmem
    simpa using fun heq : k = tag => htag (heq ▸ List.mem_map_of_mem hmem)
  have hfield : field? ((tag, text name) :: fields) tag = some (some (text name)) := by
    rw [valuesOf] at hvalues
    simp [field?, valuesOf, hvalues]
  have hothers : ((tag, text name) :: fields).filter (fun f => f.1 ≠ tag) = fields := by
    rw [List.filter_cons_of_neg (by simp), List.filter_eq_self]
    rintro ⟨k, d⟩ hmem
    simpa using fun heq : k = tag => htag (heq ▸ List.mem_map_of_mem hmem)
  have hready : (nested || (record ((tag, text name) :: fields)).canWait) = true := by
    cases nested with
    | false => rw [hwait rfl, Bool.false_or]
    | true => rfl
  rw [tagged?, if_pos hready]
  simp only [hfield, hothers, hname, Option.bind_eq_bind, Option.bind_some, pure]

end Records

/-! ### What can wait -/

theorem areMeaningful_iff {ds : List Document} :
    areMeaningful ds = true ↔ ∀ d ∈ ds, d.isMeaningful = true := by
  induction ds with
  | nil => simp [areMeaningful]
  | cons d ds ih => simp [areMeaningful, ih]

theorem haveMeaning_iff {fs : List (String × Document)} :
    haveMeaning fs = true ↔ ∀ f ∈ fs, f.2.isMeaningful = true := by
  induction fs with
  | nil => simp [haveMeaning]
  | cons f fs ih => simp [haveMeaning, ih]

theorem depthOfItems_le_iff {ds : List Document} {n : Nat} :
    depthOfItems ds ≤ n ↔ ∀ d ∈ ds, d.depth ≤ n := by
  induction ds with
  | nil => simp [depthOfItems]
  | cons d ds ih => rw [depthOfItems, Nat.max_le, ih, List.forall_mem_cons]

theorem depthOfFields_le_iff {fs : List (String × Document)} {n : Nat} :
    depthOfFields fs ≤ n ↔ ∀ f ∈ fs, f.2.depth ≤ n := by
  induction fs with
  | nil => simp [depthOfFields]
  | cons f fs ih => rw [depthOfFields, Nat.max_le, ih, List.forall_mem_cons]

theorem depth_list_le {ds : List Document} {n : Nat} (h : ∀ d ∈ ds, d.depth ≤ n) :
    (list ds).depth ≤ n + 1 :=
  Nat.succ_le_succ (depthOfItems_le_iff.2 h)

theorem depth_record_le {fs : List (String × Document)} {n : Nat} (h : ∀ f ∈ fs, f.2.depth ≤ n) :
    (record fs).depth ≤ n + 1 :=
  Nat.succ_le_succ (depthOfFields_le_iff.2 h)

variable {d : Document}

/-- **What has a written form has a meaning**, with all that is in it. -/
theorem Spellable.isMeaningful (h : d.Spellable) : d.isMeaningful = true := by
  induction h with
  | null | boolean b | number h | text s => rfl
  | list _ ih => exact areMeaningful_iff.2 ih
  | record _ ih => exact haveMeaning_iff.2 ih

theorem canWait_of_spellable (h : d.Spellable) (hdepth : d.depth ≤ 126) : d.canWait = true := by
  rw [canWait, h.isMeaningful, Bool.true_and, decide_eq_true_eq]
  exact hdepth

/-! ### What has a written form -/

theorem spellable_natural {n : Nat} (h : n < 2 ^ 64) : (natural n).Spellable :=
  .number (Json.isInRange_of_lt h)

theorem spellable_textOrNull (o : Option String) : (textOrNull o).Spellable := by
  cases o with
  | none => exact .null
  | some s => exact .text s

theorem spellable_texts (ss : List String) : (texts ss).Spellable := by
  refine .list fun d hd => ?_
  obtain ⟨s, -, rfl⟩ := List.mem_map.1 hd
  exact .text s

theorem depth_textOrNull (o : Option String) : (textOrNull o).depth = 0 := by
  cases o <;> rfl

theorem depth_texts_le (ss : List String) : (texts ss).depth ≤ 1 := by
  refine depth_list_le fun d hd => ?_
  obtain ⟨s, -, rfl⟩ := List.mem_map.1 hd
  exact Nat.le_refl 0

end Document

end Trisect
