import Trisect.Document.Configuration
import Trisect.Proofs.Json.Parts

/-!
# A document says only what is different

Options and dialects are read from records that need not give every field. A record gives **some**
of the fields of a value (`Trisect.Document.GivesSome`) if those of its fields that have a known
name are, in whatever order, a selection of them; all others may be there as well, as often as they
like. What such a record is taken apart into depends on the selection alone
(`Trisect.Document.overlay?_record`), each field that is given being decoded and each other one
having its default (`Trisect.Document.orDefault_given`).

So what is read is the default with the given fields in the place of its own,
`Trisect.SessionOptions.overlay` and `Trisect.Dialect.overlay`, and if all fields are given it is
the value itself. The main statement is `Trisect.Document.partial_documents_overlay`.
-/

namespace Trisect

namespace Document

/-- The fields of a record. -/
def fields : Document → List (String × Document)
  | record fs => fs
  | _ => []

/-- **A record with a selection of known fields**: they may come in any order, and there may be any
fields with other names. -/
def GivesSome (known : List (String × Document)) (given : String → Bool)
    (fs : List (String × Document)) : Prop :=
  (fs.filter fun f => f.1 ∈ known.map (·.1)).Perm (known.filter fun f => given f.1)

section GivesSome

variable {known fs : List (String × Document)} {given : String → Bool} {f : String × Document}

/-- A known field is the only one with its name. -/
theorem filter_known (hknown : (known.map (·.1)).Nodup) (hf : f ∈ known) :
    (known.filter fun e => e.1 = f.1) = [f] := by
  induction known with
  | nil => cases hf
  | cons e known ih =>
    obtain ⟨he, hrest⟩ := List.nodup_cons.1 hknown
    rcases List.mem_cons.1 hf with rfl | hmem
    · have hnone : (known.filter fun e => e.1 = f.1) = [] := by
        refine List.filter_eq_nil_iff.2 fun e hmem heq => he ?_
        exact List.mem_map.2 ⟨e, hmem, of_decide_eq_true heq⟩
      rw [List.filter_cons_of_pos (by simp), hnone]
    · have hne : e.1 ≠ f.1 := fun heq => he (List.mem_map.2 ⟨f, hmem, heq.symm⟩)
      rw [List.filter_cons_of_neg (by simpa using hne), ih hrest hmem]

/-- The fields with a known name are the known one, if it is given. -/
theorem filter_of_givesSome (h : GivesSome known given fs) (hknown : (known.map (·.1)).Nodup)
    (hf : f ∈ known) : (fs.filter fun e => e.1 = f.1) = if given f.1 then [f] else [] := by
  have hfs : (fs.filter fun e => e.1 = f.1) =
      (fs.filter fun e => e.1 ∈ known.map (·.1)).filter fun e => e.1 = f.1 := by
    rw [List.filter_filter]
    refine List.filter_congr fun e _ => ?_
    by_cases he : e.1 = f.1
    · simp [he, List.mem_map_of_mem hf]
    · simp [he]
  have hperm := h.filter fun e => e.1 = f.1
  rw [← hfs, List.filter_comm, filter_known hknown hf] at hperm
  -- at most one field is selected, so that there is only one order
  cases hgiven : given f.1 with
  | true =>
    have hkept : [f].filter (fun e => given e.1) = [f] := by simp [hgiven]
    exact List.perm_singleton.1 (hkept ▸ hperm)
  | false =>
    have hkept : [f].filter (fun e => given e.1) = [] := by simp [hgiven]
    exact List.perm_nil.1 (hkept ▸ hperm)

/-- **What a record is taken apart into**, if it gives some of the known fields. -/
theorem overlay?_record (h : GivesSome known given fs) (hknown : (known.map (·.1)).Nodup)
    (format : Format) :
    overlay? format (known.map (·.1)) (record fs) =
      some (known.map fun f => if given f.1 then some f.2 else none) := by
  rw [overlay?, List.mapM_map]
  refine mapM_eq_some_map fun f hf => ?_
  rw [Function.comp_apply, field?, valuesOf, filter_of_givesSome h hknown hf]
  cases given f.1 <;> rfl

/-- A record may give all of the known fields, in their order. -/
theorem givesSome_self (known : List (String × Document)) :
    GivesSome known (fun _ => true) known := by
  have hall : known.filter (fun f => f.1 ∈ known.map (·.1)) = known :=
    List.filter_eq_self.2 fun f hf => decide_eq_true (List.mem_map_of_mem hf)
  rw [GivesSome, hall, List.filter_true]

end GivesSome

theorem toText?_text (s : String) : (text s).toText? = some s := rfl

theorem toBoolean?_boolean (b : Bool) : (boolean b).toBoolean? = some b := rfl

/-- A part that is given is decoded, and for another there is the default. -/
theorem orDefault_given {α : Type} {default a : α} {decode : Document → Option α} {d : Document}
    (h : decode d = some a) (b : Bool) :
    orDefault default decode (if b then some d else none) = some (if b then a else default) := by
  cases b with
  | false => rfl
  | true => exact h

end Document

namespace Dialect

/-- **The dialect of SQLite with some fields of another one.** -/
def overlay (d : Dialect) (given : String → Bool) : Dialect where
  name := if given "name" then d.name else sqlite.name
  bareUnion := if given "bare_union" then d.bareUnion else sqlite.bareUnion
  unionAllInOrderByContext :=
    if given "union_all_in_order_by_context" then d.unionAllInOrderByContext
    else sqlite.unionAllInOrderByContext
  canonicalizeNegativeZero :=
    if given "canonicalize_negative_zero" then d.canonicalizeNegativeZero
    else sqlite.canonicalizeNegativeZero
  expectedErrors := if given "expected_errors" then d.expectedErrors else sqlite.expectedErrors
  expectedErrorPatterns :=
    if given "expected_error_patterns" then d.expectedErrorPatterns
    else sqlite.expectedErrorPatterns

variable {d : Dialect} {given : String → Bool} {fs : List (String × Document)}

theorem ofDocument?_of_givesSome (h : Document.GivesSome d.toDocument.fields given fs)
    (format : Document.Format) : ofDocument? format (.record fs) = some (d.overlay given) := by
  have hnames : (d.toDocument.fields.map (·.1)).Nodup := (by decide : fieldNames.Nodup)
  have hparts : Document.overlay? format fieldNames (.record fs) = some [
      if given "name" then some (.text d.name) else none,
      if given "bare_union" then some (.boolean d.bareUnion) else none,
      if given "union_all_in_order_by_context" then some (.boolean d.unionAllInOrderByContext)
      else none,
      if given "canonicalize_negative_zero" then some (.boolean d.canonicalizeNegativeZero)
      else none,
      if given "expected_errors" then some (.texts d.expectedErrors) else none,
      if given "expected_error_patterns" then some (.texts d.expectedErrorPatterns) else none] :=
    Document.overlay?_record h hnames format
  rw [ofDocument?, hparts]
  dsimp only [Option.bind_eq_bind, Option.bind_some]
  rw [Document.orDefault_given (Document.toText?_text _),
    Document.orDefault_given (Document.toBoolean?_boolean _),
    Document.orDefault_given (Document.toBoolean?_boolean _),
    Document.orDefault_given (Document.toBoolean?_boolean _),
    Document.orDefault_given (Document.toListOf?_texts _),
    Document.orDefault_given (Document.toListOf?_texts _)]
  rfl

/-- With all fields given it is the dialect itself. -/
theorem overlay_all (d : Dialect) : d.overlay (fun _ => true) = d := rfl

theorem spellable_toDocument (d : Dialect) : d.toDocument.Spellable := by
  refine .record ?_
  simp [Document.Spellable.text, Document.Spellable.boolean, Document.spellable_texts]

end Dialect

namespace SessionOptions

/-- **The default options with some fields of other ones.** -/
def overlay (o : SessionOptions) (given : String → Bool) : SessionOptions :=
  let default : SessionOptions := {}
  { databaseName := if given "database_name" then o.databaseName else default.databaseName
    seed := if given "seed" then o.seed else default.seed
    rounds := if given "rounds" then o.rounds else default.rounds
    sessions := if given "sessions" then o.sessions else default.sessions
    tables := if given "tables" then o.tables else default.tables
    logEachSelect := if given "log_each_select" then o.logEachSelect else default.logEachSelect
    oracles := if given "oracles" then o.oracles else default.oracles
    maxExpressionDepth :=
      if given "max_expression_depth" then o.maxExpressionDepth else default.maxExpressionDepth
    logDirectory := if given "log_dir" then o.logDirectory else default.logDirectory }

variable {o : SessionOptions} {given : String → Bool} {fs : List (String × Document)}

theorem word?_given (default n : UInt64) (b : Bool) :
    word? default (if b then some (.natural n.toNat) else none) =
      some (if b then n else default) := by
  refine Document.orDefault_given ?_ b
  rw [Document.toWord?_natural n.toNat_lt, Option.map_some, UInt64.ofNat_toNat]

theorem ofDocument?_tag (format : Document.Format) (k : OracleKind) :
    OracleKind.ofDocument? format (.text k.tag) = some k := by
  cases k <;> rfl

theorem toListOf?_tags (format : Document.Format) (ks : List OracleKind) :
    (Document.texts (ks.map OracleKind.tag)).toListOf? (OracleKind.ofDocument? format) =
      some ks := by
  rw [Document.texts, List.map_map]
  exact Document.toListOf?_map (ofDocument?_tag format) ks

theorem ofDocument?_of_givesSome (h : Document.GivesSome o.toDocument.fields given fs)
    (format : Document.Format) : ofDocument? format (.record fs) = some (o.overlay given) := by
  have hnames : (o.toDocument.fields.map (·.1)).Nodup := (by decide : fieldNames.Nodup)
  have hparts : Document.overlay? format fieldNames (.record fs) = some [
      if given "database_name" then some (.text o.databaseName) else none,
      if given "seed" then some (.natural o.seed.toNat) else none,
      if given "rounds" then some (.natural o.rounds.toNat) else none,
      if given "sessions" then some (.natural o.sessions.toNat) else none,
      if given "tables" then some (.natural o.tables.toNat) else none,
      if given "log_each_select" then some (.boolean o.logEachSelect) else none,
      if given "oracles" then some (.texts (o.oracles.map OracleKind.tag)) else none,
      if given "max_expression_depth" then some (.natural o.maxExpressionDepth.toNat) else none,
      if given "log_dir" then some (.textOrNull o.logDirectory) else none] :=
    Document.overlay?_record h hnames format
  rw [ofDocument?, hparts]
  dsimp only [Option.bind_eq_bind, Option.bind_some]
  rw [Document.orDefault_given (Document.toText?_text _), word?_given, word?_given, word?_given,
    word?_given, Document.orDefault_given (Document.toBoolean?_boolean _),
    Document.orDefault_given (toListOf?_tags format _), word?_given,
    Document.orDefault_given (Document.toOptional?_textOrNull _)]
  rfl

/-- With all fields given they are the options themselves. -/
theorem overlay_all (o : SessionOptions) : o.overlay (fun _ => true) = o := rfl

theorem spellable_toDocument (o : SessionOptions) : o.toDocument.Spellable := by
  refine .record ?_
  simp [Document.Spellable.text, Document.Spellable.boolean, Document.spellable_texts,
    Document.spellable_natural (UInt64.toNat_lt _), Document.spellable_textOrNull]

end SessionOptions

namespace Document

/-- **Partial documents overlay the defaults.** A record with some of the fields of options, in any
order and among any fields with other names, is read as the default options with just these fields
in the place of its own, and so is every text that spells the record; the same holds of dialects. If
all fields are given, reading undoes writing. -/
theorem partial_documents_overlay :
    (∀ (o : SessionOptions) (given : String → Bool) (fs : List (String × Document)),
      GivesSome o.toDocument.fields given fs →
        SessionOptions.ofDocument? .json (record fs) = some (o.overlay given) ∧
          ∀ text : String, Json.Spells (.value (record fs)) text.toList →
            (ofJson? text).bind (SessionOptions.ofDocument? .json) = some (o.overlay given)) ∧
      (∀ (d : Dialect) (given : String → Bool) (fs : List (String × Document)),
        GivesSome d.toDocument.fields given fs →
          Dialect.ofDocument? .json (record fs) = some (d.overlay given) ∧
            ∀ text : String, Json.Spells (.value (record fs)) text.toList →
              (ofJson? text).bind (Dialect.ofDocument? .json) = some (d.overlay given)) ∧
      (∀ o : SessionOptions, ∀ written ∈ [o.toDocument.compact, o.toDocument.pretty],
        (ofJson? written).bind (SessionOptions.ofDocument? .json) = some o) ∧
      ∀ d : Dialect, ∀ written ∈ [d.toDocument.compact, d.toDocument.pretty],
        (ofJson? written).bind (Dialect.ofDocument? .json) = some d := by
  have hoptions : ∀ (o : SessionOptions) (given : String → Bool) (fs : List (String × Document)),
      GivesSome o.toDocument.fields given fs →
        ∀ text : String, Json.Spells (.value (record fs)) text.toList →
          (ofJson? text).bind (SessionOptions.ofDocument? .json) = some (o.overlay given) := by
    intro o given fs h text htext
    rw [ofJson?_of_spells htext, Option.bind_some, SessionOptions.ofDocument?_of_givesSome h]
  have hdialect : ∀ (d : Dialect) (given : String → Bool) (fs : List (String × Document)),
      GivesSome d.toDocument.fields given fs →
        ∀ text : String, Json.Spells (.value (record fs)) text.toList →
          (ofJson? text).bind (Dialect.ofDocument? .json) = some (d.overlay given) := by
    intro d given fs h text htext
    rw [ofJson?_of_spells htext, Option.bind_some, Dialect.ofDocument?_of_givesSome h]
  refine ⟨fun o given fs h =>
      ⟨SessionOptions.ofDocument?_of_givesSome h .json, hoptions o given fs h⟩,
    fun d given fs h => ⟨Dialect.ofDocument?_of_givesSome h .json, hdialect d given fs h⟩,
    fun o written hwritten => ?_, fun d written hwritten => ?_⟩
  · have hspells := spells_of_mem o.spellable_toDocument hwritten
    have hread := hoptions o _ _ (givesSome_self o.toDocument.fields) written hspells
    rwa [o.overlay_all] at hread
  · have hspells := spells_of_mem d.spellable_toDocument hwritten
    have hread := hdialect d _ _ (givesSome_self d.toDocument.fields) written hspells
    rwa [d.overlay_all] at hread

/-- Options of which two fields are given, in another order than they have and among fields that are
not known, one of them twice. -/
theorem partial_documents_overlay_of_two_fields :
    let o : SessionOptions := { seed := 7, oracles := [.whereClause, .whereClause], rounds := 3 }
    let fs : List (String × Document) := [("extra", .list [.boolean true]),
      ("oracles", .list [.text "where", .text "where"]), ("extra", .null), ("seed", .number 7)]
    GivesSome o.toDocument.fields (· ∈ ["seed", "oracles"]) fs ∧
      (ofJson? (record fs).pretty).bind (SessionOptions.ofDocument? .json) =
        some { seed := 7, oracles := [.whereClause, .whereClause] } := by
  intro o fs
  have h : GivesSome o.toDocument.fields (· ∈ ["seed", "oracles"]) fs := List.Perm.swap _ _ []
  have hspellable : (record fs).Spellable := by
    refine .record ?_
    have hseed : (number 7).Spellable := spellable_natural (n := 7) (by decide)
    have hkinds : (list [text "where", text "where"]).Spellable :=
      spellable_texts ["where", "where"]
    simp [fs, hseed, hkinds, Spellable.null, Spellable.list, Spellable.boolean]
  have hspells : Json.Spells (.value (record fs)) (record fs).pretty.toList :=
    spells_of_mem hspellable (by simp)
  exact ⟨h, (partial_documents_overlay.1 o _ fs h).2 _ hspells⟩

end Document

end Trisect
