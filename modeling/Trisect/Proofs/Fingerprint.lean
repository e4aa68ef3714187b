import Trisect.Proofs.Shape.NulFree

/-!
# The fingerprint tells the queries

The fingerprint of a report hashes the texts of its queries with a zero byte before each but the
first. In the encoding of a text there is a zero byte only where the text has the character U+0000
(`Trisect.zero_notMem_toUTF8`), so that without it the zero bytes are where one text ends and the
next begins: cutting the bytes there gives the encodings back, and these give the texts back
(`Trisect.BugReport.NulFree.texts_inj`). How many texts there are, and whether some of them are
empty, makes no difference. Digits tell the hash, so that the fingerprint hides no more than the
hash does.

The main statement is `Trisect.fingerprint_tells_queries`: **reports have the same fingerprint if
their queries are the same, and otherwise only if two strings of bytes collide under the hash**.
That the character is not in the texts can be relied on for random shapes over a schema whose names
are without it.
-/

namespace Trisect

/-! ### The bytes of a text -/

theorem toList_loop (bytes : ByteArray) (i : Nat) (r : List UInt8) :
    ByteArray.toList.loop bytes i r = r.reverse ++ bytes.data.toList.drop i := by
  induction i, r using ByteArray.toList.loop.induct bytes with
  | case1 i r h ih =>
    have hi : i < bytes.data.toList.length := h
    rw [ByteArray.toList.loop, if_pos h, ih, List.drop_eq_getElem_cons hi, List.reverse_cons]
    simp [ByteArray.get!, h]
  | case2 i r h =>
    have hi : bytes.data.toList.length ≤ i := Nat.not_lt.1 h
    rw [ByteArray.toList.loop, if_neg h, List.drop_eq_nil_of_le hi, List.append_nil]

theorem toList_eq_data (bytes : ByteArray) : bytes.toList = bytes.data.toList :=
  toList_loop bytes 0 []

/-- The bytes of a text are those of its characters. -/
theorem toList_toUTF8 (text : String) :
    text.toUTF8.toList = text.toList.flatMap String.utf8EncodeChar := by
  rw [toList_eq_data, String.toUTF8_eq_toByteArray, ← String.utf8Encode_toList, List.utf8Encode]
  simp

theorem toUTF8_injective : Function.Injective fun text : String => text.toUTF8.toList := by
  intro s t h
  dsimp only at h
  rw [toList_eq_data, toList_eq_data, Array.toList_inj] at h
  exact String.toByteArray_inj.1 (ByteArray.ext h)

/-- A byte in the encoding of a character is the character itself, or has its highest bit set. -/
theorem exists_of_mem_utf8EncodeChar {c : Char} {b : UInt8} (h : b ∈ String.utf8EncodeChar c) :
    ∃ n < 256, b = UInt8.ofNat n ∧ (n = c.val.toNat ∨ 128 ≤ n) := by
  rw [String.utf8EncodeChar] at h
  -- one case for each length of an encoding
  split at h
  · obtain rfl := List.mem_singleton.1 h
    exact ⟨_, by omega, rfl, .inl rfl⟩
  split at h
  · simp only [List.mem_cons, List.not_mem_nil, or_false] at h
    rcases h with rfl | rfl <;> exact ⟨_, by omega, rfl, .inr (by omega)⟩
  split at h
  · simp only [List.mem_cons, List.not_mem_nil, or_false] at h
    rcases h with rfl | rfl | rfl <;> exact ⟨_, by omega, rfl, .inr (by omega)⟩
  · simp only [List.mem_cons, List.not_mem_nil, or_false] at h
    rcases h with rfl | rfl | rfl | rfl <;> exact ⟨_, by omega, rfl, .inr (by omega)⟩

theorem eq_zero_of_mem_utf8EncodeChar {c : Char} (h : 0 ∈ String.utf8EncodeChar c) :
    c = '\x00' := by
  obtain ⟨n, hlt, hzero, hn⟩ := exists_of_mem_utf8EncodeChar h
  have hnat := congrArg UInt8.toNat hzero
  rw [UInt8.toNat_ofNat_of_lt' hlt] at hnat
  obtain rfl : 0 = n := hnat
  obtain hval | hlarge := hn
  · exact Char.ext (UInt32.toNat_inj.1 hval.symm)
  · cases hlarge

/-- **A zero byte stands for the character U+0000** and for nothing else. -/
theorem zero_notMem_toUTF8 {text : String} (h : NulFree text) : 0 ∉ text.toUTF8.toList := by
  rw [toList_toUTF8, List.mem_flatMap]
  rintro ⟨c, hc, hzero⟩
  exact h (eq_zero_of_mem_utf8EncodeChar hzero ▸ hc)

/-! ### The bytes of a report -/

/-- Items with a separator before each but the first. -/
theorem append_flatMap_cons {α β : Type} (separator : β) (f : α → List β) (first : α)
    (rest : List α) : (f first ++ rest.flatMap fun x => separator :: f x) =
      [separator].intercalate ((first :: rest).map f) := by
  induction rest generalizing first with
  | nil => simp
  | cons second rest ih =>
    rw [List.flatMap_cons, List.cons_append, ih]
    simp only [List.map_cons, List.intercalate_cons_cons, List.append_assoc, List.singleton_append]

namespace BugReport

/-- The texts of the queries, the query over the whole first. -/
def texts (r : BugReport) : List String := r.wholeQuery :: r.reconstructedQueries

/-- Two reports are about the same queries. -/
def SameQueries (a b : BugReport) : Prop :=
  a.wholeQuery = b.wholeQuery ∧ a.reconstructedQueries = b.reconstructedQueries

instance (a b : BugReport) : Decidable (a.SameQueries b) := inferInstanceAs (Decidable (_ ∧ _))

variable {a b : BugReport}

theorem texts_inj : a.texts = b.texts ↔ a.SameQueries b := List.cons_eq_cons

theorem fingerprintInput_eq (r : BugReport) :
    r.fingerprintInput = [0].intercalate (r.texts.map fun text => text.toUTF8.toList) :=
  append_flatMap_cons 0 (fun text : String => text.toUTF8.toList) _ _

/-- Cutting the bytes at the zeros gives back the encodings of the texts. -/
theorem NulFree.splitOn_fingerprintInput (h : a.NulFree) :
    a.fingerprintInput.splitOn 0 = a.texts.map fun text => text.toUTF8.toList := by
  rw [fingerprintInput_eq]
  refine List.splitOn_intercalate 0 ?_ (by simp [texts])
  rw [List.forall_mem_map]
  exact List.forall_mem_cons.2
    ⟨zero_notMem_toUTF8 h.whole, fun q hq => zero_notMem_toUTF8 (h.reconstructed q hq)⟩

/-- **The bytes that are hashed tell the queries.** -/
theorem NulFree.fingerprintInput_eq_iff (ha : a.NulFree) (hb : b.NulFree) :
    a.fingerprintInput = b.fingerprintInput ↔ a.SameQueries b := by
  constructor
  · intro h
    have hbytes := congrArg (List.splitOn 0) h
    rw [ha.splitOn_fingerprintInput, hb.splitOn_fingerprintInput] at hbytes
    exact texts_inj.1 (toUTF8_injective.list_map hbytes)
  · rintro ⟨hwhole, hparts⟩
    rw [fingerprintInput, fingerprintInput, hwhole, hparts]

/-! ### The hash -/

/-- Digits hide nothing of the hash. -/
theorem fingerprint_eq_iff :
    a.fingerprint = b.fingerprint ↔
      Sha256.digest a.fingerprintInput = Sha256.digest b.fingerprintInput := by
  rw [fingerprint, fingerprint, String.ofList_inj, Hex.lower_injective.eq_iff]

end BugReport

/-- **A collision**: different strings of bytes with the same hash. -/
def Sha256.IsCollision (first second : List UInt8) : Prop :=
  first ≠ second ∧ digest first = digest second

/-- **The fingerprint tells the queries.** If the character U+0000 is in no query of two reports,
then the same bytes are hashed for them if and only if the queries are the same, one by one. Reports
of the same queries have the same fingerprint and are kept in files of the same name; reports of
different queries have the same fingerprint only if their bytes collide. How the results disagree
makes no difference to the bytes.

In a round over random shapes, whoever else answers and whatever the state of the source, the
character is in no statement that is sent and in no report, if no name of the schema has it. -/
theorem fingerprint_tells_queries :
    (∀ a b : BugReport, a.NulFree → b.NulFree →
      (a.fingerprintInput = b.fingerprintInput ↔
        a.wholeQuery = b.wholeQuery ∧ a.reconstructedQueries = b.reconstructedQueries) ∧
      (a.SameQueries b → a.fingerprint = b.fingerprint ∧ ∀ databaseName : String,
        SessionLog.reportName databaseName a = SessionLog.reportName databaseName b) ∧
      (a.fingerprint = b.fingerprint →
        a.SameQueries b ∨ Sha256.IsCollision a.fingerprintInput b.fingerprintInput)) ∧
    (∀ (whole : String) (reconstructed : List String) (m m' : Mismatch),
      (BugReport.mk whole reconstructed m).fingerprintInput =
        (BugReport.mk whole reconstructed m').fingerprintInput) ∧
    ∀ {γ κ : Type} (c : Connection γ) (journal : Journal κ) (o : Oracle) (s : Session)
      (w : World γ RandomShapes κ), (∀ table ∈ w.source.tables, table.NulFree) →
        (∀ sql ∈ statementsOf ((o.runRound.run s).transcript
          (World.handler c RandomShapes.source journal) w), NulFree sql) ∧
        ∀ report s' w', (o.runRound.run s).run (World.handler c RandomShapes.source journal) w =
          (some (.bug report, s'), w') → report.NulFree := by
  refine ⟨fun a b ha hb => ?_, fun _ _ _ _ => rfl, fun c journal o s w hw => ?_⟩
  · have hinput := ha.fingerprintInput_eq_iff hb
    refine ⟨hinput, fun hsame => ?_, fun h => ?_⟩
    · have hbytes := hinput.2 hsame
      refine ⟨BugReport.fingerprint_eq_iff.2 (congrArg _ hbytes), fun databaseName => ?_⟩
      rw [SessionLog.reportName, SessionLog.reportName, BugReport.shortFingerprint,
        BugReport.shortFingerprint, BugReport.fingerprint, BugReport.fingerprint, hbytes]
    · by_cases hsame : a.SameQueries b
      · exact .inl hsame
      · exact .inr ⟨fun hbytes => hsame (hinput.1 hbytes), BugReport.fingerprint_eq_iff.1 h⟩
  · refine ⟨Oracle.nulFree_of_sent o s hw, fun report s' w' hrun => ?_⟩
    exact Oracle.nulFree_of_bug (Dialogue.path_of_run hrun) (Handler.answers_of_run hrun) hw

/-- A round on rows over random shapes of a single table, drawn from a stream of zeros, with an
engine that gives some lists of rows one after the other. -/
def roundOnZeros (answers : List (List Cell)) :
    Option (RoundOutcome × Session) × World (List EngineAnswer) RandomShapes MemoryLog :=
  let source : RandomShapes :=
    ⟨⟨[], 0, List.replicate 64 0⟩, 1, [⟨"t0", [⟨"c0", "INTEGER"⟩]⟩], []⟩
  (Oracle.runRound ⟨.whereClause, ∅, .sqlite⟩ (.new false "db0" 0)).run
    (World.handler Connection.scripted RandomShapes.source MemoryLog.journal)
    ⟨answers.map fun cells => .ok (.rows cells), source, {}⟩

/-- The queries of one round, hit twice: the parts give another row than the whole the first time,
and none the second time. Joined into one they would not be the same queries. -/
theorem fingerprint_tells_queries_of_two_hits :
    ∃ a b : BugReport,
      (∃ s w, roundOnZeros [[some "1"], [some "2"], [], []] = (some (.bug a, s), w)) ∧
      (∃ s w, roundOnZeros [[some "1"], [], [], []] = (some (.bug b, s), w)) ∧
      a.mismatch ≠ b.mismatch ∧
      SessionLog.reportName "db0" a = SessionLog.reportName "db0" b ∧
      a.fingerprintInput ≠
        (BugReport.mk a.wholeQuery [a.combinedText] a.mismatch).fingerprintInput := by
  obtain ⟨a, b, ⟨s₁, w₁, hfirst⟩, ⟨s₂, w₂, hsecond⟩, hsame, hne, hthree⟩ : ∃ a b : BugReport,
      (∃ s w, roundOnZeros [[some "1"], [some "2"], [], []] = (some (.bug a, s), w)) ∧
      (∃ s w, roundOnZeros [[some "1"], [], [], []] = (some (.bug b, s), w)) ∧
      a.SameQueries b ∧ a.mismatch ≠ b.mismatch ∧ a.reconstructedQueries.length = 3 :=
    ⟨_, _, ⟨_, _, rfl⟩, ⟨_, _, rfl⟩, by decide +kernel, by decide +kernel, by decide +kernel⟩
  have hnames : ∀ table ∈ [(⟨"t0", [⟨"c0", "INTEGER"⟩]⟩ : Table)], table.NulFree := by
    intro table htable
    obtain rfl := List.mem_singleton.1 htable
    exact ⟨by decide, by decide⟩
  obtain ⟨hpairs, -, hrounds⟩ := fingerprint_tells_queries
  have ha : a.NulFree := (hrounds _ _ _ _ _ hnames).2 a s₁ w₁ hfirst
  have hb : b.NulFree := (hrounds _ _ _ _ _ hnames).2 b s₂ w₂ hsecond
  have hjoined : (BugReport.mk a.wholeQuery [a.combinedText] a.mismatch).NulFree :=
    ⟨ha.whole, List.forall_mem_singleton.2 (nulFree_intercalate (by decide) ha.reconstructed)⟩
  refine ⟨a, b, ⟨s₁, w₁, hfirst⟩, ⟨s₂, w₂, hsecond⟩, hne, ?_, fun hbytes => ?_⟩
  · exact ((hpairs a b ha hb).2.1 hsame).2 "db0"
  · have hparts := ((hpairs a _ ha hjoined).1.1 hbytes).2
    rw [hparts] at hthree
    cases hthree

end Trisect
