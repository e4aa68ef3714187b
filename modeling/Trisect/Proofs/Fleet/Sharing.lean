import Trisect.Proofs.Fleet.Naming

/-!
# Writing beside others

Several logs are kept in one directory, each in files of its own. To somebody who writes only some
of the files it makes no difference what is in the others. `Trisect.FileSystem.AgreeOff` says that
two file systems have the same directories, and the same files but for those at certain places. A
write keeps that, if it is done in both, and a write in one of them keeps it, if it is to one of the
places in question.

What a log does to its files is decided before it looks at them: it is a list of writes at the
places of the log (`Trisect.WritesOnly`). Of each operation of a log this is proved along its
definition, down to the bytes that are held back and written later.
-/

namespace Trisect

namespace FileSystem

variable {S T : Place → Prop} {a b c : FileSystem} {p : Place}

/-- **The same directories, and the same files** but for those at the places of a kind. -/
structure AgreeOff (S : Place → Prop) (a b : FileSystem) : Prop where
  directories : ∀ p, a.isDirectory p = b.isDirectory p
  nodes : ∀ p, ¬ S p → a.node? p = b.node? p

namespace AgreeOff

theorem refl (a : FileSystem) : AgreeOff S a a := ⟨fun _ => rfl, fun _ _ => rfl⟩

theorem symm (h : AgreeOff S a b) : AgreeOff S b a :=
  ⟨fun p => (h.directories p).symm, fun p hp => (h.nodes p hp).symm⟩

theorem trans (h : AgreeOff S a b) (h' : AgreeOff S b c) : AgreeOff S a c :=
  ⟨fun p => (h.directories p).trans (h'.directories p),
    fun p hp => (h.nodes p hp).trans (h'.nodes p hp)⟩

theorem mono (h : AgreeOff S a b) (hST : ∀ p, S p → T p) : AgreeOff T a b :=
  ⟨h.directories, fun p hp => h.nodes p fun hS => hp (hST p hS)⟩

theorem leadsToDirectory (h : AgreeOff S a b) {names : List String}
    (hleads : a.leadsToDirectory names = true) : b.leadsToDirectory names = true :=
  leadsToDirectory_of_directories (fun p hp => (h.directories p).symm.trans hp) hleads

end AgreeOff

theorem ne_nil_of_isDirectory_eq_false (h : a.isDirectory p = false) : p ≠ [] := by
  rintro rfl
  cases h

theorem isDirectory_put_file (a : FileSystem) (h : a.isDirectory p = false) (content : ByteArray)
    (q : Place) : (a.put p (.file content)).isDirectory q = a.isDirectory q := by
  by_cases hq : q = p
  · rw [hq, h, isDirectory, node?_put_self a (ne_nil_of_isDirectory_eq_false h)]
  · rw [isDirectory, isDirectory, node?_put_of_ne a hq]

/-- Writing a file changes nothing elsewhere. -/
theorem agreeOff_put (h : a.isDirectory p = false) (content : ByteArray) (hp : S p) :
    AgreeOff S a (a.put p (.file content)) := by
  refine ⟨fun q => (isDirectory_put_file a h content q).symm, fun q hq => ?_⟩
  have hne : q ≠ p := by
    rintro rfl
    exact hq hp
  exact (node?_put_of_ne a hne _).symm

/-- Writing the same file in two file systems keeps what they have in common. -/
theorem AgreeOff.put (hab : AgreeOff S a b) (h : a.isDirectory p = false) (content : ByteArray) :
    AgreeOff S (a.put p (.file content)) (b.put p (.file content)) := by
  have hb : b.isDirectory p = false := (hab.directories p).symm.trans h
  have hne := ne_nil_of_isDirectory_eq_false h
  refine ⟨fun q => ?_, fun q hq => ?_⟩
  · rw [isDirectory_put_file a h, isDirectory_put_file b hb, hab.directories]
  · by_cases hqp : q = p
    · rw [hqp, node?_put_self a hne, node?_put_self b hne]
    · rw [node?_put_of_ne a hqp, node?_put_of_ne b hqp, hab.nodes q hq]

/-! ### Lists of writes -/

/-- A write to the file at a place. -/
structure Write where
  place : Place
  offset : Nat
  bytes : ByteArray

/-- Does writes one after the other. -/
def writeAll (writes : List Write) (a : FileSystem) : FileSystem :=
  writes.foldl (fun a w => a.writeAt w.place w.offset w.bytes) a

theorem writeAll_append (first second : List Write) (a : FileSystem) :
    a.writeAll (first ++ second) = (a.writeAll first).writeAll second := List.foldl_append

/-- Writes leave alone what is not at their places. -/
theorem agreeOff_writeAll {writes : List Write} (h : ∀ w ∈ writes, a.isDirectory w.place = false)
    (hS : ∀ w ∈ writes, S w.place) : AgreeOff S a (a.writeAll writes) := by
  induction writes generalizing a with
  | nil => exact .refl a
  | cons w rest ih =>
    have hw := h w List.mem_cons_self
    have hfirst : AgreeOff S a (a.writeAt w.place w.offset w.bytes) :=
      agreeOff_put hw _ (hS w List.mem_cons_self)
    refine hfirst.trans (ih (fun v hv => ?_) fun v hv => hS v (List.mem_cons_of_mem _ hv))
    exact (hfirst.directories v.place).symm.trans (h v (List.mem_cons_of_mem _ hv))

/-- **The same writes** keep what two file systems have in common, if it includes what is written
over. -/
theorem AgreeOff.writeAll (hab : AgreeOff S a b) {writes : List Write}
    (h : ∀ w ∈ writes, a.isDirectory w.place = false) (hS : ∀ w ∈ writes, ¬ S w.place) :
    AgreeOff S (a.writeAll writes) (b.writeAll writes) := by
  induction writes generalizing a b with
  | nil => exact hab
  | cons w rest ih =>
    have hw := h w List.mem_cons_self
    have hcontent := content?_congr (hab.nodes w.place (hS w List.mem_cons_self))
    have hfirst : AgreeOff S (a.writeAt w.place w.offset w.bytes)
        (b.writeAt w.place w.offset w.bytes) := by
      rw [writeAt, writeAt, hcontent]
      exact hab.put hw _
    refine ih hfirst (fun v hv => ?_) fun v hv => hS v (List.mem_cons_of_mem _ hv)
    exact (isDirectory_put_file a hw _ v.place).trans (h v (List.mem_cons_of_mem _ hv))

end FileSystem

/-! ### What a log writes -/

/-- **What is done to the files does not depend on them**: there is a list of writes, all at places
of a kind, and a result that satisfies a predicate, whatever the files are. -/
def WritesOnly {α : Type} (S : Place → Prop) (Q : α → Prop) (f : FileSystem → α × FileSystem) :
    Prop :=
  ∃ a writes, Q a ∧ (∀ w ∈ writes, S w.place) ∧ ∀ fs, f fs = (a, fs.writeAll writes)

section WritesOnly

variable {α β : Type} {S : Place → Prop} {Q : α → Prop} {R : β → Prop}

theorem writesOnly_pure {a : α} (h : Q a) : WritesOnly S Q fun fs => (a, fs) :=
  ⟨a, [], h, by simp, fun _ => rfl⟩

theorem writesOnly_bind {f : FileSystem → α × FileSystem} {g : α → FileSystem → β × FileSystem}
    (hf : WritesOnly S Q f) (hg : ∀ a, Q a → WritesOnly S R (g a)) :
    WritesOnly S R fun fs => g (f fs).1 (f fs).2 := by
  obtain ⟨a, writes, ha, hwrites, hf⟩ := hf
  obtain ⟨b, writes', hb, hwrites', hg⟩ := hg a ha
  refine ⟨b, writes ++ writes', hb, fun w hw => ?_, fun fs => ?_⟩
  · exact (List.mem_append.1 hw).elim (hwrites w) (hwrites' w)
  · show g (f fs).1 (f fs).2 = _
    rw [hf, hg, FileSystem.writeAll_append]

theorem WritesOnly.mono {f : FileSystem → α × FileSystem} (h : WritesOnly S Q f) {S' : Place → Prop}
    {Q' : α → Prop} (hS : ∀ p, S p → S' p) (hQ : ∀ a, Q a → Q' a) : WritesOnly S' Q' f := by
  obtain ⟨a, writes, ha, hwrites, hf⟩ := h
  exact ⟨a, writes, hQ a ha, fun w hw => hS _ (hwrites w hw), hf⟩

theorem writesOnly_handle (h : Handle) (bytes : ByteArray) :
    WritesOnly (· = h.place) (fun h' => h'.place = h.place) (h.write bytes) :=
  ⟨{ h with offset := h.offset + bytes.size }, [⟨h.place, h.offset, bytes⟩], rfl, by simp,
    fun _ => rfl⟩

namespace BufferedFile

/-- The place of a file that is being written. -/
def place (f : BufferedFile) : Place := f.handle.place

theorem writesOnly_flush (f : BufferedFile) :
    WritesOnly (· = f.place) (fun f' => f'.place = f.place) f.flush := by
  by_cases hheld : f.held.isEmpty = true
  · refine ⟨f, [], rfl, by simp, fun fs => ?_⟩
    rw [flush, if_pos hheld]
    rfl
  · refine ⟨⟨{ f.handle with offset := f.handle.offset + f.held.size }, ByteArray.empty⟩,
      [⟨f.place, f.handle.offset, f.held⟩], rfl, by simp, fun fs => ?_⟩
    rw [flush, if_neg hheld]
    rfl

/-- Making room for bytes. -/
def makeRoom (f : BufferedFile) (bytes : ByteArray) (fs : FileSystem) : BufferedFile × FileSystem :=
  if capacity < f.held.size + bytes.size then f.flush fs else (f, fs)

/-- Taking bytes when there is room for them. -/
def take (f : BufferedFile) (bytes : ByteArray) (fs : FileSystem) : BufferedFile × FileSystem :=
  if capacity ≤ bytes.size then
    let (handle, fs) := f.handle.write bytes fs
    ({ f with handle }, fs)
  else ({ f with held := f.held ++ bytes }, fs)

theorem write_eq (f : BufferedFile) (bytes : ByteArray) (fs : FileSystem) :
    f.write bytes fs = (f.makeRoom bytes fs).1.take bytes (f.makeRoom bytes fs).2 := rfl

theorem writesOnly_write (f : BufferedFile) (bytes : ByteArray) :
    WritesOnly (· = f.place) (fun f' => f'.place = f.place) (f.write bytes) := by
  have hroom : WritesOnly (· = f.place) (fun f' => f'.place = f.place) (f.makeRoom bytes) := by
    by_cases hcapacity : capacity < f.held.size + bytes.size
    · obtain ⟨f', writes, hf', hwrites, h⟩ := f.writesOnly_flush
      exact ⟨f', writes, hf', hwrites, fun fs => by rw [makeRoom, if_pos hcapacity, h]⟩
    · exact ⟨f, [], rfl, by simp, fun fs => by rw [makeRoom, if_neg hcapacity]; rfl⟩
  rw [funext (f.write_eq bytes)]
  refine writesOnly_bind (g := fun f' => f'.take bytes) hroom fun f' hf' => ?_
  by_cases hlarge : capacity ≤ bytes.size
  · refine ⟨{ f' with handle := { f'.handle with offset := f'.handle.offset + bytes.size } },
      [⟨f'.place, f'.handle.offset, bytes⟩], hf', by simpa using hf', fun fs => ?_⟩
    rw [take, if_pos hlarge]
    rfl
  · refine ⟨{ f' with held := f'.held ++ bytes }, [], hf', by simp, fun fs => ?_⟩
    rw [take, if_neg hlarge]
    rfl

end BufferedFile

namespace SessionLog

/-- The places of a log. -/
def At (log : SessionLog) (p : Place) : Prop := p = log.statements.place ∨ p = log.diagnostics.place

/-- A log that is at the same places as another. -/
def SamePlaces (log log' : SessionLog) : Prop :=
  log'.statements.place = log.statements.place ∧ log'.diagnostics.place = log.diagnostics.place

variable (log : SessionLog)

theorem writesOnly_writeQuery (sql : String) :
    WritesOnly log.At log.SamePlaces (log.writeQuery sql) := by
  have hfirst : WritesOnly log.At (fun f' => f'.place = log.statements.place)
      (log.statements.write sql.toUTF8) :=
    (log.statements.writesOnly_write _).mono (fun p hp => Or.inl hp) fun f' hf' => hf'
  have hsecond : ∀ f' : BufferedFile, f'.place = log.statements.place →
      WritesOnly log.At (fun f'' => f''.place = log.statements.place)
        (f'.write ";\n".toUTF8) := fun f' hf' =>
    (f'.writesOnly_write _).mono (fun p hp => Or.inl (hp.trans hf')) fun f'' hf'' => hf''.trans hf'
  exact writesOnly_bind (writesOnly_bind hfirst hsecond) fun f' hf' =>
    writesOnly_pure (Q := log.SamePlaces) (a := { log with statements := f' }) ⟨hf', rfl⟩

theorem writesOnly_flush : WritesOnly log.At log.SamePlaces log.flush := by
  have hflush : WritesOnly log.At (fun f' => f'.place = log.statements.place)
      log.statements.flush :=
    log.statements.writesOnly_flush.mono (fun p hp => Or.inl hp) fun f' hf' => hf'
  exact writesOnly_bind hflush fun f' hf' =>
    writesOnly_pure (Q := log.SamePlaces) (a := { log with statements := f' }) ⟨hf', rfl⟩

theorem writesOnly_writeDiagnostic (text : String) :
    WritesOnly log.At log.SamePlaces (log.writeDiagnostic text) := by
  have hwrite : WritesOnly log.At (fun h' => h'.place = log.diagnostics.place)
      (log.diagnostics.write text.toUTF8) :=
    (writesOnly_handle log.diagnostics _).mono (fun p hp => Or.inr hp) fun h' hh' => hh'
  exact writesOnly_bind hwrite fun h' hh' =>
    writesOnly_pure (Q := log.SamePlaces) (a := { log with diagnostics := h' }) ⟨rfl, hh'⟩

end SessionLog

end WritesOnly

end Trisect
