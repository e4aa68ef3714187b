import Trisect.Storage.FileSystem

/-!
# Where paths lead

A path that can be followed leads to a place that can be read off its names, whatever stands there
(`Trisect.FileSystem.placeOf`, `Trisect.FileSystem.eq_placeOf_of_locate`). What depends on the file
system is only whether it can be followed, and that depends on nothing but the directories
(`Trisect.FileSystem.locate_of_directories`). This is what makes it possible to compare two file
systems that differ in some files.

Directories are made and never taken away. Making the directories that lead somewhere changes the
content of no file, and a second time it changes nothing
(`Trisect.FileSystem.createDirectories_made`).
-/

namespace Trisect

namespace FileSystem

variable {fs fs' a b : FileSystem} {p q : Place} {names : List String}

/-! ### What stands where -/

@[simp] theorem node?_nil (fs : FileSystem) : fs.node? [] = some .directory := rfl

theorem node?_put_self (fs : FileSystem) (hp : p ≠ []) (n : Node) :
    (fs.put p n).node? p = some n := by
  cases p with
  | nil => exact absurd rfl hp
  | cons name rest => simp [node?, put]

theorem node?_put_of_ne (fs : FileSystem) (h : q ≠ p) (n : Node) :
    (fs.put p n).node? q = fs.node? q := by
  have hlookup : ∀ nodes : List (Place × Node),
      (nodes.filter fun entry => entry.1 ≠ p).lookup q = nodes.lookup q := by
    intro nodes
    induction nodes with
    | nil => rfl
    | cons entry rest ih =>
      obtain ⟨place, node⟩ := entry
      by_cases hplace : place = p
      · have hne : (q == place) = false := by simpa [hplace] using h
        rw [List.filter_cons_of_neg (by simpa using hplace), ih, List.lookup_cons, hne]
      · rw [List.filter_cons_of_pos (by simpa using hplace), List.lookup_cons, List.lookup_cons, ih]
  have hne : (q == p) = false := by simpa using h
  rw [node?, node?, put, List.lookup_cons, hne, hlookup]

theorem isDirectory_iff : fs.isDirectory p = true ↔ fs.node? p = some .directory := by
  rw [isDirectory]
  split
  · next h => simp [h]
  · next h => simpa using h

theorem content?_of_directory (h : fs.node? p = some .directory) : fs.content? p = none := by
  rw [content?, h]

/-- What stands at a place decides the content. -/
theorem content?_congr (h : a.node? p = b.node? p) : a.content? p = b.content? p := by
  rw [content?, content?, h]

/-! ### Places -/

/-- Where a name leads from a place, if it can be followed. -/
def goTo (p : Place) (name : String) : Place := if name = ".." then p.dropLast else p ++ [name]

/-- Where names lead from the top, if they can be followed. -/
def resolve (names : List String) : Place := names.foldl goTo []

/-- Where a path leads, if it can be followed. -/
def placeOf (path : String) : Place := resolve (namesOf path)

theorem resolve_concat (names : List String) {name : String} (h : name ≠ "..") :
    resolve (names ++ [name]) = resolve names ++ [name] := by
  rw [resolve, List.foldl_append, List.foldl_cons, List.foldl_nil, goTo, if_neg h, ← resolve]

theorem follow_eq_ok_iff {name : String} :
    fs.follow p name = .ok q ↔
      name.utf8ByteSize ≤ 255 ∧ fs.isDirectory p = true ∧ q = goTo p name := by
  rw [isDirectory_iff, follow]
  split
  · next h => simp [Nat.not_le.2 h]
  · next h =>
    have hle := Nat.not_lt.1 h
    split
    · next hnode => simp [hnode]
    · next hnode => simp [hnode]
    · next hnode => simp [hnode, hle, goTo, eq_comm]

theorem locate_append (fs : FileSystem) (p : Place) (names names' : List String) :
    fs.locate p (names ++ names') = (fs.locate p names).bind fun p => fs.locate p names' := by
  induction names generalizing p with
  | nil => rfl
  | cons name names ih =>
    rw [List.cons_append, locate, locate]
    split
    · exact ih _
    · rfl

/-- **Names that can be followed** lead where they say. -/
theorem eq_of_locate (h : fs.locate p names = .ok q) : q = names.foldl goTo p := by
  induction names generalizing p with
  | nil => exact (Except.ok.inj h).symm
  | cons name names ih =>
    rw [locate] at h
    split at h
    · next p' hfollow =>
      obtain ⟨-, -, rfl⟩ := follow_eq_ok_iff.1 hfollow
      exact ih h
    · cases h

theorem eq_placeOf_of_locate {path : String} (h : fs.locate [] (namesOf path) = .ok p) :
    p = placeOf path := eq_of_locate h

/-- **Whether names can be followed** depends on the directories only. -/
theorem locate_of_directories (hdir : ∀ p, a.isDirectory p = true → b.isDirectory p = true)
    (h : a.locate p names = .ok q) : b.locate p names = .ok q := by
  induction names generalizing p with
  | nil => exact h
  | cons name names ih =>
    rw [locate] at h
    split at h
    · next p' hfollow =>
      obtain ⟨hlen, hp, hp'⟩ := follow_eq_ok_iff.1 hfollow
      have hfollow' : b.follow p name = .ok p' := follow_eq_ok_iff.2 ⟨hlen, hdir p hp, hp'⟩
      rw [locate, hfollow']
      exact ih h
    · cases h

theorem leadsToDirectory_iff :
    fs.leadsToDirectory names = true ↔
      fs.locate [] names = .ok (resolve names) ∧ fs.isDirectory (resolve names) = true := by
  rw [leadsToDirectory]
  split
  · next p hlocate =>
    obtain rfl := eq_of_locate hlocate
    exact ⟨fun h => ⟨hlocate, h⟩, fun h => h.2⟩
  · next e hlocate =>
    rw [hlocate]
    simp

theorem leadsToDirectory_of_directories
    (hdir : ∀ p, a.isDirectory p = true → b.isDirectory p = true)
    (h : a.leadsToDirectory names = true) : b.leadsToDirectory names = true := by
  obtain ⟨hlocate, hdirectory⟩ := leadsToDirectory_iff.1 h
  exact leadsToDirectory_iff.2 ⟨locate_of_directories hdir hlocate, hdir _ hdirectory⟩

/-! ### Names with a common beginning -/

/-- A list with something at its end that the separator is not in: that becomes part of the last
piece. -/
theorem exists_splitOn_append (separator : Char) (cs : List Char) :
    ∃ pieces last, ∀ xs, separator ∉ xs →
      (cs ++ xs).splitOn separator = pieces ++ [last ++ xs] := by
  simp only [List.splitOn_eq_splitOnP]
  induction cs with
  | nil =>
    refine ⟨[], [], fun xs hxs => List.splitOnP_eq_singleton fun x hx => ?_⟩
    have hne : x ≠ separator := fun heq => hxs (heq ▸ hx)
    simpa using hne
  | cons c cs ih =>
    obtain ⟨pieces, last, hsplit⟩ := ih
    by_cases hc : c = separator
    · refine ⟨[] :: pieces, last, fun xs hxs => ?_⟩
      rw [List.cons_append, List.splitOnP_cons_eq_if_modifyHead, if_pos (by simpa using hc),
        hsplit xs hxs, List.cons_append]
    · cases pieces with
      | nil =>
        refine ⟨[], c :: last, fun xs hxs => ?_⟩
        rw [List.cons_append, List.splitOnP_cons_eq_if_modifyHead, if_neg (by simpa using hc),
          hsplit xs hxs]
        rfl
      | cons piece pieces =>
        refine ⟨(c :: piece) :: pieces, last, fun xs hxs => ?_⟩
        rw [List.cons_append, List.splitOnP_cons_eq_if_modifyHead, if_neg (by simpa using hc),
          hsplit xs hxs]
        rfl

/-- **Paths that begin alike** and have only a last name behind that: they lead through the same
names. -/
theorem exists_namesOf_append (base : String) :
    ∃ names last, ∀ x : String, '/' ∉ x.toList → last ++ x ≠ "" → last ++ x ≠ "." →
      namesOf (base ++ x) = names ++ [last ++ x] := by
  obtain ⟨pieces, last, hsplit⟩ := exists_splitOn_append '/' base.toList
  refine ⟨(pieces.map String.ofList).filter fun name => name ≠ "" && name ≠ ".",
    String.ofList last, fun x hx hempty hdot => ?_⟩
  have hlast : String.ofList (last ++ x.toList) = String.ofList last ++ x := by
    rw [String.ofList_append, String.ofList_toList]
  rw [namesOf, String.toList_append, hsplit _ hx, List.map_append, List.filter_append,
    List.map_singleton, hlast, List.filter_cons_of_pos (by simp [hempty, hdot]), List.filter_nil]

/-- **Paths that begin alike**, and that go on long enough not to mean a directory: they lead to
something in one directory. -/
theorem exists_names_of_long (base : String) :
    ∃ names last, ∀ x : String, '/' ∉ x.toList → 2 < x.toList.length →
      namesOf (base ++ x) = names ++ [last ++ x] ∧ last ++ x ≠ ".." := by
  obtain ⟨names, last, hnames⟩ := exists_namesOf_append base
  refine ⟨names, last, fun x hx hlong => ?_⟩
  have hne : ∀ name : String, name.toList.length ≤ 2 → last ++ x ≠ name := by
    intro name hname heq
    have hlen := congrArg (fun s => s.toList.length) heq
    simp only [String.toList_append, List.length_append] at hlen
    omega
  exact ⟨hnames x hx (hne "" (by decide)) (hne "." (by decide)), hne ".." (by decide)⟩

/-- **What ends differently is elsewhere.** -/
theorem placeOf_append_ne (base : String) {x y : String} (hx : '/' ∉ x.toList)
    (hxlong : 2 < x.toList.length) (hy : '/' ∉ y.toList) (hylong : 2 < y.toList.length)
    (hne : x ≠ y) : placeOf (base ++ x) ≠ placeOf (base ++ y) := by
  obtain ⟨names, last, hsite⟩ := exists_names_of_long base
  obtain ⟨hnames, hup⟩ := hsite x hx hxlong
  obtain ⟨hnames', hup'⟩ := hsite y hy hylong
  rw [placeOf, placeOf, hnames, hnames', resolve_concat _ hup, resolve_concat _ hup']
  intro heq
  have hlast := List.singleton_inj.1 (List.append_cancel_left heq)
  exact hne (by simpa using hlast)

/-- What stands behind the beginning of a name does not matter for how it is put below a directory.
-/
theorem join_append (directory : String) {base : String} (h : base ≠ "") (x : String) :
    join directory (base ++ x) = join directory base ++ x := by
  have hhead : (base ++ x).toList.head? = base.toList.head? := by
    rw [String.toList_append]
    cases hbase : base.toList with
    | nil => exact absurd (by simpa using hbase) h
    | cons c cs => rfl
  rw [join, join, hhead]
  split
  · rfl
  · split
    · exact (String.append_assoc ..).symm
    · exact (String.append_assoc ..).symm

/-! ### Making directories -/

/-- A file system in which some more directories have been made. -/
structure MoreDirectories (a b : FileSystem) : Prop where
  directories : ∀ p, a.isDirectory p = true → b.isDirectory p = true
  contents : ∀ p, b.content? p = a.content? p

theorem MoreDirectories.refl (a : FileSystem) : MoreDirectories a a :=
  ⟨fun _ h => h, fun _ => rfl⟩

theorem MoreDirectories.trans {c : FileSystem} (h : MoreDirectories a b)
    (h' : MoreDirectories b c) : MoreDirectories a c :=
  ⟨fun p hp => h'.directories p (h.directories p hp), fun p => (h'.contents p).trans (h.contents p)⟩

/-- A directory is made where nothing was. -/
theorem moreDirectories_of_makeDirectory (h : fs.makeDirectory names = .ok fs') :
    fs.MoreDirectories fs' ∧ fs'.leadsToDirectory names = true := by
  rw [makeDirectory] at h
  split at h
  · cases h
  next p hlocate =>
  split at h
  · cases h
  next hnone =>
  obtain rfl := Except.ok.inj h
  have hne : p ≠ [] := by
    rintro rfl
    simp at hnone
  have hmore : fs.MoreDirectories (fs.put p .directory) := by
    constructor
    · intro q hq
      by_cases hqp : q = p
      · rw [hqp, isDirectory_iff, node?_put_self fs hne]
      · rwa [isDirectory_iff, node?_put_of_ne fs hqp, ← isDirectory_iff]
    · intro q
      by_cases hqp : q = p
      · rw [hqp, content?_of_directory (node?_put_self fs hne _), content?, hnone]
      · exact content?_congr (node?_put_of_ne fs hqp _)
  have hlocate' := locate_of_directories hmore.directories hlocate
  refine ⟨hmore, ?_⟩
  rw [leadsToDirectory, hlocate']
  exact isDirectory_iff.2 (node?_put_self fs hne _)

/-- **Making all directories that lead somewhere**, if it succeeds, leads there, and takes nothing
away. -/
theorem moreDirectories_of_makeDirectories (h : fs.makeDirectories names = .ok fs') :
    fs.MoreDirectories fs' ∧ fs'.leadsToDirectory names.reverse = true := by
  induction names generalizing fs fs' with
  | nil =>
    obtain rfl := Except.ok.inj h
    exact ⟨.refl _, rfl⟩
  | cons name names ih =>
    -- what is said of a directory that could not be made, but is there
    have hthere : ∀ {fs fs' : FileSystem} {e : IoError},
        (if fs.leadsToDirectory (name :: names).reverse then Except.ok fs else .error e) = .ok fs' →
        fs' = fs ∧ fs'.leadsToDirectory (name :: names).reverse = true := by
      intro fs fs' e h
      split at h
      · next hleads =>
        obtain rfl := Except.ok.inj h
        exact ⟨rfl, hleads⟩
      · cases h
    rw [makeDirectories] at h
    split at h
    · next made hmade =>
      obtain rfl := Except.ok.inj h
      exact moreDirectories_of_makeDirectory hmade
    · split at h
      · cases h
      next parents hparents =>
      obtain ⟨hmore, -⟩ := ih hparents
      split at h
      · next made hmade =>
        obtain rfl := Except.ok.inj h
        obtain ⟨hmore', hleads⟩ := moreDirectories_of_makeDirectory hmade
        exact ⟨hmore.trans hmore', hleads⟩
      · obtain ⟨rfl, hleads⟩ := hthere h
        exact ⟨hmore, hleads⟩
    · obtain ⟨rfl, hleads⟩ := hthere h
      exact ⟨.refl _, hleads⟩

/-- Directories that are there do not have to be made. -/
theorem makeDirectories_of_leadsToDirectory (h : fs.leadsToDirectory names.reverse = true) :
    fs.makeDirectories names = .ok fs := by
  cases names with
  | nil => rfl
  | cons name names =>
    obtain ⟨hlocate, hdirectory⟩ := leadsToDirectory_iff.1 h
    have hexists : fs.makeDirectory (name :: names).reverse = .error .alreadyExists := by
      rw [makeDirectory, hlocate]
      dsimp only
      rw [isDirectory_iff.1 hdirectory]
    rw [makeDirectories, hexists]
    exact if_pos h

/-- The file system in which the directories at a path have been made, if they can be made. -/
def made (path : String) (fs : FileSystem) : FileSystem :=
  match fs.createDirectories path with
  | .ok fs => fs
  | .error _ => fs

variable {path : String}

theorem createDirectories_eq_ok (h : fs.createDirectories path = .ok fs') :
    fs.MoreDirectories fs' ∧ fs'.leadsToDirectory (namesOf path) = true ∧ made path fs = fs' := by
  have hmade : made path fs = fs' := by rw [made, h]
  rw [createDirectories] at h
  split at h
  · cases h
  · obtain ⟨hmore, hleads⟩ := moreDirectories_of_makeDirectories h
    rw [List.reverse_reverse] at hleads
    exact ⟨hmore, hleads, hmade⟩

/-- **Directories are made once**: where they are, making them changes nothing. -/
theorem createDirectories_made (h : fs.createDirectories path = .ok fs') :
    fs'.createDirectories path = .ok fs' := by
  obtain ⟨-, hleads, -⟩ := createDirectories_eq_ok h
  rw [createDirectories] at h ⊢
  split at h
  · cases h
  · next hfault =>
    exact makeDirectories_of_leadsToDirectory (by rwa [List.reverse_reverse])

theorem made_of_createDirectories_error {e : IoError} (h : fs.createDirectories path = .error e) :
    made path fs = fs := by
  rw [made, h]

theorem made_of_leadsToDirectory (h : fs.leadsToDirectory (namesOf path) = true) :
    made path fs = fs := by
  rw [made, createDirectories]
  cases pathFault? path with
  | some e => rfl
  | none =>
    have hmake : fs.makeDirectories (namesOf path).reverse = .ok fs :=
      makeDirectories_of_leadsToDirectory (by rwa [List.reverse_reverse])
    simp only [hmake]

theorem moreDirectories_made (path : String) (fs : FileSystem) :
    fs.MoreDirectories (made path fs) := by
  cases h : fs.createDirectories path with
  | ok fs' =>
    obtain ⟨hmore, -, hmade⟩ := createDirectories_eq_ok h
    rwa [hmade]
  | error e =>
    rw [made_of_createDirectories_error h]
    exact .refl fs

end FileSystem

end Trisect
