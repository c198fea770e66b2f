/-
What a write does to a file system: it changes the one file that its path names, and
nothing about how any path is followed.

A path is followed through directories only, and a write neither makes nor removes a
directory. So a path that leads somewhere leads to the same place after the write
(`SameDirectories.resolve`), and two paths name the same file before it exactly if they do
after it (`SameDirectories.sameFile`). Everything that later modules know of a write is in
`read_write_iff`: what can be read under a path after it.
-/
import ErrorTable.FileSystem.Access

namespace ErrorTable

namespace Path

theorem intercalate_concat {sep last : List Char} {before : List (List Char)} (h : before ≠ []) :
    sep.intercalate (before ++ [last]) = sep.intercalate before ++ sep ++ last := by
  induction before with
  | nil => exact absurd rfl h
  | cons first before ih =>
    cases before with
    | nil => simp
    | cons second before =>
      simp only [List.cons_append, List.intercalate_cons_cons] at ih ⊢
      rw [ih (by simp)]
      simp

/-- A path ends in a slash exactly if its last piece is empty. -/
theorem endsInSlash_iff {path : Path} (h : path.text ≠ "") :
    path.endsInSlash = true ↔ path.pieces.getLast? = some "" := by
  have hne : path.text.toList ≠ [] := fun hnil => h (String.toList_eq_nil_iff.1 hnil)
  simp only [endsInSlash, decide_eq_true_eq, pieces, List.getLast?_map, Option.map_eq_some_iff]
  constructor
  · intro hl
    obtain ⟨before, hb⟩ := List.getLast?_eq_some_iff.1 hl
    refine ⟨[], ?_, rfl⟩
    rw [hb, List.splitOn_append_cons_self]
    simp
  · intro h
    obtain ⟨last, hl, hempty⟩ := h
    obtain rfl : last = [] := String.ofList_eq_empty_iff.1 hempty
    obtain ⟨before, hb⟩ := List.getLast?_eq_some_iff.1 hl
    have hglue : ['/'].intercalate (path.text.toList.splitOn '/') = path.text.toList :=
      List.intercalate_splitOn '/'
    rw [hb] at hglue
    have hbefore : before ≠ [] := by
      intro h
      subst h
      exact hne (by simpa using hglue.symm)
    rw [← hglue, intercalate_concat hbefore]
    simp

/-- The path ends in the name of an entry, not in a slash, `.` or `..`. -/
def EndsInName (path : Path) : Prop :=
  ∃ above name, path.pieces = above ++ [name] ∧ isIdle name = false ∧ name ≠ ".."

end Path

namespace FileSystem

theorem bind_eq_ok {ε α β : Type} {x : Except ε α} {f : α → Except ε β} {b : β} :
    (x >>= f) = .ok b ↔ ∃ a, x = .ok a ∧ f a = .ok b := by
  cases x <;> simp [bind, Except.bind]

/-- Two paths name the same file: both can be followed, and to the same place. -/
def sameFile (fs : FileSystem) (path other : Path) : Bool :=
  match fs.resolve path, fs.resolve other with
  | .ok place, .ok place' => place = place'
  | _, _ => false

theorem sameFile_iff {fs : FileSystem} {path other : Path} :
    fs.sameFile path other = true ↔
      ∃ place, fs.resolve path = .ok place ∧ fs.resolve other = .ok place := by
  unfold sameFile
  cases hp : fs.resolve path with
  | error e => simp
  | ok place =>
    cases ho : fs.resolve other with
    | error e => simp
    | ok place' => simp [eq_comm]

theorem sameFile_comm (fs : FileSystem) (path other : Path) :
    fs.sameFile path other = fs.sameFile other path := by
  rw [Bool.eq_iff_iff, sameFile_iff, sameFile_iff]
  simp only [and_comm]

/-! ## Reading -/

theorem read_eq_ok {fs : FileSystem} {path : Path} {content : ByteArray} :
    fs.read path = .ok content ↔
      ∃ place, fs.resolve path = .ok place ∧ fs.node? place = some (.file content) := by
  simp only [read, bind_eq_ok]
  refine exists_congr fun place => and_congr_right fun _ => ?_
  split
  · next found => simp [found]
  · next found => simp [found]
  · next found => simp [found]

theorem fromUTF8?_eq_some {bytes : ByteArray} {text : String} :
    String.fromUTF8? bytes = some text ↔ bytes = text.toUTF8 := by
  unfold String.fromUTF8?
  constructor
  · intro h
    split at h
    · cases h
      rfl
    · cases h
  · intro h
    subst h
    have valid : text.toUTF8.IsValidUTF8 := text.isValidUTF8
    rw [dif_pos valid]
    rfl

theorem ok_toUTF8_inj {text text' : String} :
    (Except.ok text.toUTF8 : Except FileError ByteArray) = .ok text'.toUTF8 ↔ text = text' := by
  rw [Except.ok.injEq, String.toUTF8_eq_toByteArray, String.toUTF8_eq_toByteArray,
    String.toByteArray_inj]

/-- A file is a text exactly if its bytes are that text in UTF-8. -/
theorem readText_eq_ok {fs : FileSystem} {path : Path} {text : String} :
    fs.readText path = .ok text ↔ fs.read path = .ok text.toUTF8 := by
  simp only [readText, bind_eq_ok]
  constructor
  · intro h
    obtain ⟨content, hr, h⟩ := h
    split at h
    · next found =>
      cases h
      rw [hr, fromUTF8?_eq_some.1 found]
    · cases h
  · intro hr
    exact ⟨_, hr, by rw [fromUTF8?_eq_some.2 rfl]⟩

/-! ## Where a write goes -/

theorem expectDirectory_eq_ok {fs : FileSystem} {place : Location} :
    fs.expectDirectory place = .ok () ↔ fs.node? place = some .directory := by
  unfold expectDirectory
  split
  · next found => simp [found]
  · next found => simp [found]
  · next found => simp [found]

theorem step_eq_ok {fs : FileSystem} {place next : Location} {piece : String} :
    fs.step place piece = .ok next ↔ fs.node? place = some .directory ∧
      (if Path.isIdle piece then .ok place else if piece = ".." then .ok place.tail
        else entryAt place piece) = .ok next := by
  simp only [step, bind_eq_ok, ← expectDirectory_eq_ok]
  exact ⟨fun ⟨_, h⟩ => h, fun h => ⟨(), h⟩⟩

theorem eq_of_entryAt {place target : Location} {name : String}
    (h : entryAt place name = .ok target) : target = name :: place := by
  unfold entryAt at h
  split at h
  · cases h
  · cases h; rfl

theorem text_ne_empty_of_checkPath {path : Path} (h : checkPath path = .ok ()) :
    path.text ≠ "" := by
  intro hempty
  simp [checkPath, hempty] at h

theorem walk_concat (fs : FileSystem) (place : Location) (above : List String) (name : String) :
    fs.walk place (above ++ [name]) = fs.walk place above >>= fun p => fs.step p name := by
  simp [walk]

theorem walk_name_eq_ok {fs : FileSystem} {start target : Location} {above : List String}
    {name : String} (hidle : Path.isIdle name = false) (hup : name ≠ "..") :
    fs.walk start (above ++ [name]) = .ok target ↔
      ∃ place, fs.walk start above = .ok place ∧ fs.node? place = some .directory ∧
        entryAt place name = .ok target := by
  simp [walk_concat, bind_eq_ok, step_eq_ok, hidle, hup]

/-- Without a slash at the end of a path, its last piece is the name that it ends in. -/
theorem pieces_of_dropWhile {path : Path} {name : String} {above : List String}
    (htext : path.text ≠ "") (hslash : path.endsInSlash = false)
    (h : path.pieces.reverse.dropWhile (· = "") = name :: above) :
    path.pieces = above.reverse ++ [name] ∧ name ≠ "" := by
  have hlast : path.pieces.getLast? ≠ some "" := by
    intro hl
    rw [(Path.endsInSlash_iff htext).2 hl] at hslash
    cases hslash
  rw [← List.head?_reverse] at hlast
  cases hp : path.pieces.reverse with
  | nil => rw [hp] at h; simp at h
  | cons last before =>
    rw [hp] at h hlast
    have hne : last ≠ "" := by simpa using hlast
    rw [List.dropWhile_cons_of_neg (by simpa using hne)] at h
    cases h
    refine ⟨?_, hne⟩
    rw [← List.reverse_reverse path.pieces, hp, List.reverse_cons]

/-- **Where a write goes.** A write to a path goes to the place that the path leads to, and
it can be made if the path ends in a name and there is no directory at that place. -/
theorem destination_eq_ok {fs : FileSystem} {path : Path} {target : Location} :
    fs.destination path = .ok target ↔
      path.EndsInName ∧ fs.resolve path = .ok target ∧ fs.node? target ≠ some .directory := by
  simp only [destination, resolve, bind_eq_ok]
  constructor
  · intro h
    obtain ⟨_, hcheck, h⟩ := h
    split at h
    · cases h
    next name above hdrop =>
    simp only [bind_eq_ok] at h
    obtain ⟨place, hwalk, _, hdir, h⟩ := h
    split at h
    · cases h
    next hend =>
    simp only [Bool.or_eq_true, decide_eq_true_eq, not_or, Bool.not_eq_true] at hend
    obtain ⟨⟨hslash, hdot⟩, hup⟩ := hend
    simp only [bind_eq_ok] at h
    obtain ⟨place', hentry, h⟩ := h
    have hplace : place' = target ∧ fs.node? target ≠ some .directory := by
      split at h
      · cases h
      · next hfree => cases h; exact ⟨rfl, hfree⟩
    obtain ⟨rfl, hfree⟩ := hplace
    obtain ⟨hpieces, hne⟩ :=
      pieces_of_dropWhile (text_ne_empty_of_checkPath hcheck) hslash hdrop
    have hidle : Path.isIdle name = false := by simp [Path.isIdle, hne, hdot]
    refine ⟨⟨above.reverse, name, hpieces, hidle, hup⟩, ⟨(), hcheck, ?_⟩, hfree⟩
    rw [hpieces, walk_name_eq_ok hidle hup]
    exact ⟨place, hwalk, expectDirectory_eq_ok.1 hdir, hentry⟩
  · intro h
    obtain ⟨⟨above, name, hpieces, hidle, hup⟩, ⟨_, hcheck, hwalk⟩, hfree⟩ := h
    refine ⟨(), hcheck, ?_⟩
    have hne : name ≠ "" ∧ name ≠ "." := by simpa [Path.isIdle] using hidle
    have hslash : path.endsInSlash = false := by
      rw [← Bool.not_eq_true, Path.endsInSlash_iff (text_ne_empty_of_checkPath hcheck), hpieces]
      simpa using hne.1
    rw [hpieces, walk_name_eq_ok hidle hup] at hwalk
    obtain ⟨place, hwalk, hdir, hentry⟩ := hwalk
    rw [hpieces]
    simp only [List.reverse_append, List.reverse_singleton, List.singleton_append]
    rw [List.dropWhile_cons_of_neg (by simpa using hne.1)]
    simp only [bind_eq_ok, List.reverse_reverse, hslash, hne.2, hup]
    refine ⟨place, hwalk, (), expectDirectory_eq_ok.2 hdir, ?_⟩
    simp only [Bool.false_or, decide_false, Bool.false_eq_true, if_false, bind_eq_ok]
    refine ⟨target, hentry, ?_⟩
    split
    · next hd => exact absurd hd hfree
    · rfl

theorem ne_nil_of_destination {fs : FileSystem} {path : Path} {target : Location}
    (h : fs.destination path = .ok target) : target ≠ [] := by
  intro hnil
  subst hnil
  exact (destination_eq_ok.1 h).2.2 fs.node?_root

theorem write_eq_ok {fs next : FileSystem} {path : Path} {content : ByteArray} :
    fs.write path content = .ok next ↔
      ∃ place, fs.destination path = .ok place ∧ next = fs.put place (.file content) := by
  simp only [write, bind_eq_ok, pure, Except.pure, Except.ok.injEq]
  exact exists_congr fun _ => and_congr_right fun _ => eq_comm

theorem exists_write {fs : FileSystem} {path : Path} {place : Location}
    (h : fs.destination path = .ok place) (content : ByteArray) :
    ∃ next, fs.write path content = .ok next :=
  ⟨_, write_eq_ok.2 ⟨place, h, rfl⟩⟩

/-! ## What a write leaves alone -/

/-- Two file systems have the same directories, and the same current one. -/
structure SameDirectories (a b : FileSystem) : Prop where
  cwd : a.cwd = b.cwd
  directory : ∀ place, a.node? place = some .directory ↔ b.node? place = some .directory

theorem SameDirectories.refl (fs : FileSystem) : SameDirectories fs fs :=
  ⟨rfl, fun _ => Iff.rfl⟩

theorem SameDirectories.trans {a b c : FileSystem} (h : SameDirectories a b)
    (h' : SameDirectories b c) : SameDirectories a c :=
  ⟨h.cwd.trans h'.cwd, fun place => (h.directory place).trans (h'.directory place)⟩

/-- A path leads to the same place wherever the directories are the same. Where it leads
nowhere the errors can differ: a file can have appeared where there was nothing. -/
theorem SameDirectories.resolve {a b : FileSystem} (h : SameDirectories a b) {path : Path}
    {place : Location} : a.resolve path = .ok place ↔ b.resolve path = .ok place := by
  have hwalk : ∀ (pieces : List String) (start : Location),
      a.walk start pieces = .ok place ↔ b.walk start pieces = .ok place := by
    intro pieces
    induction pieces with
    | nil => intro start; simp
    | cons piece pieces ih =>
      intro start
      simp only [walk, List.foldlM_cons, bind_eq_ok, step_eq_ok, h.directory] at ih ⊢
      simp only [ih]
  simp only [FileSystem.resolve, bind_eq_ok, origin, h.cwd, hwalk]

theorem SameDirectories.sameFile {a b : FileSystem} (h : SameDirectories a b) (path other : Path) :
    a.sameFile path other = b.sameFile path other := by
  rw [Bool.eq_iff_iff, sameFile_iff, sameFile_iff]
  simp only [h.resolve]

/-- A file can be written under the same paths wherever the directories are the same. -/
theorem SameDirectories.destination {a b : FileSystem} (h : SameDirectories a b) {path : Path}
    {place : Location} : a.destination path = .ok place ↔ b.destination path = .ok place := by
  simp only [destination_eq_ok, h.resolve, ne_eq, h.directory]

/-- A write neither makes nor removes a directory. -/
theorem sameDirectories_write {fs next : FileSystem} {path : Path} {content : ByteArray}
    (h : fs.write path content = .ok next) : SameDirectories fs next := by
  obtain ⟨place, hd, rfl⟩ := write_eq_ok.1 h
  refine ⟨rfl, fun other => ?_⟩
  by_cases ho : other = place
  · subst ho
    rw [node?_put_self _ (ne_nil_of_destination hd)]
    simpa using (destination_eq_ok.1 hd).2.2
  · rw [node?_put_other _ ho]

/-- A path leads to a place. -/
def leadsTo (fs : FileSystem) (path : Path) (place : Location) : Bool :=
  (fs.resolve path).toOption = some place

theorem leadsTo_iff {fs : FileSystem} {path : Path} {place : Location} :
    fs.leadsTo path place = true ↔ fs.resolve path = .ok place := by
  unfold leadsTo
  cases fs.resolve path with
  | error e => simp [Except.toOption]
  | ok place' => simp [Except.toOption]

theorem SameDirectories.leadsTo {a b : FileSystem} (h : SameDirectories a b) (path : Path)
    (place : Location) : a.leadsTo path place = b.leadsTo path place := by
  rw [Bool.eq_iff_iff, leadsTo_iff, leadsTo_iff, h.resolve]

/-- After a write, the bytes that were written stand at the place that its path leads to, and
every other place is as it was. -/
theorem node?_write {fs next : FileSystem} {path : Path} {content : ByteArray}
    (h : fs.write path content = .ok next) (place : Location) :
    next.node? place =
      if fs.leadsTo path place then some (.file content) else fs.node? place := by
  obtain ⟨target, hd, rfl⟩ := write_eq_ok.1 h
  have hres := (destination_eq_ok.1 hd).2.1
  by_cases hp : place = target
  · subst hp
    rw [if_pos (leadsTo_iff.2 hres), node?_put_self _ (ne_nil_of_destination hd)]
  · have hapart : ¬fs.leadsTo path place = true := by
      rw [leadsTo_iff, hres]
      exact fun heq => hp (Except.ok.inj heq).symm
    rw [if_neg hapart, node?_put_other _ hp]

/-- **What a write changes.** After a write, the bytes that were written can be read under
every path that names the same file, and under any other path what could be read before. -/
theorem read_write_iff {fs next : FileSystem} {path other : Path} {content bytes : ByteArray}
    (h : fs.write path content = .ok next) :
    next.read other = .ok bytes ↔
      if fs.sameFile path other then bytes = content else fs.read other = .ok bytes := by
  have hsame := sameDirectories_write h
  obtain ⟨place, hd, rfl⟩ := write_eq_ok.1 h
  have hres := (destination_eq_ok.1 hd).2.1
  simp only [read_eq_ok, ← hsame.resolve]
  split
  · next hs =>
    obtain ⟨place', hp, ho⟩ := sameFile_iff.1 hs
    rw [hres] at hp
    cases hp
    simp [ho, node?_put_self _ (ne_nil_of_destination hd), eq_comm]
  · next hs =>
    refine exists_congr fun place' => and_congr_right fun ho => ?_
    have hne : place' ≠ place := by
      intro h
      subst h
      exact hs (sameFile_iff.2 ⟨_, hres, ho⟩)
    rw [node?_put_other _ hne]

theorem sameFile_self_of_write {fs next : FileSystem} {path : Path} {content : ByteArray}
    (h : fs.write path content = .ok next) : fs.sameFile path path = true := by
  obtain ⟨place, hd, -⟩ := write_eq_ok.1 h
  exact sameFile_iff.2 ⟨place, (destination_eq_ok.1 hd).2.1, (destination_eq_ok.1 hd).2.1⟩

theorem read_write_self {fs next : FileSystem} {path : Path} {content : ByteArray}
    (h : fs.write path content = .ok next) : next.read path = .ok content := by
  rw [read_write_iff h, if_pos (sameFile_self_of_write h)]

/-- A write after which every place holds what it held before has changed nothing. -/
theorem eq_of_write {fs next : FileSystem} {path : Path} {content : ByteArray}
    (h : fs.write path content = .ok next) (hkeep : ∀ place, next.node? place = fs.node? place) :
    next = fs := by
  obtain ⟨place, hd, rfl⟩ := write_eq_ok.1 h
  have hne := ne_nil_of_destination hd
  refine put_eq_self hne ?_
  rw [← hkeep, node?_put_self _ hne]

end FileSystem

end ErrorTable
