/-
File systems that are trees: whatever stands at a location stands in a directory.

The nodes of a file system are listed one by one, so a list could hold a file in a directory
that is not there. No file system that is built from an empty one is like that (`isTree_after`):
storing a node in a directory keeps the tree (`IsTree.put`), and with it every write, removal and
new directory, and every run of a program (`IsTree.run`).

That a file system is a tree matters for paths that end in `..`. In a tree they lead to
directories, so a path under which a file can be read ends in a name (`IsTree.endsInName`),
and a file can be written wherever it can be read (`IsTree.write_eq_self`).
-/
import ErrorTable.Program
import ErrorTable.Proofs.Access

namespace ErrorTable.FileSystem

/-- The nodes form a tree: whatever stands at a location stands in a directory. -/
def IsTree (fs : FileSystem) : Prop :=
  ∀ name place, fs.node? (name :: place) ≠ none → fs.node? place = some .directory

theorem isTree_empty (cwd : Location) : IsTree { cwd } := by
  intro name place h
  exact absurd rfl h

theorem isTree_of_nodes {fs : FileSystem}
    (h : ∀ item ∈ fs.nodes, fs.node? item.1.tail = some .directory) : fs.IsTree := by
  intro name place hsome
  obtain ⟨node, hnode⟩ := Option.ne_none_iff_exists'.1 hsome
  rw [node?_eq_lookup _ (by simp)] at hnode
  obtain ⟨before, after, hitem, -⟩ := List.lookup_eq_some_iff.1 hnode
  exact h (name :: place, node) (by simp [hitem])

theorem IsTree.parent {fs : FileSystem} (tree : fs.IsTree) {place : Location}
    (h : fs.node? place = some .directory) : fs.node? place.tail = some .directory := by
  cases place with
  | nil => exact fs.node?_root
  | cons name place => exact tree name place (by simp [h])

/-! ## Changes that keep the tree -/

/-- A node can be stored in a directory, as long as no directory becomes a file. -/
theorem IsTree.put {fs : FileSystem} (tree : fs.IsTree) {name : String} {place : Location}
    {node : Node} (hparent : fs.node? place = some .directory)
    (hkeep : node = .directory ∨ fs.node? (name :: place) ≠ some .directory) :
    (fs.put (name :: place) node).IsTree := by
  intro name' place' h
  by_cases hp : place' = name :: place
  · -- Something stands below the new node, so there was a directory in its place.
    subst hp
    rw [node?_put_other _ (by simp)] at h
    have hdir := tree _ _ h
    rcases hkeep with rfl | hkeep
    · exact node?_put_self _ (by simp) _
    · exact absurd hdir hkeep
  · rw [node?_put_other _ hp]
    by_cases hn : name' :: place' = name :: place
    · cases hn
      exact hparent
    · rw [node?_put_other _ hn] at h
      exact tree _ _ h

theorem IsTree.write {fs next : FileSystem} (tree : fs.IsTree) {path : Path}
    {content : ByteArray} (h : fs.write path content = .ok next) : next.IsTree := by
  obtain ⟨target, hd, rfl⟩ := write_eq_ok.1 h
  obtain ⟨⟨above, name, hpieces, hidle, hup⟩, hres, hfree⟩ := destination_eq_ok.1 hd
  simp only [resolve, bind_eq_ok, hpieces, walk_name_eq_ok hidle hup] at hres
  obtain ⟨-, -, place, -, hdir, hentry⟩ := hres
  obtain rfl := eq_of_entryAt hentry
  exact tree.put hdir (.inr hfree)

theorem lookup_filter_ne (place other : Location) (nodes : List (Location × Node)) :
    (nodes.filter (·.1 ≠ place)).lookup other =
      if other = place then none else nodes.lookup other := by
  induction nodes with
  | nil => simp
  | cons item nodes ih =>
    obtain ⟨key, node⟩ := item
    by_cases hk : key = place
    · subst hk
      rw [List.filter_cons_of_neg (by simp), ih]
      by_cases ho : other = key
      · simp [ho]
      · have hb : (other == key) = false := by simpa using ho
        simp [ho, List.lookup_cons, hb]
    · rw [List.filter_cons_of_pos (by simpa using hk), List.lookup_cons, List.lookup_cons, ih]
      by_cases ho : other = place
      · have hb : (other == key) = false := by simpa [ho] using Ne.symm hk
        simp [ho, ho ▸ hb]
      · simp [ho]

theorem node?_erase (fs : FileSystem) {place : Location} (h : place ≠ []) (other : Location) :
    (fs.erase place).node? other = if other = place then none else fs.node? other := by
  cases other with
  | nil => simp [h.symm]
  | cons name above =>
    simp only [node?_eq_lookup _ (List.cons_ne_nil name above), erase, lookup_filter_ne]

theorem IsTree.remove {fs next : FileSystem} (tree : fs.IsTree) {path : Path}
    (h : fs.remove path = .ok next) : next.IsTree := by
  simp only [FileSystem.remove, bind_eq_ok] at h
  obtain ⟨place, -, h⟩ := h
  split at h
  · next content hfile =>
    cases h
    have hne : place ≠ [] := by
      intro h
      subst h
      simp at hfile
    intro name above habove
    simp only [node?_erase _ hne] at habove ⊢
    split at habove
    · exact absurd rfl habove
    · have hdir := tree name above habove
      rw [if_neg (by rintro rfl; simp [hfile] at hdir)]
      exact hdir
  · cases h
  · cases h

theorem IsTree.makeMissing {fs : FileSystem} (tree : fs.IsTree) (place : Location)
    (pieces : List String) : (fs.makeMissing place pieces).1.IsTree := by
  induction pieces generalizing fs place with
  | nil => exact tree
  | cons piece pieces ih =>
    simp only [FileSystem.makeMissing]
    split
    · exact tree
    · next next hstep =>
      apply ih
      split
      · next hmissing =>
        simp only [Bool.and_eq_true, Option.isNone_iff_eq_none] at hmissing
        obtain ⟨hdir, hlast⟩ := step_eq_ok.1 hstep
        -- A piece that leads to an existing directory makes nothing.
        split at hlast
        · cases hlast
          simp [hdir] at hmissing
        · split at hlast
          · cases hlast
            simp [tree.parent hdir] at hmissing
          · obtain rfl := eq_of_entryAt hlast
            exact tree.put hdir (.inl rfl)
      · exact tree

theorem IsTree.makeDirectories {fs : FileSystem} (tree : fs.IsTree) (path : Path) :
    (fs.makeDirectories path).1.IsTree := by
  unfold FileSystem.makeDirectories
  split
  · exact tree
  · split
    · exact tree
    · exact tree.makeMissing _ _

/-- A run keeps the tree, whatever the program does and whether or not it fails. -/
theorem IsTree.run {α : Type} {fs : FileSystem} (tree : fs.IsTree) (program : Program α) :
    (program.run fs).files.IsTree := by
  induction program generalizing fs with
  | done value => exact tree
  | fail failure => exact tree
  | read path answer ih => exact ih (fs.read path) tree
  | write path content answer ih =>
    unfold Program.run
    split
    · next changed hw => exact ih (.ok ()) (tree.write hw)
    · next error hw => exact ih (.error error) tree
  | report event rest ih => exact ih tree

/-! ## Reading and writing in a tree -/

/-- In a tree a path under which a file can be read ends in a name: a slash, `.` or `..`
at its end would lead to a directory. -/
theorem IsTree.endsInName {fs : FileSystem} (tree : fs.IsTree) {path : Path}
    {content : ByteArray} (h : fs.read path = .ok content) : path.EndsInName := by
  obtain ⟨target, hres, hfile⟩ := read_eq_ok.1 h
  obtain ⟨above, name, hpieces⟩ : ∃ above name, path.pieces = above ++ [name] :=
    ⟨_, _, (List.dropLast_concat_getLast path.pieces_ne_nil).symm⟩
  simp only [resolve, bind_eq_ok, hpieces, walk_concat, step_eq_ok] at hres
  obtain ⟨-, -, place, -, hdir, hlast⟩ := hres
  refine ⟨above, name, hpieces, ?_, ?_⟩
  · rw [← Bool.not_eq_true]
    intro hidle
    rw [if_pos hidle] at hlast
    cases hlast
    simp [hfile] at hdir
  · intro h
    subst h
    have hidle : Path.isIdle ".." = false := by decide
    simp only [hidle, Bool.false_eq_true, if_false, if_true, Except.ok.injEq] at hlast
    have hparent := tree.parent hdir
    rw [hlast, hfile] at hparent
    cases hparent

theorem IsTree.write_eq_self {fs : FileSystem} (tree : fs.IsTree) {path : Path}
    {content : ByteArray} (h : fs.read path = .ok content) : fs.write path content = .ok fs := by
  obtain ⟨place, hres, hfile⟩ := read_eq_ok.1 h
  have hd : fs.destination path = .ok place :=
    destination_eq_ok.2 ⟨tree.endsInName h, hres, by simp [hfile]⟩
  exact write_eq_ok.2 ⟨place, hd, (put_eq_self (ne_nil_of_destination hd) hfile).symm⟩

end ErrorTable.FileSystem
