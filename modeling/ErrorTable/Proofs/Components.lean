/-
The components of a path, and its directory.

A path is read as a sequence of components: the root if it is absolute, and then its pieces that
lead somewhere. The directory of a path drops the last of them, but it is found by cutting the
text: what stands before the last component is kept as it was written, and only slashes and dots
at its end are left out (`LeadsUpTo`). So it is the text of the path up to its last component but
one (`dir_by_components`).

Where no component would be left, the directory is the current one and not the empty text. So a
directory has a text in any case (`text_dir_ne_empty`), and a relative output stays relative
behind the directory of a relative path (`dir_drops_last`).
-/
import ErrorTable.Proofs.Paths

namespace ErrorTable.Path

/-- A component of a path. -/
inductive Component where
  | root
  | name (text : String)
  deriving DecidableEq, Repr

/-- The components that pieces stand for: a name each, but for those that lead nowhere. -/
def names (pieces : List String) : List Component :=
  (pieces.filter fun piece => !isIdle piece).map .name

/-- The components of a path: the root if it is absolute, and the names among its pieces. A dot
is no name, unless it is what a relative path starts with. -/
def components (path : Path) : List Component :=
  if path.isAbsolute then .root :: names path.pieces
  else if path.pieces.head? = some "." then .name "." :: names path.pieces
  else names path.pieces

/-- The path ends in neither a slash nor a slash and a dot, unless it is the root. -/
def EndsTidy (path : Path) : Prop :=
  path = root ∨ ¬['/'] <:+ path.text.toList ∧ ¬['/', '.'] <:+ path.text.toList

/-! ## Components -/

@[simp] theorem names_append (before after : List String) :
    names (before ++ after) = names before ++ names after := by
  simp [names]

theorem names_of_idle {pieces : List String} (h : ∀ piece ∈ pieces, isIdle piece = true) :
    names pieces = [] := by
  simpa [names] using h

theorem names_cons_of_not_idle {name : String} (h : isIdle name = false) (pieces : List String) :
    names (name :: pieces) = .name name :: names pieces := by
  simp [names, h]

theorem exists_name_of_mem_names {pieces : List String} {c : Component} (h : c ∈ names pieces) :
    ∃ name, c = .name name := by
  obtain ⟨piece, -, rfl⟩ := List.mem_map.1 h
  exact ⟨piece, rfl⟩

/-- Pieces at the end that lead nowhere are no components. -/
@[simp] theorem names_dropIdle (pieces : List String) : names (dropIdle pieces) = names pieces := by
  induction pieces using List.reverseRecOn with
  | nil => rfl
  | append_singleton pieces piece ih =>
    cases hidle : isIdle piece with
    | false => rw [dropIdle_concat_of_not_idle pieces hidle]
    | true =>
      have hpiece : ∀ p ∈ [piece], isIdle p = true := List.forall_mem_singleton.2 hidle
      rw [dropIdle_append_idle pieces hpiece, ih, names_append, names_of_idle hpiece,
        List.append_nil]

theorem start_cases (path : Path) :
    path.text = "" ∨ (∃ rest, rest ≠ [] ∧ path.pieces = "" :: rest) ∨
      ∃ first rest, first ≠ "" ∧ path.pieces = first :: rest := by
  obtain ⟨first, rest, hpieces⟩ := List.exists_cons_of_ne_nil path.pieces_ne_nil
  by_cases hfirst : first = ""
  · subst hfirst
    by_cases hrest : rest = []
    · subst hrest
      left
      rw [← ofPieces_pieces path, hpieces]
      rfl
    · exact .inr (.inl ⟨rest, hrest, hpieces⟩)
  · exact .inr (.inr ⟨first, rest, hfirst, hpieces⟩)

theorem components_of_absolute {path : Path} {rest : List String} (h : path.pieces = "" :: rest)
    (hrest : rest ≠ []) : path.components = .root :: names rest := by
  have habs : path.isAbsolute = true := (isAbsolute_iff h).2 ⟨rfl, hrest⟩
  rw [components, if_pos habs, h]
  rfl

theorem components_of_relative {path : Path} {first : String} {rest : List String}
    (h : path.pieces = first :: rest) (hfirst : first ≠ "") :
    path.components = .name first :: names rest := by
  have hrel : ¬path.isAbsolute = true := fun habs => hfirst ((isAbsolute_iff h).1 habs).1
  rw [components, if_neg hrel, h]
  by_cases hdot : first = "."
  · subst hdot
    rfl
  · have hname : isIdle first = false := by simp [isIdle, hfirst, hdot]
    rw [if_neg (by simpa using hdot), names_cons_of_not_idle hname]

theorem components_of_empty {path : Path} (h : path.text = "") : path.components = [] := by
  obtain ⟨text⟩ := path
  cases h
  decide +kernel

theorem components_root : root.components = [.root] :=
  components_of_absolute pieces_root (by simp)

theorem isAbsolute_iff_head {path : Path} :
    path.isAbsolute = true ↔ path.components.head? = some .root := by
  rcases start_cases path with hempty | ⟨rest, hrest, hpieces⟩ | ⟨first, rest, hfirst, hpieces⟩
  · simp [components_of_empty hempty, isAbsolute, hempty]
  · simp [components_of_absolute hpieces hrest, isAbsolute_iff hpieces, hrest]
  · simp [components_of_relative hpieces hfirst, isAbsolute_iff hpieces, hfirst]

theorem components_eq_nil_iff {path : Path} : path.components = [] ↔ path.text = "" := by
  constructor
  · intro h
    rcases start_cases path with hempty | ⟨rest, hrest, hpieces⟩ | ⟨first, rest, hfirst, hpieces⟩
    · exact hempty
    · rw [components_of_absolute hpieces hrest] at h
      cases h
    · rw [components_of_relative hpieces hfirst] at h
      cases h
  · exact components_of_empty

/-- No component is left without the last one if the path is empty, or only a root, or only a
name. -/
theorem dropLast_components_eq_nil_iff {path : Path} :
    path.components.dropLast = [] ↔
      path.text = "" ∨ path.components = [.root] ∨ ∃ name, path.components = [.name name] := by
  rw [← components_eq_nil_iff]
  cases path.components with
  | nil => simp
  | cons first rest =>
    cases rest with
    | nil => cases first <;> simp
    | cons => simp

theorem exists_name_iff {path : Path} (h : path.isAbsolute = true) :
    (∃ name, .name name ∈ path.components) ↔ path.components.dropLast ≠ [] := by
  obtain ⟨rest, hcomponents⟩ : ∃ rest, path.components = .root :: names rest := by
    rw [components, if_pos h]
    exact ⟨_, rfl⟩
  rw [hcomponents]
  constructor
  · intro hname
    obtain ⟨name, hmem⟩ := hname
    have hmem : .name name ∈ names rest := by simpa using hmem
    rw [List.dropLast_cons_of_ne_nil (List.ne_nil_of_mem hmem)]
    exact List.cons_ne_nil _ _
  · intro hdrop
    have hne : names rest ≠ [] := by
      intro hnil
      simp [hnil] at hdrop
    obtain ⟨c, hmem⟩ := List.exists_mem_of_ne_nil _ hne
    obtain ⟨name, rfl⟩ := exists_name_of_mem_names hmem
    exact ⟨name, List.mem_cons_of_mem _ hmem⟩

/-! ## Where a path ends -/

theorem pieces_of_suffix {path : Path} {last : List Char} (hslash : '/' ∉ last)
    (h : '/' :: last <:+ path.text.toList) :
    ∃ before, before ≠ [] ∧ path.pieces = before ++ [String.ofList last] := by
  obtain ⟨front, hfront⟩ := h
  refine ⟨(front.splitOn '/').map String.ofList, by simp [List.splitOn_ne_nil], ?_⟩
  rw [pieces, ← hfront, List.splitOn_append_cons_self, List.splitOn_eq_singleton hslash,
    List.map_append, List.map_singleton]

theorem not_idle_of_dropIdle {pieces before : List String} {last : String}
    (h : dropIdle pieces = before ++ [last]) : isIdle last = false := by
  have hne : dropIdle pieces ≠ [] := by simp [h]
  have hlast : ¬isIdle ((dropIdle pieces).getLast hne) = true :=
    List.rdropWhile_last_not isIdle pieces hne
  simpa [h] using hlast

theorem endsTidy_of_pieces {path : Path} {first : String} {mid : List String}
    (h : path.pieces = first :: dropIdle mid) : path.EndsTidy := by
  have hlast : ∀ last, isIdle (String.ofList last) = true → '/' ∉ last →
      ¬ '/' :: last <:+ path.text.toList := by
    intro last hidle hslash hsuffix
    obtain ⟨before, hbefore, hpieces⟩ := pieces_of_suffix hslash hsuffix
    obtain ⟨front, before, rfl⟩ := List.exists_cons_of_ne_nil hbefore
    obtain ⟨-, hmid⟩ := List.cons_eq_cons.1 (h.symm.trans hpieces)
    rw [not_idle_of_dropIdle hmid] at hidle
    cases hidle
  exact .inr ⟨hlast [] (by decide) (by simp), hlast ['.'] (by decide) (by simp)⟩

/-! ## The directory of a path -/

/-- A path leads up to the last component of another one: it is where the text of that one starts,
it has all of its components but the last, and nothing idle stands at its end. -/
structure LeadsUpTo (above path : Path) : Prop where
  isPrefix : above.text.toList <+: path.text.toList
  components : above.components = path.components.dropLast
  endsTidy : above.EndsTidy

theorem idle_or_last (pieces : List String) :
    (∀ piece ∈ pieces, isIdle piece = true) ∨
      ∃ above name tail, pieces = above ++ name :: tail ∧ isIdle name = false ∧
        ∀ piece ∈ tail, isIdle piece = true := by
  induction pieces using List.reverseRecOn with
  | nil => exact .inl (List.forall_mem_nil _)
  | append_singleton pieces piece ih =>
    cases hidle : isIdle piece with
    | false => exact .inr ⟨pieces, piece, [], rfl, hidle, List.forall_mem_nil _⟩
    | true =>
      have hpiece : ∀ p ∈ [piece], isIdle p = true := List.forall_mem_singleton.2 hidle
      rcases ih with hall | ⟨above, name, tail, rfl, hname, htail⟩
      · exact .inl (List.forall_mem_append.2 ⟨hall, hpiece⟩)
      · exact .inr ⟨above, name, tail ++ [piece], by simp, hname,
          List.forall_mem_append.2 ⟨htail, hpiece⟩⟩

/-- A path of which no piece leads anywhere has one component at most. -/
theorem dir_of_idle {path : Path} (h : ∀ piece ∈ path.pieces, isIdle piece = true) :
    path.components.dropLast = [] ∧ path.dir = current := by
  constructor
  · rcases start_cases path with hempty | ⟨rest, hrest, hpieces⟩ | ⟨first, rest, hfirst, hpieces⟩
    · rw [components_of_empty hempty]
      rfl
    · rw [hpieces, List.forall_mem_cons] at h
      rw [components_of_absolute hpieces hrest, names_of_idle h.2]
      rfl
    · rw [hpieces, List.forall_mem_cons] at h
      rw [components_of_relative hpieces hfirst, names_of_idle h.2]
      rfl
  · obtain ⟨first, rest, hpieces⟩ := List.exists_cons_of_ne_nil path.pieces_ne_nil
    rw [hpieces, List.forall_mem_cons] at h
    have hdrop : dropIdle rest = [] := dropIdle_append_idle [] h.2
    simp [dir, hpieces, hdrop]

section LastName

variable {path : Path} {first name : String} {mid tail : List String}

theorem names_last (hname : isIdle name = false) (htail : ∀ piece ∈ tail, isIdle piece = true)
    (mid : List String) : names (mid ++ name :: tail) = names mid ++ [.name name] := by
  rw [names_append, names_cons_of_not_idle hname, names_of_idle htail]

/-- The root leads up to a name that only idle pieces separate from it. -/
theorem leadsUpTo_root (hpieces : path.pieces = "" :: (mid ++ name :: tail))
    (hname : isIdle name = false) (htail : ∀ piece ∈ tail, isIdle piece = true)
    (hmid : dropIdle mid = []) : root.LeadsUpTo path := by
  have hcomponents : path.components = [.root, .name name] := by
    rw [components_of_absolute hpieces (by simp), names_last hname htail, ← names_dropIdle, hmid]
    rfl
  refine ⟨isPrefix_root ((isAbsolute_iff hpieces).2 ⟨rfl, by simp⟩), ?_, .inl rfl⟩
  rw [components_root, hcomponents]
  rfl

/-- A path with the first piece of another one leads up to a name of that one if it has all the
pieces between them but the idle ones in front of the name. -/
theorem leadsUpTo_of_pieces {above : Path} (hpieces : path.pieces = first :: (mid ++ name :: tail))
    (hname : isIdle name = false) (htail : ∀ piece ∈ tail, isIdle piece = true)
    (habove : above.pieces = first :: dropIdle mid) (hne : first ≠ "" ∨ dropIdle mid ≠ []) :
    above.LeadsUpTo path := by
  have hstart : above.pieces <+: path.pieces := by
    rw [habove, hpieces]
    exact (List.prefix_cons_inj _).2 ((isPrefix_dropIdle mid).trans (List.prefix_append _ _))
  have hcomponents : path.components = above.components ++ [.name name] := by
    -- With no first piece the path starts at the root, and more has to stand between it and the
    -- name for the other one to start there too.
    by_cases hfirst : first = ""
    · subst hfirst
      have hmid : dropIdle mid ≠ [] := hne.resolve_left (not_not.2 rfl)
      rw [components_of_absolute hpieces (by simp), components_of_absolute habove hmid,
        names_last hname htail, names_dropIdle, List.cons_append]
    · rw [components_of_relative hpieces hfirst, components_of_relative habove hfirst,
        names_last hname htail, names_dropIdle, List.cons_append]
  refine ⟨isPrefix_of_pieces hstart, ?_, endsTidy_of_pieces habove⟩
  rw [hcomponents, List.dropLast_concat]

end LastName

/-- The directory of a path leads up to its last component, unless that is the only one. -/
theorem dir_by_components (path : Path) :
    (path.components.dropLast = [] ∧ path.dir = current) ∨
      (path.components.dropLast ≠ [] ∧ path.dir.LeadsUpTo path) := by
  rcases idle_or_last path.pieces with hidle | ⟨above, name, tail, hpieces, hname, htail⟩
  · exact .inl (dir_of_idle hidle)
  · rcases dir_cases hpieces hname htail with
      ⟨rfl, hdir⟩ | ⟨mid, rfl, hmid, hdir⟩ | ⟨first, mid, rfl, hne, hdir⟩
    · -- The name is the first piece and the only component.
      have hfirst : name ≠ "" := by
        rintro rfl
        cases hname
      refine .inl ⟨?_, hdir⟩
      rw [components_of_relative hpieces hfirst, names_of_idle htail]
      rfl
    · have hup := leadsUpTo_root hpieces hname htail hmid
      rw [hdir, ← hup.components, components_root]
      exact .inr ⟨by simp, hup⟩
    · have hup := leadsUpTo_of_pieces hpieces hname htail hdir hne
      refine .inr ⟨?_, hup⟩
      rw [← hup.components, ne_eq, components_eq_nil_iff]
      exact text_ne_empty_of_pieces hdir hne

theorem text_dir_ne_empty (path : Path) : path.dir.text ≠ "" := by
  rcases dir_by_components path with ⟨-, hdir⟩ | ⟨hne, hup⟩
  · rw [hdir]
    decide
  · rw [← hup.components] at hne
    exact fun hempty => hne (components_eq_nil_iff.2 hempty)

theorem isAbsolute_dir_iff {path : Path} :
    path.dir.isAbsolute = true ↔
      path.isAbsolute = true ∧ ∃ name, .name name ∈ path.components := by
  rcases dir_by_components path with ⟨hone, hdir⟩ | ⟨hne, hup⟩
  · have hrel : ¬path.dir.isAbsolute = true := by
      rw [hdir]
      decide
    refine iff_of_false hrel fun h => ?_
    obtain ⟨habs, hname⟩ := h
    exact (exists_name_iff habs).1 hname hone
  · have hlength : 1 < path.components.length := by
      have hpos := List.length_pos_iff.2 hne
      rw [List.length_dropLast] at hpos
      omega
    rw [isAbsolute_iff_head, hup.components, List.head?_dropLast, if_pos hlength,
      ← isAbsolute_iff_head]
    exact (and_iff_left_of_imp fun habs => (exists_name_iff habs).2 hne).symm

/-- **The directory of a path drops its last component.** If another one is left, the directory is
where the text of the path starts, it has just the components that are left, and neither a slash
nor a dot behind a slash stands at its end, unless it is the root. If none is left, because the
path is empty, only a root or only a name, the directory is the current one. So a directory is
never an empty text, it is absolute exactly if the path is and has a component behind the root, and
a relative target stays relative behind the directory of a relative path. -/
theorem dir_drops_last (path : Path) :
    (path.components.dropLast ≠ [] →
      path.dir.text.toList <+: path.text.toList ∧
        path.dir.components = path.components.dropLast ∧ path.dir.EndsTidy) ∧
      (path.components.dropLast = [] ↔
        path.text = "" ∨ path.components = [.root] ∨ ∃ name, path.components = [.name name]) ∧
      (path.components.dropLast = [] → path.dir = current) ∧
      path.dir.text ≠ "" ∧
      (path.dir.isAbsolute = true ↔
        path.isAbsolute = true ∧ ∃ name, .name name ∈ path.components) ∧
      ∀ target : Path, path.isAbsolute = false → target.isAbsolute = false →
        (path.dir.join target).isAbsolute = false := by
  refine ⟨fun hne => ?_, dropLast_components_eq_nil_iff, fun hone => ?_, text_dir_ne_empty path,
    isAbsolute_dir_iff, fun target hpath htarget => ?_⟩
  · obtain ⟨hone, -⟩ | ⟨-, hup⟩ := dir_by_components path
    · exact absurd hone hne
    · exact ⟨hup.isPrefix, hup.components, hup.endsTidy⟩
  · obtain ⟨-, hdir⟩ | ⟨hne, -⟩ := dir_by_components path
    · exact hdir
    · exact absurd hone hne
  · rw [isAbsolute_join (text_dir_ne_empty path) htarget, ← Bool.not_eq_true, isAbsolute_dir_iff,
      hpath]
    simp

theorem dir_drops_last_dotted :
    let path : Path := ⟨"//a/.//..//./b//."⟩
    let bare : Path := ⟨"a/.//"⟩
    path.components = [.root, .name "a", .name "..", .name "b"] ∧
      path.dir = ⟨"//a/.//.."⟩ ∧ path.dir.text.toList <+: path.text.toList ∧
      path.dir.components = [.root, .name "a", .name ".."] ∧ path.dir.EndsTidy ∧
      path.dir.isAbsolute = true ∧
      bare.components = [.name "a"] ∧ bare.dir = current ∧
      (bare.dir.join ⟨"../x"⟩).isAbsolute = false := by
  intro path bare
  have hpath : path.components = [.root, .name "a", .name "..", .name "b"] := by decide +kernel
  have hbare : bare.components = [.name "a"] := by decide +kernel
  obtain ⟨hdrops, -, -, -, habs, -⟩ := dir_drops_last path
  obtain ⟨-, -, hcurrent, -, -, hjoin⟩ := dir_drops_last bare
  rw [hpath] at hdrops habs
  rw [hbare] at hcurrent
  obtain ⟨hstart, hcomponents, htidy⟩ := hdrops (by simp)
  exact ⟨hpath, by decide +kernel, hstart, hcomponents, htidy,
    habs.2 ⟨by decide +kernel, "a", by simp⟩, hbare, hcurrent rfl,
    hjoin ⟨"../x"⟩ (by decide +kernel) (by decide +kernel)⟩

end ErrorTable.Path
