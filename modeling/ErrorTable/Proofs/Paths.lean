/-
Paths as texts: their pieces, their directories and how they are joined.

A path is determined by its pieces, and pieces are found again in the path that is made of
them (`pieces_ofPieces`). The directory of a path is made of the pieces before the last one that
leads anywhere (`dir_cases`), so its text is where the path starts unless it is the current
directory (`isPrefix_dir`). Joining puts the pieces of a relative target behind those of the
directory (`pieces_join`).
-/
import ErrorTable.Proofs.Access
import Mathlib.Data.List.DropRight
import Mathlib.Data.List.Induction

namespace ErrorTable.Path

/-! ## Pieces -/

theorem slash_notMem_of_mem_pieces {path : Path} {piece : String} (h : piece ∈ path.pieces) :
    '/' ∉ piece.toList := by
  have hsplit : ∀ cs : List Char, ∀ part ∈ cs.splitOn '/', '/' ∉ part := by
    intro cs
    induction cs with
    | nil => simp
    | cons c cs ih =>
      rw [List.splitOn_cons_eq_if_modifyHead]
      obtain ⟨first, rest, hcut⟩ := List.exists_cons_of_ne_nil (List.splitOn_ne_nil '/' cs)
      rw [hcut] at ih ⊢
      obtain ⟨hfirst, hrest⟩ := List.forall_mem_cons.1 ih
      split
      · simpa using ⟨hfirst, hrest⟩
      · next hc =>
        have hne : '/' ≠ c := fun h => hc (by simp [← h])
        simpa [hne] using ⟨hfirst, hrest⟩
  obtain ⟨part, hpart, rfl⟩ := List.mem_map.1 h
  rw [String.toList_ofList]
  exact hsplit _ part hpart

theorem toList_ofPieces (ps : List String) :
    (ofPieces ps).text.toList = ['/'].intercalate (ps.map String.toList) := by
  simp [ofPieces, String.toList_intercalate]

/-- Pieces without slashes are found again in the path made of them. -/
theorem pieces_ofPieces {ps : List String} (hne : ps ≠ []) (h : ∀ p ∈ ps, '/' ∉ p.toList) :
    (ofPieces ps).pieces = ps := by
  rw [pieces, toList_ofPieces, List.splitOn_intercalate, List.map_map]
  · simp [Function.comp_def]
  · simpa using h
  · simpa using hne

theorem isPrefix_ofPieces {before : List String} (h : before ≠ []) (after : List String) :
    (ofPieces before).text.toList <+: (ofPieces (before ++ after)).text.toList := by
  induction after using List.reverseRecOn with
  | nil => simp
  | append_singleton after last ih =>
    refine ih.trans ?_
    have hconcat : (ofPieces (before ++ (after ++ [last]))).text.toList =
        (ofPieces (before ++ after)).text.toList ++ (['/'] ++ last.toList) := by
      rw [← List.append_assoc, toList_ofPieces, toList_ofPieces, List.map_append,
        List.map_singleton, intercalate_concat (by simp [h]), List.append_assoc]
    rw [hconcat]
    exact List.prefix_append _ _

/-- A path is absolute if its first piece is empty and not all of it. -/
theorem isAbsolute_iff {path : Path} {first : String} {rest : List String}
    (h : path.pieces = first :: rest) : path.isAbsolute = true ↔ first = "" ∧ rest ≠ [] := by
  have hslash : '/' ∉ first.toList := slash_notMem_of_mem_pieces (by rw [h]; simp)
  rw [← ofPieces_pieces path, h, isAbsolute, toList_ofPieces, decide_eq_true_eq,
    ← String.toList_eq_nil_iff]
  cases rest with
  | nil =>
    simp only [List.map_singleton, List.intercalate_singleton, ne_eq, not_true, and_false,
      iff_false]
    exact fun hhead => hslash (List.mem_of_mem_head? hhead)
  | cons second rest =>
    simp only [List.map_cons, List.intercalate_cons_cons, List.head?_append]
    cases hcs : first.toList with
    | nil => simp
    | cons c cs =>
      have hc : ¬c = '/' := by
        intro h
        simp [hcs, h] at hslash
      simp [hc]

theorem text_ne_empty_of_pieces {path : Path} {first : String} {rest : List String}
    (h : path.pieces = first :: rest) (hne : first ≠ "" ∨ rest ≠ []) : path.text ≠ "" := by
  intro hempty
  have hone : path.pieces = [""] := by
    rw [pieces, hempty]
    rfl
  obtain ⟨hfirst, hrest⟩ := List.cons_eq_cons.1 (h.symm.trans hone)
  exact hne.elim (· hfirst) (· hrest)

theorem pieces_current : current.pieces = ["."] := by decide +kernel

theorem pieces_root : root.pieces = ["", ""] := by decide +kernel

/-! ## The directory of a path -/

theorem dropIdle_concat_of_not_idle (pieces : List String) {name : String}
    (h : isIdle name = false) : dropIdle (pieces ++ [name]) = pieces ++ [name] := by
  rw [dropIdle, List.reverse_append, List.reverse_singleton, List.singleton_append,
    List.dropWhile_cons_of_neg (by simp [h]), List.reverse_cons, List.reverse_reverse]

theorem isPrefix_dropIdle (pieces : List String) : dropIdle pieces <+: pieces :=
  List.rdropWhile_prefix isIdle pieces

theorem dropIdle_append_idle (pieces : List String) {tail : List String}
    (h : ∀ piece ∈ tail, isIdle piece = true) : dropIdle (pieces ++ tail) = dropIdle pieces := by
  rw [dropIdle, List.reverse_append, List.dropWhile_append_of_pos (by simpa using h)]
  rfl

/-- The directory of a path, by the last piece that leads anywhere. If there is no piece before
it, it is the current directory. Otherwise it has the first piece and those behind it, up to the
last but one that leads anywhere; only for the root that would be no path. -/
theorem dir_cases {path : Path} {above tail : List String} {name : String}
    (hpieces : path.pieces = above ++ name :: tail) (hidle : isIdle name = false)
    (htail : ∀ piece ∈ tail, isIdle piece = true) :
    (above = [] ∧ path.dir = current) ∨
      (∃ mid, above = "" :: mid ∧ dropIdle mid = [] ∧ path.dir = root) ∨
      ∃ first mid, above = first :: mid ∧ (first ≠ "" ∨ dropIdle mid ≠ []) ∧
        path.dir.pieces = first :: dropIdle mid := by
  cases above with
  | nil =>
    refine .inl ⟨rfl, ?_⟩
    have hdrop : dropIdle tail = [] := dropIdle_append_idle [] htail
    simp [dir, hpieces, hdrop]
  | cons first mid =>
    right
    have hdrop : dropIdle (mid ++ name :: tail) = mid ++ [name] := by
      rw [List.append_cons, dropIdle_append_idle _ htail, dropIdle_concat_of_not_idle mid hidle]
    have hdir : path.dir =
        if first = "" ∧ dropIdle mid = [] then root else ofPieces (first :: dropIdle mid) := by
      rw [dir, hpieces, List.cons_append]
      simp only [hdrop]
      obtain ⟨second, rest, hrest⟩ := List.exists_cons_of_ne_nil (l := mid ++ [name]) (by simp)
      have hlast : (second :: rest).dropLast = mid := by rw [← hrest, List.dropLast_concat]
      simp only [hrest, hlast]
      cases dropIdle mid <;> simp [ofPieces]
    split at hdir
    · next hroot =>
      obtain ⟨rfl, hmid⟩ := hroot
      exact .inl ⟨mid, rfl, hmid, hdir⟩
    · next hne =>
      refine .inr ⟨first, mid, rfl, not_and_or.1 hne, ?_⟩
      rw [hdir, pieces_ofPieces (by simp)]
      intro piece hpiece
      have hmem : piece ∈ path.pieces := by
        rw [hpieces, List.cons_append, List.mem_cons]
        exact (List.mem_cons.1 hpiece).imp_right fun hmem =>
          List.mem_append_left _ ((isPrefix_dropIdle mid).mem hmem)
      exact slash_notMem_of_mem_pieces hmem

/-- A path whose pieces another path starts with is where the text of that path starts. -/
theorem isPrefix_of_pieces {before path : Path} (h : before.pieces <+: path.pieces) :
    before.text.toList <+: path.text.toList := by
  obtain ⟨tail, htail⟩ := h
  have hstart := isPrefix_ofPieces before.pieces_ne_nil tail
  rwa [htail, ofPieces_pieces, ofPieces_pieces] at hstart

theorem isPrefix_root {path : Path} (h : path.isAbsolute = true) :
    root.text.toList <+: path.text.toList := by
  obtain ⟨rest, hrest⟩ := List.head?_eq_some_iff.1 (of_decide_eq_true h)
  exact ⟨rest, hrest.symm⟩

/-- The directory of a path is where its text starts, unless it is the current directory. -/
theorem isPrefix_dir {path : Path} (h : path.EndsInName) :
    path.dir.text ≠ "" ∧ (path.dir = current ∨ path.dir.text.toList <+: path.text.toList) := by
  obtain ⟨above, name, hpieces, hidle, -⟩ := h
  rcases dir_cases hpieces hidle (List.forall_mem_nil _) with
    ⟨-, hdir⟩ | ⟨mid, rfl, -, hdir⟩ | ⟨first, mid, rfl, hne, hdir⟩
  · rw [hdir]
    exact ⟨by decide, .inl rfl⟩
  · rw [hdir]
    exact ⟨by decide, .inr (isPrefix_root ((isAbsolute_iff hpieces).2 ⟨rfl, by simp⟩))⟩
  · refine ⟨text_ne_empty_of_pieces hdir hne, .inr (isPrefix_of_pieces ?_)⟩
    rw [hdir, hpieces, List.cons_append]
    exact (List.prefix_cons_inj _).2 ((isPrefix_dropIdle mid).trans (List.prefix_append _ _))

/-! ## Joined paths -/

/-- A relative target is put behind a directory with at most one slash between them. -/
theorem text_join {dir target : Path} (hrel : target.isAbsolute = false) :
    (dir.join target).text =
      dir.text ++ (if dir.text = "" || dir.endsInSlash then "" else "/") ++ target.text := by
  rw [join, if_neg (by simp [hrel])]
  split <;> simp

theorem isAbsolute_join {dir target : Path} (hne : dir.text ≠ "")
    (hrel : target.isAbsolute = false) : (dir.join target).isAbsolute = dir.isAbsolute := by
  obtain ⟨c, cs, hcs⟩ : ∃ c cs, dir.text.toList = c :: cs :=
    List.exists_cons_of_ne_nil fun hnil => hne (String.toList_eq_nil_iff.1 hnil)
  simp only [isAbsolute, text_join hrel, String.toList_append, hcs, List.cons_append,
    List.head?_cons]

/-- The pieces of a joined path are those of the directory, but for an empty one at its end,
and those of the target. -/
theorem pieces_join {dir target : Path} (hne : dir.text ≠ "")
    (hrel : target.isAbsolute = false) :
    ∃ before, (dir.join target).pieces = before ++ target.pieces ∧
      (dir.pieces = before ∨ dir.pieces = before ++ [""]) := by
  cases hslash : dir.endsInSlash with
  | true =>
    obtain ⟨cs, hcs⟩ := List.getLast?_eq_some_iff.1 (of_decide_eq_true hslash)
    refine ⟨(cs.splitOn '/').map String.ofList, ?_, .inr ?_⟩
    · simp [pieces, text_join hrel, hslash, hcs, List.splitOn_append_cons_self]
    · simp [pieces, hcs, List.splitOn_append_cons_self]
  | false =>
    refine ⟨dir.pieces, ?_, .inl rfl⟩
    simp [pieces, text_join hrel, hslash, hne, List.splitOn_append_cons_self]

end ErrorTable.Path
