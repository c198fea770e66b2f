/-
Definition files read segment by segment.

The lines of a text are not quite the segments between its line feeds: a line loses the
carriage return at its end, and an empty segment behind the last line feed is no line. None
of that can be seen in a definition. Each line is trimmed before it is classified, and an
empty one says nothing, so the segments give the same definition (`parse_eq_segments`) and the
same numbers of unrecognized lines (`unrecognizedLines_eq_segments`) as the lines do.

Segments are easy to cut: those of two texts with a line feed between them are the segments of
the first and then those of the second (`segments_append`). So is a definition, wherever the
cut falls (`parse_append`).
-/
import ErrorTable.Proofs.Parsing
import Mathlib.Data.List.DropRight

namespace ErrorTable

/-- The text is empty or ends with something else than a blank. -/
def Line.EndsSolid (cs : List Char) : Prop :=
  ∀ c ∈ cs.getLast?, Text.isBlank c = false

/-! ## Trimming -/

namespace Text

open Line (StartsSolid EndsSolid)

theorem startsSolid_trim (cs : List Char) : StartsSolid (trim cs) := by
  intro c hc
  obtain ⟨rest, hrest⟩ : trim cs <+: trimStart cs := List.rdropWhile_prefix isBlank _
  have hhead : (trimStart cs).head? = some c := by
    rw [← hrest, List.head?_append, Option.mem_def.1 hc]
    rfl
  exact Line.head_dropWhile c hhead

theorem endsSolid_trim (cs : List Char) : EndsSolid (trim cs) := by
  intro c hc
  rw [trim, trimEnd, List.getLast?_reverse] at hc
  exact Line.head_dropWhile c hc

/-- A text is trimmed if there is a blank at neither end. -/
theorem trim_eq_self_iff {cs : List Char} : trim cs = cs ↔ StartsSolid cs ∧ EndsSolid cs := by
  constructor
  · intro h
    rw [← h]
    exact ⟨startsSolid_trim cs, endsSolid_trim cs⟩
  · intro h
    obtain ⟨hstart, hend⟩ := h
    have htrimStart : trimStart cs = cs := Line.dropWhile_span (w := []) (by simp) hstart
    have htrimEnd : cs.reverse.dropWhile isBlank = cs.reverse := by
      refine Line.dropWhile_span (w := []) (r := cs.reverse) (by simp) fun c hc => hend c ?_
      rwa [List.head?_reverse] at hc
    rw [trim, htrimStart, trimEnd, htrimEnd, List.reverse_reverse]

@[simp] theorem trim_trim (cs : List Char) : trim (trim cs) = trim cs :=
  trim_eq_self_iff.2 ⟨startsSolid_trim cs, endsSolid_trim cs⟩

theorem trim_blanks_append {blanks : List Char} (h : ∀ c ∈ blanks, isBlank c = true)
    (cs : List Char) : trim (blanks ++ cs) = trim cs := by
  rw [trim, trimStart, List.dropWhile_append_of_pos h]
  rfl

theorem trimEnd_append_blanks {blanks : List Char} (h : ∀ c ∈ blanks, isBlank c = true)
    (cs : List Char) : trimEnd (cs ++ blanks) = trimEnd cs := by
  have hreverse : ∀ c ∈ blanks.reverse, isBlank c = true :=
    fun c hc => h c (List.mem_reverse.1 hc)
  rw [trimEnd, List.reverse_append, List.dropWhile_append_of_pos hreverse]
  rfl

theorem trim_append_blanks {blanks : List Char} (h : ∀ c ∈ blanks, isBlank c = true)
    (cs : List Char) : trim (cs ++ blanks) = trim cs := by
  rw [trim, trimStart, List.dropWhile_append]
  split
  · -- The text in front is blank too, so nothing is left of either.
    next hempty =>
    have hcs : trimStart cs = [] := List.isEmpty_iff.1 hempty
    rw [List.dropWhile_eq_nil_iff.2 h, trim, hcs]
  · exact trimEnd_append_blanks h _

theorem trim_eq_nil_iff {cs : List Char} : trim cs = [] ↔ ∀ c ∈ cs, isBlank c = true := by
  constructor
  · intro h
    rw [trim, trimEnd, List.reverse_eq_nil_iff, List.dropWhile_eq_nil_iff] at h
    -- What is left in front is all blank, but does not start with a blank.
    have hstart : trimStart cs = [] := by
      cases hcs : trimStart cs with
      | nil => rfl
      | cons c rest =>
        have hhead : (cs.dropWhile isBlank).head? = some c := by
          rw [← trimStart, hcs]
          rfl
        have hsolid := Line.head_dropWhile c hhead
        rw [h c (by simp [hcs])] at hsolid
        cases hsolid
    exact List.dropWhile_eq_nil_iff.1 hstart
  · intro h
    exact trim_append_blanks h []

theorem trim_dropReturn (cs : List Char) : trim (dropReturn cs) = trim cs := by
  unfold dropReturn
  split
  · next hlast =>
    obtain ⟨before, rfl⟩ := List.getLast?_eq_some_iff.1 hlast
    have hreturn : ∀ c ∈ ['\r'], isBlank c = true := List.forall_mem_singleton.2 (by decide)
    rw [List.dropLast_concat, trim_append_blanks hreturn]
  · rfl

end Text

/-! ## Segments and lines -/

namespace Line

/-- How a line is classified depends on its trimmed text only. -/
theorem classify_of_trim_eq {a b : String} (h : Text.trim a.toList = Text.trim b.toList) :
    classify a = classify b := by
  simp only [classify, h]

theorem classify_empty : classify "" = .ignored := by decide +kernel

theorem isBlank_iff_trim {line : String} : isBlank line = true ↔ Text.trim line.toList = [] := by
  rw [isBlank, List.all_eq_true, Text.trim_eq_nil_iff]

theorem classify_of_isBlank {line : String} (h : isBlank line = true) :
    classify line = .ignored := by
  rw [← classify_empty]
  exact classify_of_trim_eq (isBlank_iff_trim.1 h)

theorem isUnrecognized_of_trim_eq {a b : String} (h : Text.trim a.toList = Text.trim b.toList) :
    isUnrecognized a = isUnrecognized b := by
  have hblank : isBlank a = isBlank b := by
    rw [Bool.eq_iff_iff, isBlank_iff_trim, isBlank_iff_trim, h]
  rw [isUnrecognized, isUnrecognized, classify_of_trim_eq h, hblank]

end Line

/-- What is collected from the numbered lines of a text can as well be collected from its
segments, if it depends on trimmed texts only and an empty one gives nothing. -/
theorem Text.filterMap_lines {β : Type} {f : List Char × Nat → Option β}
    (htrim : ∀ {a b : List Char} (n : Nat), trim a = trim b → f (a, n) = f (b, n))
    (hempty : ∀ n, f ([], n) = none) (cs : List Char) (start : Nat) :
    ((lines cs).zipIdx start).filterMap f = ((cs.splitOn '\n').zipIdx start).filterMap f := by
  obtain ⟨before, last, hcut⟩ : ∃ before last, cs.splitOn '\n' = before ++ [last] :=
    ⟨_, _, (List.dropLast_concat_getLast (List.splitOn_ne_nil '\n' cs)).symm⟩
  have hreturn : f ∘ Prod.map dropReturn id = f := by
    funext ⟨line, n⟩
    exact htrim n (trim_dropReturn line)
  have hlast : ((if last = [] then [] else [last]).zipIdx (start + before.length)).filterMap f =
      ([last].zipIdx (start + before.length)).filterMap f := by
    split
    · next h => simp [h, hempty]
    · rfl
  rw [lines, hcut]
  simp only [List.dropLast_concat, List.getLastD_concat, List.zipIdx_append, List.zipIdx_map,
    List.length_map, List.filterMap_append, List.filterMap_map, hreturn, hlast]

namespace Definition

/-- The segments of a definition file, between one line feed and the next. -/
def segments (content : String) : List String :=
  ((Text.dropMark content.toList).splitOn '\n').map String.ofList

theorem filterMap_zipIdx_lines {β : Type} {f : String × Nat → Option β}
    (htrim : ∀ {a b : String} (n : Nat), Text.trim a.toList = Text.trim b.toList →
      f (a, n) = f (b, n))
    (hempty : ∀ n, f ("", n) = none) (content : String) (start : Nat) :
    ((lines content).zipIdx start).filterMap f = ((segments content).zipIdx start).filterMap f := by
  simp only [lines, segments, List.zipIdx_map, List.filterMap_map]
  refine Text.filterMap_lines (fun n h => htrim n ?_) hempty _ start
  simpa using h

/-- What is collected from the classified lines of a definition file, if nothing is collected
from those that are ignored. -/
theorem filterMap_classify_lines {β : Type} {f : Line → Option β} (hignored : f .ignored = none)
    (content : String) :
    ((lines content).map Line.classify).filterMap f =
      ((segments content).map Line.classify).filterMap f := by
  have hnumbers : ∀ ls : List String, (ls.map Line.classify).filterMap f =
      ls.zipIdx.filterMap fun line => f (Line.classify line.1) := by
    intro ls
    rw [← List.zipIdx_map_fst 0 ls, List.filterMap_map, List.filterMap_map, List.zipIdx_map_fst]
    rfl
  rw [hnumbers, hnumbers]
  exact filterMap_zipIdx_lines (fun _ h => by rw [Line.classify_of_trim_eq h])
    (fun _ => by rw [Line.classify_empty, hignored]) content 0

/-- **A definition file read segment by segment** says the same. -/
theorem parse_eq_segments (content : String) :
    parse content = ofLines ((segments content).map Line.classify) := by
  have hentries : (parse content).entries =
      (ofLines ((segments content).map Line.classify)).entries :=
    filterMap_classify_lines rfl content
  have hdirectives : (parse content).directives =
      (ofLines ((segments content).map Line.classify)).directives := by
    apply Directives.ext_get?
    intro key
    rw [parse, get?_ofLines, get?_ofLines, filterMap_classify_lines rfl]
  calc parse content = ⟨(parse content).directives, (parse content).entries⟩ := rfl
    _ = _ := by rw [hdirectives, hentries]

theorem unrecognizedLines_eq_segments (content : String) :
    unrecognizedLines content = ((segments content).zipIdx 1).filterMap fun (line, number) =>
      if Line.isUnrecognized line then some number else none := by
  have hempty : Line.isUnrecognized "" = false := by decide +kernel
  refine filterMap_zipIdx_lines (fun n h => ?_) (fun n => ?_) content 1
  · simp only [Line.isUnrecognized_of_trim_eq h]
  · simp [hempty]

/-! ## Two definition files in a row -/

theorem dropMark_eq_self {cs : List Char} (h : cs.head? ≠ some Text.byteOrderMark) :
    Text.dropMark cs = cs := by
  cases cs with
  | nil => rfl
  | cons c cs =>
    have hne : c ≠ Text.byteOrderMark := by simpa using h
    simp [Text.dropMark, hne]

theorem segments_append (a : String) {b : String} (h : b.toList.head? ≠ some Text.byteOrderMark) :
    segments (a ++ "\n" ++ b) = segments a ++ segments b := by
  have ha : Text.dropMark (a.toList ++ '\n' :: b.toList) =
      Text.dropMark a.toList ++ '\n' :: b.toList := by
    cases a.toList with
    | nil => rfl
    | cons c cs =>
      simp only [List.cons_append, Text.dropMark]
      split <;> rfl
  have htext : (a ++ "\n" ++ b).toList = a.toList ++ '\n' :: b.toList := by
    simp
  rw [segments, htext, ha, List.splitOn_append_cons_self, List.map_append, segments, segments,
    dropMark_eq_self h]

/-- Lines that hold no line feed are the segments of the text made of them, and behind the last
line feed there is an empty one. -/
theorem segments_unlines {ls : List String} (hnewline : ∀ l ∈ ls, '\n' ∉ l.toList)
    (hmark : (Text.unlines ls).toList.head? ≠ some Text.byteOrderMark) :
    segments (Text.unlines ls) = ls ++ [""] := by
  rw [segments, dropMark_eq_self hmark, Text.splitOn_unlines hnewline]
  simp [Function.comp_def]

/-- There is one segment more than there are line feeds. -/
theorem length_segments (content : String) :
    (segments content).length = content.toList.count '\n' + 1 := by
  have hsplit : ∀ cs : List Char, (cs.splitOn '\n').length = cs.count '\n' + 1 := by
    intro cs
    induction cs with
    | nil => rfl
    | cons c cs ih =>
      rw [List.splitOn_cons_eq_if_modifyHead, List.count_cons]
      split <;> simp [ih]
  have hmark : (Text.dropMark content.toList).count '\n' = content.toList.count '\n' := by
    cases content.toList with
    | nil => rfl
    | cons c cs =>
      simp only [Text.dropMark]
      split
      · next hc => simp [hc, Text.byteOrderMark]
      · rfl
  rw [segments, List.length_map, hsplit, hmark]

theorem get?_ofLines_append (before after : List Line) (key : DirectiveKey) :
    (ofLines (before ++ after)).directives.get? key =
      ((ofLines after).directives.get? key).or ((ofLines before).directives.get? key) := by
  simp only [get?_ofLines, List.filterMap_append, List.getLast?_append]

theorem unrecognizedLines_append (a : String) {b : String}
    (h : b.toList.head? ≠ some Text.byteOrderMark) :
    unrecognizedLines (a ++ "\n" ++ b) =
      unrecognizedLines a ++ (unrecognizedLines b).map (· + (a.toList.count '\n' + 1)) := by
  have hshift : (segments b).zipIdx (1 + (segments a).length) =
      ((segments b).zipIdx 1).map (Prod.map id (· + (a.toList.count '\n' + 1))) := by
    rw [List.map_snd_add_zipIdx_eq_zipIdx, length_segments, Nat.add_comm]
  simp only [unrecognizedLines_eq_segments, segments_append a h, List.zipIdx_append, hshift,
    List.filterMap_append, List.filterMap_map, List.map_filterMap]
  refine congrArg _ (List.filterMap_congr fun line _ => ?_)
  simp only [Function.comp_apply, Prod.map, id_eq]
  cases Line.isUnrecognized line.1 <;> rfl

/-- **Parsing is compositional.** Of two texts with a line feed between them, the entries are
those of the first and then those of the second, a key has the value that the second sets and
otherwise the one that the first sets, and the unrecognized lines are those of the first and
then those of the second, counted on from the line feeds before them. The second text may not
start with a byte-order mark, which would be dropped from it alone. -/
theorem parse_append (a b : String) (h : b.toList.head? ≠ some Text.byteOrderMark) :
    (parse (a ++ "\n" ++ b)).entries = (parse a).entries ++ (parse b).entries ∧
    (∀ key, (parse (a ++ "\n" ++ b)).directives.get? key =
      ((parse b).directives.get? key).or ((parse a).directives.get? key)) ∧
    (unrecognizedLines (a ++ "\n" ++ b)).map Event.unrecognizedLine =
      (unrecognizedLines a).map Event.unrecognizedLine ++
        (unrecognizedLines b).map fun number =>
          Event.unrecognizedLine (number + (a.toList.count '\n' + 1)) := by
  refine ⟨?_, fun key => ?_, ?_⟩
  · simp only [parse_eq_segments, segments_append a h, List.map_append, entries_ofLines_append]
  · simp only [parse_eq_segments, segments_append a h, List.map_append, get?_ofLines_append]
  · rw [unrecognizedLines_append a h, List.map_append, List.map_map]
    rfl

/-- The seam may fall on a carriage return, and behind a byte-order mark. -/
theorem parse_append_at_return :
    let a := "\ufeffOUTPUT=x\nnoise\r"
    let b := "junk\nOUTPUT=y\nE X F m"
    b.toList.head? ≠ some Text.byteOrderMark ∧
      (parse (a ++ "\n" ++ b)).entries = [⟨"E", "X", "F", "m"⟩] ∧
      (parse (a ++ "\n" ++ b)).directives.get? .output = some "y" ∧
      (unrecognizedLines (a ++ "\n" ++ b)).map Event.unrecognizedLine =
        [.unrecognizedLine 2, .unrecognizedLine 3] := by
  intro a b
  have hb : b.toList.head? ≠ some Text.byteOrderMark := by decide +kernel
  obtain ⟨hentries, hget, hnumbers⟩ := parse_append a b hb
  refine ⟨hb, hentries.trans ?_, (hget .output).trans ?_, hnumbers.trans ?_⟩
  · decide +kernel
  · decide +kernel
  · decide +kernel

end Definition

end ErrorTable
