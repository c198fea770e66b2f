/-
Every line of a definition file is accounted for.

A line is a directive, an entry, unrecognized or blank, and only one of these
(`Line.counted_once`), so the lines of a text are as many as these four kinds of lines together
(`Line.length_eq_countP`). Directives and entries can be found in the definition, and blank lines
say nothing. What remains is dropped, and it is dropped with a number: the numbers reported are
the places of the unrecognized lines (`mem_unrecognizedLines`), each once and in the order of the
text.

A number is of use only if it leads back to the line. It does, because the line with that number
stands behind one line feed less, whatever the line endings are (`exists_standsBehind`).
-/
import ErrorTable.Proofs.LegacyOutput

namespace ErrorTable

/-! ## Where a line stands -/

namespace Text

/-- A line stands between two parts of a text, behind the given number of line feeds. It starts
with the text or behind a line feed, and it ends with the text or in front of a line ending. -/
structure StandsBehind (feeds : Nat) (before line after : List Char) : Prop where
  feeds : before.count '\n' = feeds
  start : before = [] ∨ ['\n'] <:+ before
  noNewline : '\n' ∉ line
  stop : after = [] ∨ ['\n'] <+: after ∨ ['\r', '\n'] <+: after

theorem lines_of_newline_notMem {cs : List Char} (h : '\n' ∉ cs) :
    lines cs = if cs = [] then [] else [cs] := by
  simp [lines, List.splitOn_eq_singleton h]

theorem lines_append_newline {line : List Char} (h : '\n' ∉ line) (rest : List Char) :
    lines (line ++ '\n' :: rest) = dropReturn line :: lines rest := by
  obtain ⟨before, last, hcut⟩ : ∃ before last, rest.splitOn '\n' = before ++ [last] :=
    ⟨_, _, (List.dropLast_concat_getLast (List.splitOn_ne_nil '\n' rest)).symm⟩
  have hall : (line ++ '\n' :: rest).splitOn '\n' = (line :: before) ++ [last] := by
    rw [List.splitOn_append_cons_self, List.splitOn_eq_singleton h, hcut]
    rfl
  rw [lines, lines, hall, hcut]
  simp only [List.dropLast_concat, List.getLastD_concat]
  rfl

theorem eq_dropReturn_or (line : List Char) :
    line = dropReturn line ∨ line = dropReturn line ++ ['\r'] := by
  unfold dropReturn
  split
  · next hlast =>
    obtain ⟨before, rfl⟩ := List.getLast?_eq_some_iff.1 hlast
    exact .inr (by rw [List.dropLast_concat])
  · exact .inl rfl

/-- **A line is found behind as many line feeds** as there are lines before it. -/
theorem exists_standsBehind {cs line : List Char} {i : Nat} (h : (lines cs)[i]? = some line) :
    ∃ before after, cs = before ++ line ++ after ∧ StandsBehind i before line after := by
  induction cs using lineInduction generalizing i with
  | last cs hnewline =>
    rw [lines_of_newline_notMem hnewline] at h
    split at h
    · cases h
    · obtain ⟨rfl, rfl⟩ : i = 0 ∧ cs = line := by
        cases i with
        | zero => exact ⟨rfl, Option.some.inj h⟩
        | succ i => cases h
      exact ⟨[], [], by simp, rfl, .inl rfl, hnewline, .inl rfl⟩
  | more first rest hnewline ih =>
    rw [lines_append_newline hnewline] at h
    cases i with
    | zero =>
      cases h
      rcases eq_dropReturn_or first with hfirst | hfirst
      · rw [← hfirst]
        exact ⟨[], '\n' :: rest, rfl, rfl, .inl rfl, hnewline, .inr (.inl ⟨rest, rfl⟩)⟩
      · have hcut : first ++ '\n' :: rest = [] ++ dropReturn first ++ '\r' :: '\n' :: rest :=
          calc first ++ '\n' :: rest
            _ = (dropReturn first ++ ['\r']) ++ '\n' :: rest := by rw [← hfirst]
            _ = [] ++ dropReturn first ++ '\r' :: '\n' :: rest := by simp
        refine ⟨[], '\r' :: '\n' :: rest, hcut, rfl, .inl rfl, fun hmem => hnewline ?_,
          .inr (.inr ⟨rest, rfl⟩)⟩
        rw [hfirst]
        exact List.mem_append_left _ hmem
    | succ i =>
      obtain ⟨before, after, rfl, hat⟩ := ih h
      refine ⟨first ++ '\n' :: before, after, by simp, ?_, ?_, hat.noNewline, hat.stop⟩
      · rw [List.count_append, List.count_eq_zero_of_not_mem hnewline, List.count_cons_self,
          hat.feeds, Nat.zero_add]
      · right
        rcases hat.start with rfl | ⟨lead, rfl⟩
        · exact ⟨first, rfl⟩
        · exact ⟨first ++ '\n' :: lead, by simp⟩

end Text

/-! ## The four kinds of lines -/

namespace Line

/-- Whether a line is a directive, whatever its key. -/
def isSomeDirective (line : String) : Bool :=
  DirectiveKey.all.any fun key => isDirective key line

theorem isSomeDirective_iff {line : String} :
    isSomeDirective line = true ↔ ∃ key value, classify line = .directive key value := by
  simp only [isSomeDirective, List.any_eq_true, isDirective_iff]
  exact exists_congr fun key => and_iff_right key.mem_all

theorem isBlank_eq_false_of_classify {line : String} (h : classify line ≠ .ignored) :
    isBlank line = false := by
  cases hblank : isBlank line with
  | true => exact absurd (classify_of_isBlank hblank) h
  | false => rfl

/-- **A line counts once.** It is a directive, an entry, unrecognized or blank, and only one of
these. -/
theorem counted_once (line : String) :
    (isSomeDirective line).toNat + (isEntry line).toNat + (isUnrecognized line).toNat
      + (isBlank line).toNat = 1 := by
  cases hline : classify line with
  | directive key value =>
    have hdirective : isSomeDirective line = true := isSomeDirective_iff.2 ⟨key, value, hline⟩
    have hblank : isBlank line = false := isBlank_eq_false_of_classify (by simp [hline])
    simp [hdirective, hblank, isEntry, isUnrecognized, hline, asEntry]
  | entry row =>
    have hdirective : isSomeDirective line = false := by
      rw [← Bool.not_eq_true, isSomeDirective_iff]
      simp [hline]
    have hblank : isBlank line = false := isBlank_eq_false_of_classify (by simp [hline])
    simp [hdirective, hblank, isEntry, isUnrecognized, hline, asEntry]
  | ignored =>
    -- An ignored line is reported or blank, and which of them is decided apart.
    have hdirective : isSomeDirective line = false := by
      rw [← Bool.not_eq_true, isSomeDirective_iff]
      simp [hline]
    cases hblank : isBlank line <;>
      simp [hdirective, hblank, isEntry, isUnrecognized, hline, asEntry]

theorem length_eq_countP (ls : List String) :
    ls.length = ls.countP isSomeDirective + ls.countP isEntry + ls.countP isUnrecognized
      + ls.countP isBlank := by
  induction ls with
  | nil => rfl
  | cons line ls ih =>
    have hone : ∀ kind : Bool, (if kind = true then 1 else 0) = kind.toNat := by decide
    have hline := counted_once line
    simp only [List.length_cons, List.countP_cons, hone]
    omega

end Line

/-! ## The numbers reported -/

namespace Definition

theorem unrecognizedLines_eq_findIdxs (content : String) :
    unrecognizedLines content = (lines content).findIdxs Line.isUnrecognized 1 := by
  simp only [unrecognizedLines, List.findIdxs_eq_filterMap_zipIdx, cond_eq_ite]

theorem mem_unrecognizedLines {content : String} {number : Nat} :
    number ∈ unrecognizedLines content ↔ ∃ i line, number = i + 1 ∧
      (lines content)[i]? = some line ∧ Line.isBlank line = false ∧
        Line.classify line = .ignored := by
  rw [unrecognizedLines_eq_findIdxs, List.mem_findIdxs_iff_getElem_sub_pos]
  simp only [Line.isUnrecognized, Bool.and_eq_true, decide_eq_true_eq, Bool.not_eq_true']
  constructor
  · intro h
    obtain ⟨hpos, hi, hignored, hblank⟩ := h
    exact ⟨number - 1, _, by omega, List.getElem?_eq_getElem hi, hblank, hignored⟩
  · intro h
    obtain ⟨i, line, rfl, hline, hblank, hignored⟩ := h
    obtain ⟨hi, rfl⟩ := List.getElem?_eq_some_iff.1 hline
    exact ⟨by omega, hi, hignored, hblank⟩

theorem level_of_mem_warnings {d : Definition} {input : Path} {output : String} {event : Event}
    (h : event ∈ d.warnings input output) : event.level = .warn := by
  obtain ⟨_, rfl⟩ | rfl := eq_of_mem_warnings h
  · rfl
  · rfl

/-- The events about the lines of a definition file that are dropped. -/
def droppedEvents (content : String) : List Event :=
  (unrecognizedLines content).map .unrecognizedLine

/-- An event about a dropped line says so, and has the number of the line as a field. -/
theorem droppedEvents_say (content : String) :
    (∀ event ∈ droppedEvents content, event.message = "Ignoring unrecognized line") ∧
      (droppedEvents content).map (·.field? "line") =
        (unrecognizedLines content).map fun number => some (.number number) := by
  constructor
  · exact List.forall_mem_map.2 fun _ _ => rfl
  · rw [droppedEvents, List.map_map]
    rfl

theorem filter_trace_generate {fs : FileSystem} {input : Path} {content : String}
    (hread : fs.readText input = .ok content) :
    ((generate input).run fs).events.filter (fun event => event.level = .trace) =
      droppedEvents content := by
  have hdropped : (readEvents content input).filter (fun event => event.level = .trace) =
      droppedEvents content := by
    simp [readEvents, droppedEvents, Event.level]
  have hwarnings : ∀ output, ((parse content).warnings input output).filter
      (fun event => event.level = .trace) = [] := by
    intro output
    rw [List.filter_eq_nil_iff]
    intro event hevent
    simp [level_of_mem_warnings hevent]
  rw [run_generate, hread]
  cases houtput : (parse content).output? with
  | none => simp [houtput, hdropped]
  | some output => simp [houtput, hdropped, hwarnings output]

/-- **Every line is accounted for.** The lines of a definition file, without a byte-order mark at
its start, are as many as its directives, its entries, the events about dropped lines and its
blank lines together. The `line` fields of these events increase. They are the places, counted
from one, of the lines that are not blank and yet are ignored, and the line in a place stands
behind one line feed less than its number says. A run that reads the file reports these events on
the most detailed level and nothing else on that level. -/
theorem every_line_accounted (content : String) :
    (lines content).length =
        (lines content).countP Line.isSomeDirective + (parse content).entries.length
          + (droppedEvents content).length + (lines content).countP Line.isBlank ∧
      (∃ numbers : List Nat, droppedEvents content = numbers.map .unrecognizedLine ∧
        (∀ event ∈ droppedEvents content, event.message = "Ignoring unrecognized line") ∧
        (droppedEvents content).map (·.field? "line") =
          numbers.map (fun number => some (.number number)) ∧
        numbers.Pairwise (· < ·) ∧
        ∀ number, number ∈ numbers ↔ ∃ i line, number = i + 1 ∧ (lines content)[i]? = some line ∧
          Line.isBlank line = false ∧ Line.classify line = .ignored) ∧
      (∀ i line, (lines content)[i]? = some line →
        ∃ before after, Text.dropMark content.toList = before ++ line.toList ++ after ∧
          Text.StandsBehind i before line.toList after) ∧
      ∀ fs input, fs.readText input = .ok content →
        ((generate input).run fs).events.filter (fun event => event.level = .trace) =
          droppedEvents content := by
  obtain ⟨hmessage, hfield⟩ := droppedEvents_say content
  refine ⟨?_, ⟨_, rfl, hmessage, hfield, ?_, fun _ => mem_unrecognizedLines⟩,
    fun i line hline => ?_, fun fs input => filter_trace_generate⟩
  · rw [length_entries_parse, droppedEvents, List.length_map, unrecognizedLines_eq_findIdxs,
      List.length_findIdxs]
    exact Line.length_eq_countP _
  · rw [unrecognizedLines_eq_findIdxs]
    exact List.pairwise_findIdxs
  · rw [lines, List.getElem?_map, Option.map_eq_some_iff] at hline
    obtain ⟨cs, hcs, rfl⟩ := hline
    rw [String.toList_ofList]
    exact Text.exists_standsBehind hcs

/-- A definition file with all kinds of lines and of line endings, the last of which is open. -/
def accountedText : String := "\ufeffOUTPUT=x\r\n\u3000\n?\n\r\nE X F m\n!\r"

def accountedFiles : FileSystem where
  nodes := [(["a.in"], .file accountedText.toUTF8)]

theorem every_line_accounted_accountedText :
    (lines accountedText).length = 1 + 1 + 2 + 2 ∧
      (lines accountedText)[5]? = some "!\r" ∧
      (∃ before after, Text.dropMark accountedText.toList = before ++ "!\r".toList ++ after ∧
        Text.StandsBehind 5 before "!\r".toList after) ∧
      accountedFiles.readText ⟨"a.in"⟩ = .ok accountedText ∧
      ((generate ⟨"a.in"⟩).run accountedFiles).events.filter (fun event => event.level = .trace) =
        [.unrecognizedLine 3, .unrecognizedLine 6] := by
  have hdirectives : (lines accountedText).countP Line.isSomeDirective = 1 := by decide +kernel
  have hentries : (parse accountedText).entries = [⟨"E", "X", "F", "m"⟩] := by decide +kernel
  have hblanks : (lines accountedText).countP Line.isBlank = 2 := by decide +kernel
  have hdropped : droppedEvents accountedText = [.unrecognizedLine 3, .unrecognizedLine 6] := by
    decide +kernel
  have hlast : (lines accountedText)[5]? = some "!\r" := by decide +kernel
  have hread : accountedFiles.readText ⟨"a.in"⟩ = .ok accountedText :=
    FileSystem.readText_eq_ok.2 (FileSystem.read_eq_ok.2 ⟨["a.in"], by rfl, rfl⟩)
  obtain ⟨hlength, -, hplaces, hrun⟩ := every_line_accounted accountedText
  rw [hdirectives, hentries, hblanks, hdropped] at hlength
  rw [hdropped] at hrun
  exact ⟨hlength, hlast, hplaces 5 "!\r" hlast, hread, hrun accountedFiles ⟨"a.in"⟩ hread⟩

end Definition

end ErrorTable
