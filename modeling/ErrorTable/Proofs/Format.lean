/-
The format of a fragment can be read back.

Names and messages stand in a fragment as they are, so a message can look like the end of a
record, or like a comment. What tells the parts of a fragment apart is on which line they
stand: a record takes seven lines, and nothing that is copied into a line can end it.
`decode` reads a fragment by its lines, and `decode_render` says that it finds what was
rendered, as long as no field holds a line feed. So no two tables have one text
(`render_inj`).
-/
import ErrorTable.Fragment
import Mathlib.Data.List.Basic

namespace ErrorTable

/-- The entry has no line feed in any of its fields. -/
structure Entry.OnOneLine (e : Entry) : Prop where
  code : '\n' ∉ e.code.toList
  exception : '\n' ∉ e.exception.toList
  flag : '\n' ∉ e.flag.toList
  message : '\n' ∉ e.message.toList

instance (e : Entry) : Decidable e.OnOneLine :=
  decidable_of_iff ('\n' ∉ e.code.toList ∧ '\n' ∉ e.exception.toList ∧ '\n' ∉ e.flag.toList ∧
      '\n' ∉ e.message.toList)
    ⟨fun h => ⟨h.1, h.2.1, h.2.2.1, h.2.2.2⟩, fun h => ⟨h.code, h.exception, h.flag, h.message⟩⟩

/-- The text between a given start and a given end of a line. -/
def Text.between? (before after line : String) : Option String :=
  ((line.toList.dropPrefix? before.toList).bind (·.dropSuffix? after.toList)).map String.ofList

namespace Text

@[simp] theorem between?_append (before after text : String) :
    between? before after (before ++ text ++ after) = some text := by
  have hsuffix : (text.toList ++ after.toList).dropSuffix? after.toList = some text.toList :=
    List.dropSuffix?_eq_some_iff.2 ⟨_, rfl, by simp⟩
  simp only [between?, String.toList_append, List.append_assoc]
  rw [List.dropPrefix?_append_of_beq _ (by simp), Option.bind_some, hsuffix]
  simp

/-- Lines that hold no line feed are found again in the text made of them. -/
theorem splitOn_unlines {ls : List String} (h : ∀ l ∈ ls, '\n' ∉ l.toList) :
    (unlines ls).toList.splitOn '\n' = ls.map String.toList ++ [[]] := by
  rw [toList_unlines]
  induction ls with
  | nil => rfl
  | cons l ls ih =>
    obtain ⟨hl, hls⟩ := List.forall_mem_cons.1 h
    simp only [List.flatMap_cons, List.append_assoc, List.map_cons, List.cons_append]
    rw [List.splitOn_append_cons_self_of_not_mem hl, List.nil_append, ih hls]

end Text

namespace Fragment

/-! ## Reading a fragment -/

/-- The entries whose records the given lines are, up to the closing line. -/
def decodeRecords : List String → Option (List Entry)
  | [closing] => if closing = closingLine then some [] else none
  | comment :: _ :: message :: exception :: flag :: _ :: _ :: rest => do
    let code ← Text.between? "    /* " " */" comment
    let message ← Text.between? "        " "," message
    let exception ← Text.between? "        " "," exception
    let flag ← Text.between? "        " "," flag
    return ⟨code, exception, flag, message⟩ :: (← decodeRecords rest)
  | _ => none

/-- The name and the entries of the array that the given lines declare. -/
def decodeTable : List String → Option (String × List Entry)
  | [] => none
  | opening :: rest => do
    let arrayName ← Text.between? ("static struct " ++ recordType ++ " ") "[] = \x7b" opening
    return (arrayName, ← decodeRecords rest)

/-- The name and the entries of the array that a fragment declares. -/
def decode (text : String) : Option (String × List Entry) :=
  (text.toList.dropPrefix? (banner ++ "\n").toList).bind fun table =>
    decodeTable ((table.splitOn '\n').dropLast.map String.ofList)

theorem decodeRecords_recordLines (entries : List Entry) :
    decodeRecords (entries.flatMap recordLines ++ [closingLine]) = some entries := by
  induction entries with
  | nil => simp [decodeRecords]
  | cons e entries ih =>
    simp [recordLines, decodeRecords, ih]

theorem openingLine_eq (arrayName : String) :
    openingLine arrayName =
      ("static struct " ++ recordType ++ " ") ++ arrayName ++ "[] = \x7b" := rfl

theorem decodeTable_tableLines (arrayName : String) (entries : List Entry) :
    decodeTable (tableLines arrayName entries) = some (arrayName, entries) := by
  simp [tableLines, decodeTable, openingLine_eq, decodeRecords_recordLines]

/-! ## The lines of a fragment -/

/-- The lines of a fragment, the banner and its empty line included. -/
def lines (arrayName : String) (entries : List Entry) : List String :=
  bannerLines ++ "" :: tableLines arrayName entries

theorem render_eq_unlines (arrayName : String) (entries : List Entry) :
    render arrayName entries = Text.unlines (lines arrayName entries) := by
  simp [render, renderTable, banner, lines, Text.unlines, String.append_assoc]

theorem newline_notMem_recordLines {e : Entry} (h : e.OnOneLine) :
    ∀ l ∈ recordLines e, '\n' ∉ l.toList := by
  simp [recordLines, h.code, h.exception, h.flag, h.message]

theorem newline_notMem_tableLines {arrayName : String} {entries : List Entry}
    (hname : '\n' ∉ arrayName.toList) (hentries : ∀ e ∈ entries, e.OnOneLine) :
    ∀ l ∈ tableLines arrayName entries, '\n' ∉ l.toList := by
  simp only [tableLines, List.forall_mem_cons, List.forall_mem_append, List.mem_flatMap]
  refine ⟨by simp [openingLine_eq, recordType, hname], ?_, by simp [closingLine]⟩
  intro l h
  obtain ⟨e, he, hl⟩ := h
  exact newline_notMem_recordLines (hentries e he) l hl

/-- **A fragment can be read back**, whatever its names and messages look like. -/
theorem decode_render {arrayName : String} {entries : List Entry}
    (hname : '\n' ∉ arrayName.toList) (hentries : ∀ e ∈ entries, e.OnOneLine) :
    decode (render arrayName entries) = some (arrayName, entries) := by
  have hpieces : ((renderTable arrayName entries).toList.splitOn '\n').dropLast.map
      String.ofList = tableLines arrayName entries := by
    rw [renderTable, Text.splitOn_unlines (newline_notMem_tableLines hname hentries),
      List.dropLast_concat, List.map_map]
    simp [Function.comp_def]
  unfold decode render
  rw [String.toList_append, List.dropPrefix?_append_of_beq _ (beq_self_eq_true _),
    Option.bind_some, hpieces, decodeTable_tableLines]

/-- Two tables with one text are one table. -/
theorem render_inj {arrayName arrayName' : String} {entries entries' : List Entry}
    (hname : '\n' ∉ arrayName.toList) (hentries : ∀ e ∈ entries, e.OnOneLine)
    (hname' : '\n' ∉ arrayName'.toList) (hentries' : ∀ e ∈ entries', e.OnOneLine) :
    render arrayName entries = render arrayName' entries' ↔
      arrayName = arrayName' ∧ entries = entries' := by
  constructor
  · intro h
    have hsame := (decode_render hname hentries).symm.trans
      ((congrArg decode h).trans (decode_render hname' hentries'))
    simpa using hsame
  · intro h
    obtain ⟨rfl, rfl⟩ := h
    rfl

end Fragment

end ErrorTable
