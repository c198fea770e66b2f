/-
The lines of a fragment, and what a reader finds on them.

Nothing that is copied into a fragment can end a line, and no line ends in a carriage return,
so the lines that a fragment is made of are the lines of its text (`lines_renderTable`). They
tell where everything stands: the record of an entry comes seven lines behind the record before
it, whatever the fields look like (`take_drop_tableLines`).

A reader that knows nothing about records can still look for comments on a line of their own.
It finds the codes and nothing else (`comments_render`). A message or a name can hold a comment,
but its line ends in a comma or a brace, and the banner is a comment that takes many lines.
-/
import ErrorTable.Proofs.Rereading

namespace ErrorTable

namespace Text

/-- Lines are found again in the text made of them if they hold no line feed and do not end in a
carriage return, which would count as a part of the line's ending. -/
theorem lines_unlines {ls : List String} (hnewline : ∀ l ∈ ls, '\n' ∉ l.toList)
    (hreturn : ∀ l ∈ ls, l.toList.getLast? ≠ some '\r') :
    (lines (unlines ls).toList).map String.ofList = ls := by
  have hkeep : ∀ l ∈ ls, String.ofList (dropReturn l.toList) = l := by
    intro l hl
    rw [dropReturn, if_neg (hreturn l hl), String.ofList_toList]
  simp only [lines, splitOn_unlines hnewline, List.dropLast_concat, List.getLastD_concat, if_true,
    List.append_nil, List.map_map]
  calc ls.map (String.ofList ∘ dropReturn ∘ String.toList) = ls.map id := List.map_congr_left hkeep
    _ = ls := List.map_id ls

theorem between?_eq_some {before after line text : String} :
    between? before after line = some text ↔ line = before ++ text ++ after := by
  constructor
  · intro h
    simp only [between?, Option.map_eq_some_iff, Option.bind_eq_some_iff,
      List.dropPrefix?_eq_some_iff, List.dropSuffix?_eq_some_iff, beq_iff_eq] at h
    obtain ⟨_, ⟨_, ⟨_, hline, rfl⟩, _, rfl, rfl⟩, rfl⟩ := h
    rw [← String.toList_inj, hline]
    simp
  · rintro rfl
    exact between?_append before after text

theorem trim_concat {c : Char} (h : isBlank c = false) (cs : List Char) :
    trim (cs ++ [c]) = trimStart cs ++ [c] := by
  have hsolid : [c].dropWhile isBlank = [c] := by simp [h]
  have hstart : trimStart (cs ++ [c]) = trimStart cs ++ [c] := by
    rw [trimStart, List.dropWhile_append, hsolid]
    split
    · next hempty => rw [trimStart, List.isEmpty_iff.1 hempty, List.nil_append]
    · rfl
  rw [trim, hstart]
  exact trimEnd_append_cons h (trimStart cs) []

end Text

namespace Fragment

/-! ## Where the records stand -/

theorem getLast_tableLines_ne_return (arrayName : String) (entries : List Entry) :
    ∀ l ∈ tableLines arrayName entries, l.toList.getLast? ≠ some '\r' := by
  simp only [tableLines, List.forall_mem_cons, List.forall_mem_append, List.mem_flatMap]
  refine ⟨by simp [openingLine_eq, List.getLast?_cons], ?_, by simp [closingLine]⟩
  intro l h
  obtain ⟨e, -, hl⟩ := h
  revert l
  simp [recordLines, List.getLast?_cons]

theorem lines_renderTable {arrayName : String} {entries : List Entry}
    (hname : '\n' ∉ arrayName.toList) (hentries : ∀ e ∈ entries, e.OnOneLine) :
    (Text.lines (renderTable arrayName entries).toList).map String.ofList =
      tableLines arrayName entries :=
  Text.lines_unlines (newline_notMem_tableLines hname hentries)
    (getLast_tableLines_ne_return arrayName entries)

theorem take_drop_records {entries : List Entry} {i : Nat} {e : Entry}
    (h : entries[i]? = some e) (rest : List String) :
    ((entries.flatMap recordLines ++ rest).drop (7 * i)).take 7 = recordLines e := by
  induction entries generalizing i with
  | nil => simp at h
  | cons first entries ih =>
    cases i with
    | zero =>
      obtain rfl : first = e := by simpa using h
      rfl
    | succ i =>
      have hfirst : (recordLines first).length = 7 := rfl
      rw [Nat.mul_succ, Nat.add_comm, ← List.drop_drop, List.flatMap_cons, List.append_assoc,
        ← hfirst, List.drop_left, hfirst]
      exact ih (by simpa using h)

/-- The record of an entry comes behind the opening line and seven lines for each record before
it. -/
theorem take_drop_tableLines {entries : List Entry} {i : Nat} {e : Entry}
    (h : entries[i]? = some e) (arrayName : String) :
    ((tableLines arrayName entries).drop (1 + 7 * i)).take 7 = recordLines e := by
  rw [tableLines, Nat.add_comm, List.drop_succ_cons]
  exact take_drop_records h _

/-- **A fragment can be decoded.** As long as no field holds a line feed, `decode` finds the name
and the entries that were rendered, so no two tables have one text. Behind the banner and its
empty line there are two lines and seven more for each entry: first the name, then for each entry
in turn its code, message, exception, flag and the reserved zero, and last the closing brace. -/
theorem render_decodable {arrayName : String} {entries : List Entry}
    (hname : '\n' ∉ arrayName.toList) (hentries : ∀ e ∈ entries, e.OnOneLine) :
    decode (render arrayName entries) = some (arrayName, entries) ∧
    (∀ arrayName' entries', '\n' ∉ arrayName'.toList → (∀ e ∈ entries', e.OnOneLine) →
      (render arrayName entries = render arrayName' entries' ↔
        arrayName = arrayName' ∧ entries = entries')) ∧
    ∃ table ls, render arrayName entries = banner ++ "\n" ++ table ∧
      (Text.lines table.toList).map String.ofList = ls ∧
      ls.length = 2 + 7 * entries.length ∧
      ls.head? = some ("static struct err_msg_info " ++ arrayName ++ "[] = \x7b") ∧
      (∀ i e, entries[i]? = some e → (ls.drop (1 + 7 * i)).take 7 =
        ["    /* " ++ e.code ++ " */", "    \x7b", "        " ++ e.message ++ ",",
          "        " ++ e.exception ++ ",", "        " ++ e.flag ++ ",", "        0",
          "    \x7d,"]) ∧
      ls.getLast? = some "\x7d;" := by
  refine ⟨decode_render hname hentries, fun _ _ hname' hentries' =>
    render_inj hname hentries hname' hentries', renderTable arrayName entries,
    tableLines arrayName entries, rfl, lines_renderTable hname hentries,
    length_tableLines arrayName entries, rfl, fun i e he => take_drop_tableLines he arrayName, ?_⟩
  rw [tableLines, List.getLast?_cons, List.getLast?_concat]
  rfl

/-- Entries with empty fields, and with fields that look like the lines of a fragment. -/
def deceptiveEntries : List Entry :=
  [⟨"", "", " ", "\x7d;"⟩, ⟨"*/", "\r", "    \x7d,", "0,\r        0"⟩]

theorem render_decodable_deceptiveEntries :
    '\n' ∉ "a[] = \x7b /* b */".toList ∧ (∀ e ∈ deceptiveEntries, e.OnOneLine) ∧
    decode (render "a[] = \x7b /* b */" deceptiveEntries) =
      some ("a[] = \x7b /* b */", deceptiveEntries) ∧
    ∃ table, render "a[] = \x7b /* b */" deceptiveEntries = banner ++ "\n" ++ table ∧
      (Text.lines table.toList).length = 16 := by
  have hname : '\n' ∉ "a[] = \x7b /* b */".toList := by decide
  have hentries : ∀ e ∈ deceptiveEntries, e.OnOneLine := by decide
  obtain ⟨hdecode, -, table, ls, hrender, hlines, hlength, -⟩ := render_decodable hname hentries
  refine ⟨hname, hentries, hdecode, table, hrender, ?_⟩
  rw [← List.length_map, hlines, hlength]
  rfl

/-! ## Comments -/

/-- The text of the comment that a line is, if it is one: with the blanks around it removed, the
line starts with the start of a comment and a space, and behind that it ends with a space and the
end of a comment. -/
def comment? (line : String) : Option String :=
  Text.between? "/* " " */" (String.ofList (Text.trim line.toList))

/-- The texts of the comments in a text that stand on a line of their own, in order. -/
def comments (text : String) : List String :=
  ((Text.lines text.toList).map String.ofList).filterMap comment?

theorem comment?_eq_some {line text : String} :
    comment? line = some text ↔ Text.trim line.toList = ("/* " ++ text ++ " */").toList := by
  rw [comment?, Text.between?_eq_some, ← String.toList_inj, String.toList_ofList]

theorem comment?_code (code : String) : comment? ("    /* " ++ code ++ " */") = some code := by
  have hline : ("    /* " ++ code ++ " */").toList =
      "    ".toList ++ ("/* ".toList ++ code.toList ++ " *".toList ++ ['/']) := by
    simp
  have hstart : Text.trimStart ("/* ".toList ++ code.toList ++ " *".toList) =
      "/* ".toList ++ code.toList ++ " *".toList := rfl
  rw [comment?_eq_some, hline, Text.trim_blanks_append (by simp [Text.isBlank_space]),
    Text.trim_concat (by decide), hstart]
  simp

/-- A line is no comment if its last character is neither a blank nor a slash. -/
theorem comment?_eq_none {line : String} (c : Char) (hlast : line.toList.getLast? = some c)
    (hc : Text.isBlank c = false ∧ c ≠ '/') : comment? line = none := by
  obtain ⟨before, hline⟩ := List.getLast?_eq_some_iff.1 hlast
  rw [Option.eq_none_iff_forall_ne_some]
  intro text htext
  rw [comment?_eq_some, hline, Text.trim_concat hc.1] at htext
  have hslash : some c = some '/' := by
    simpa [List.getLast?_cons] using congrArg List.getLast? htext
  exact hc.2 (Option.some.inj hslash)

theorem comments_recordLines (e : Entry) : (recordLines e).filterMap comment? = [e.code] := by
  have hfield : ∀ text : String, comment? ("        " ++ text ++ ",") = none := fun text =>
    comment?_eq_none ',' (by simp [List.getLast?_cons]) (by decide)
  have hopen : comment? "    \x7b" = none := comment?_eq_none '\x7b' (by simp) (by decide)
  have hzero : comment? "        0" = none := comment?_eq_none '0' (by simp) (by decide)
  have hclose : comment? "    \x7d," = none := comment?_eq_none ',' (by simp) (by decide)
  simp [recordLines, comment?_code, hfield, hopen, hzero, hclose]

theorem comments_tableLines (arrayName : String) (entries : List Entry) :
    (tableLines arrayName entries).filterMap comment? = entries.map (·.code) := by
  have hopening : comment? (openingLine arrayName) = none :=
    comment?_eq_none '\x7b' (by simp [openingLine_eq, List.getLast?_cons]) (by decide)
  have hclosing : comment? closingLine = none :=
    comment?_eq_none ';' (by simp [closingLine]) (by decide)
  have hrecords : (entries.flatMap recordLines).filterMap comment? = entries.map (·.code) := by
    induction entries with
    | nil => rfl
    | cons e entries ih => simp [comments_recordLines, ih]
  simp [tableLines, hopening, hclosing, hrecords]

/-- The line keeps its last character when it is cut out of a text, and is no comment. -/
structure Plain (line : String) : Prop where
  getLast_ne_return : line.toList.getLast? ≠ some '\r'
  comment : comment? line = none

/-- Whether a text ends with something else than a blank and does not start like a comment. -/
def isPlain (cs : List Char) : Bool :=
  cs.getLast?.all (!Text.isBlank ·) && !(['/', '*', ' '].isPrefixOf (Text.trim cs))

theorem plain_ofList {cs : List Char} (h : isPlain cs = true) : Plain (String.ofList cs) := by
  simp only [isPlain, Bool.and_eq_true, Bool.not_eq_true'] at h
  obtain ⟨hlast, hstart⟩ := h
  constructor
  · intro hreturn
    rw [String.toList_ofList] at hreturn
    rw [hreturn] at hlast
    exact absurd hlast (by decide)
  · rw [Option.eq_none_iff_forall_ne_some]
    intro text htext
    rw [comment?_eq_some, String.toList_ofList] at htext
    rw [htext] at hstart
    simp at hstart

theorem plain_bannerLines : ∀ l ∈ bannerLines, Plain l := by
  simp only [bannerLines, List.forall_mem_cons, List.not_mem_nil, false_imp_iff, implies_true,
    and_true]
  and_intros <;> exact plain_ofList (by decide)

theorem lines_render {arrayName : String} {entries : List Entry}
    (hname : '\n' ∉ arrayName.toList) (hentries : ∀ e ∈ entries, e.OnOneLine) :
    (Text.lines (render arrayName entries).toList).map String.ofList = lines arrayName entries := by
  rw [render_eq_unlines]
  refine Text.lines_unlines (newline_notMem_lines hname hentries) ?_
  simp only [lines, List.forall_mem_append, List.forall_mem_cons]
  exact ⟨fun l hl => (plain_bannerLines l hl).getLast_ne_return, by simp,
    getLast_tableLines_ne_return arrayName entries⟩

/-- The comments of a fragment are the codes of its entries. -/
theorem comments_render {arrayName : String} {entries : List Entry}
    (hname : '\n' ∉ arrayName.toList) (hentries : ∀ e ∈ entries, e.OnOneLine) :
    comments (render arrayName entries) = entries.map (·.code) := by
  have hbanner : bannerLines.filterMap comment? = [] :=
    List.filterMap_eq_nil_iff.2 fun l hl => (plain_bannerLines l hl).comment
  have hempty : comment? "" = none := (plain_ofList (by decide)).comment
  rw [comments, lines_render hname hentries, lines, List.filterMap_append, hbanner,
    List.nil_append, List.filterMap_cons_none hempty, comments_tableLines]

/-- **The comments of a fragment are the codes of its definition file**, in their order, none more
and none less, whatever the messages and the name look like. -/
theorem comments_eq_codes (content : String) :
    comments (render (Definition.parse content).arrayName (Definition.parse content).entries) =
      (Definition.parse content).entries.map (·.code) :=
  comments_render (Definition.newline_notMem_arrayName content) fun _ =>
    Definition.onOneLine_of_mem_parse

end Fragment

end ErrorTable
