/-
A fragment read as a definition file.

Nothing keeps a fragment from being read again: an output can be a definition file of the same
batch, even its own. Of the lines of a fragment, the one that opens the declaration is an entry,
and the line of a message can be anything. All others say nothing, since behind the word that
they start with there is neither a blank nor an equals sign (`parse_render`).

So a fragment is never the definition file of its own table (`output?_parse_render`). Each entry
that is read from a message is shorter than the entry it stood in, so the entries cannot repeat.
-/
import ErrorTable.Proofs.Printing

namespace ErrorTable

/-- What the line of a message says if it is read as a line of a definition file. -/
def Entry.reread (e : Entry) : Line := Line.classify (e.message ++ ",")

theorem Entry.WellFormed.onOneLine {e : Entry} (h : e.WellFormed) : e.OnOneLine :=
  ⟨h.code.newline_notMem, h.exception.newline_notMem, h.flag.newline_notMem, h.message.noNewline⟩

/-! ## Lines that say nothing -/

theorem Text.isBlank_space : isBlank ' ' = true := by decide

theorem Text.trimEnd_append_cons {c : Char} (h : isBlank c = false) (before after : List Char) :
    trimEnd (before ++ c :: after) = before ++ c :: trimEnd after := by
  have hstop : (c :: before.reverse).dropWhile isBlank = c :: before.reverse := by
    rw [List.dropWhile_cons_of_neg (by simp [h])]
  simp only [trimEnd, List.reverse_append, List.reverse_cons, List.append_assoc,
    List.singleton_append, List.dropWhile_append, hstop]
  split
  · next hempty => simp [List.isEmpty_iff.1 hempty]
  · simp

namespace Line

/-- The line is a directive or an entry. -/
def speaks : Line → Bool
  | ignored => false
  | _ => true

@[simp] theorem speaks_ignored : ignored.speaks = false := rfl

@[simp] theorem speaks_entry (e : Entry) : (entry e).speaks = true := rfl

/-- The character neither goes on with a word nor opens a gap or a value. -/
def isMark (c : Char) : Bool :=
  !isWordChar c && !Text.isBlank c && c != '='

theorem isMark_iff {c : Char} :
    isMark c = true ↔ isWordChar c = false ∧ Text.isBlank c = false ∧ c ≠ '=' := by
  simp [isMark, and_assoc]

/-- No form has a mark behind the word it starts with. -/
theorem form_text_ne {w r : List Char} {c : Char} (hw : ∀ c ∈ w, isWordChar c = true)
    (hc : isMark c = true) (form : Form) : form.text ≠ w ++ c :: r := by
  obtain ⟨hword, hblank, hequals⟩ := isMark_iff.1 hc
  have hstop : ∀ d ∈ (c :: r).head?, isWordChar d = false := by
    rintro d ⟨⟩
    exact hword
  intro h
  cases form with
  | directive key rest =>
    obtain ⟨-, hrest⟩ := span_unique (isWordChar_of_mem_name key) hw (equals_not_word rest) hstop h
    cases hrest
    exact hequals rfl
  | entry _ gap _ _ _ _ _ hcode hgap =>
    obtain ⟨-, hrest⟩ := span_unique hcode.2 hw (hgap.not_word _) hstop h
    obtain ⟨d, hd, hgapBlank⟩ := hgap.head _
    rw [hrest] at hd
    cases hd
    rw [hblank] at hgapBlank
    cases hgapBlank

/-- A line says nothing if a mark follows the word it starts with, which can be missing. -/
theorem classify_eq_ignored_of_mark {text : String} {indent w r : List Char} {c : Char}
    (htext : text.toList = indent ++ (w ++ c :: r))
    (hindent : ∀ c ∈ indent, Text.isBlank c = true) (hw : ∀ c ∈ w, isWordChar c = true)
    (hc : isMark c = true) : classify text = .ignored := by
  have hblank := (isMark_iff.1 hc).2.1
  have hstart : StartsSolid (w ++ c :: r) := by
    cases w with
    | nil =>
      rintro c' ⟨⟩
      exact hblank
    | cons c' w => exact IsWord.startsSolid ⟨by simp, hw⟩ _
  have htrim : Text.trim text.toList = w ++ c :: Text.trimEnd r := by
    have hfront : (w ++ c :: r).dropWhile Text.isBlank = w ++ c :: r :=
      dropWhile_span (w := []) (by simp) hstart
    rw [htext, Text.trim_blanks_append hindent, Text.trim, Text.trimStart, hfront,
      Text.trimEnd_append_cons hblank]
  rw [classify_eq_ignored, htrim]
  exact form_text_ne hw hc

end Line

namespace Fragment

open Line (classify)

/-- The line holds no line feed and says nothing. -/
structure Silent (line : String) : Prop where
  newline_notMem : '\n' ∉ line.toList
  ignored : classify line = .ignored

/-- Whether a text without line feeds is blank or starts with a mark. -/
def isSilent (cs : List Char) : Bool :=
  '\n' ∉ cs && (cs.dropWhile Text.isBlank).head?.all Line.isMark

theorem silent_ofList {cs : List Char} (h : isSilent cs = true) : Silent (String.ofList cs) := by
  simp only [isSilent, Bool.and_eq_true, decide_eq_true_eq] at h
  obtain ⟨hnewline, hmark⟩ := h
  refine ⟨by simpa using hnewline, ?_⟩
  cases hrest : cs.dropWhile Text.isBlank with
  | nil =>
    have hblank := Text.trim_eq_nil_iff.2 (List.dropWhile_eq_nil_iff.1 hrest)
    rw [← Line.classify_empty]
    apply Line.classify_of_trim_eq
    rw [String.toList_ofList, hblank]
    rfl
  | cons c rest =>
    have htext : (String.ofList cs).toList = cs.takeWhile Text.isBlank ++ ([] ++ c :: rest) := by
      rw [String.toList_ofList, List.nil_append, ← hrest, List.takeWhile_append_dropWhile]
    rw [hrest] at hmark
    exact Line.classify_eq_ignored_of_mark htext (fun _ => List.mem_takeWhile_imp) (by simp) hmark

-- Each line is matched with the list of its characters, which is quick to look through.
theorem silent_bannerLines : ∀ line ∈ bannerLines, Silent line := by
  simp only [bannerLines, List.forall_mem_cons, List.not_mem_nil, false_imp_iff, implies_true,
    and_true]
  and_intros <;> exact silent_ofList (by decide)

theorem classify_comment (code : String) : classify ("    /* " ++ code ++ " */") = .ignored := by
  have htext : ("    /* " ++ code ++ " */").toList =
      "    ".toList ++ ([] ++ '/' :: ("* ".toList ++ code.toList ++ " */".toList)) := by
    simp
  exact Line.classify_eq_ignored_of_mark htext (by simp [Text.isBlank_space]) (by simp) (by decide)

theorem classify_field {word : String} (h : Line.IsWord word.toList) :
    classify ("        " ++ word ++ ",") = .ignored := by
  have htext : ("        " ++ word ++ ",").toList =
      "        ".toList ++ (word.toList ++ ',' :: []) := by
    simp
  exact Line.classify_eq_ignored_of_mark htext (by simp [Text.isBlank_space]) h.2 (by decide)

theorem classify_message (e : Entry) : classify ("        " ++ e.message ++ ",") = e.reread := by
  apply Line.classify_of_trim_eq
  rw [String.append_assoc, String.toList_append,
    Text.trim_blanks_append (by simp [Text.isBlank_space])]

/-- The entry that the opening line of a declaration is. -/
def openingEntry (arrayName : String) : Entry where
  code := "static"
  exception := "struct"
  flag := recordType
  message := arrayName ++ "[] = \x7b"

theorem wellFormed_openingEntry {arrayName : String} (h : Text.IsField arrayName.toList) :
    (openingEntry arrayName).WellFormed := by
  have hmessage : (openingEntry arrayName).message.toList =
      arrayName.toList ++ ("[] = ".toList ++ ['\x7b']) := by
    simp [openingEntry]
  have hstart : Line.StartsSolid (arrayName.toList ++ ("[] = ".toList ++ ['\x7b'])) := by
    have hname := (Text.trim_eq_self_iff.1 h.trimmed).1
    cases hcs : arrayName.toList with
    | nil =>
      rintro c ⟨⟩
      decide
    | cons c cs =>
      rintro c' ⟨⟩
      exact hname c (by rw [hcs]; rfl)
  have hend : Line.EndsSolid ("[] = ".toList ++ ['\x7b']) := by
    rintro c ⟨⟩
    decide
  have hwords : Line.IsWord "static".toList ∧ Line.IsWord "struct".toList ∧
      Line.IsWord recordType.toList := by
    decide
  refine ⟨hwords.1, hwords.2.1, hwords.2.2, ?_, ?_⟩
  · rw [hmessage]
    refine ⟨Text.trim_eq_self_iff.2 ⟨hstart, hend.append (by simp) _⟩, ?_⟩
    simp [h.noNewline]
  · simp [hmessage]

theorem classify_openingLine {arrayName : String} (h : Text.IsField arrayName.toList) :
    classify (openingLine arrayName) = .entry (openingEntry arrayName) := by
  have htext : openingLine arrayName = Layout.plain.text (.entry (openingEntry arrayName)) := by
    rw [openingLine_eq, ← String.toList_inj]
    simp [Layout.text, Layout.plain, Layout.body, Layout.back, openingEntry]
  rw [htext]
  exact Layout.plain.classify_text (wellFormed_openingEntry h)

/-! ## The lines of a fragment -/

theorem newline_notMem_lines {arrayName : String} {entries : List Entry}
    (hname : '\n' ∉ arrayName.toList) (hentries : ∀ e ∈ entries, e.OnOneLine) :
    ∀ l ∈ lines arrayName entries, '\n' ∉ l.toList := by
  simp only [lines, List.forall_mem_append, List.forall_mem_cons]
  exact ⟨fun l hl => (silent_bannerLines l hl).newline_notMem, by simp,
    newline_notMem_tableLines hname hentries⟩

theorem head?_render_ne_mark (arrayName : String) (entries : List Entry) :
    (render arrayName entries).toList.head? ≠ some Text.byteOrderMark := by
  obtain ⟨rest, hrest⟩ : ∃ rest, lines arrayName entries = "/*" :: rest := ⟨_, rfl⟩
  rw [render_eq_unlines, Text.toList_unlines, hrest, List.flatMap_cons]
  simp [Text.byteOrderMark]

theorem segments_render {arrayName : String} {entries : List Entry}
    (hname : '\n' ∉ arrayName.toList) (hentries : ∀ e ∈ entries, e.OnOneLine) :
    Definition.segments (render arrayName entries) = lines arrayName entries ++ [""] := by
  have hmark := head?_render_ne_mark arrayName entries
  rw [render_eq_unlines] at hmark ⊢
  exact Definition.segments_unlines (newline_notMem_lines hname hentries) hmark

/-- What the lines of the record of an entry say. The one of the message alone can say something. -/
def recordSays (e : Entry) : List Line :=
  [.ignored, .ignored, e.reread, .ignored, .ignored, .ignored, .ignored]

theorem map_classify_recordLines {e : Entry} (h : e.WellFormed) :
    (recordLines e).map classify = recordSays e := by
  have hopen : classify "    \x7b" = .ignored := (silent_ofList (by decide)).ignored
  have hzero : classify "        0" = .ignored := by decide
  have hclose : classify "    \x7d," = .ignored := (silent_ofList (by decide)).ignored
  simp only [recordLines, recordSays, List.map_cons, List.map_nil, classify_comment,
    classify_message, classify_field h.exception, classify_field h.flag, hopen, hzero, hclose]

/-- **What a fragment says line by line**: the banner and its empty line nothing, the opening line
an entry, each record what its message says, and the closing line nothing. -/
theorem map_classify_lines {arrayName : String} {entries : List Entry}
    (hname : Text.IsField arrayName.toList) (hentries : ∀ e ∈ entries, e.WellFormed) :
    (lines arrayName entries).map classify =
      List.replicate (bannerLines.length + 1) .ignored ++
        (.entry (openingEntry arrayName) :: entries.flatMap recordSays ++ [.ignored]) := by
  have hbanner : bannerLines.map classify = List.replicate bannerLines.length .ignored := by
    rw [List.map_eq_replicate_iff]
    exact fun line hline => (silent_bannerLines line hline).ignored
  have hrecords : (entries.flatMap recordLines).map classify = entries.flatMap recordSays := by
    rw [List.map_flatMap]
    exact List.flatMap_congr fun e he => map_classify_recordLines (hentries e he)
  have hclosing : classify closingLine = .ignored := (silent_ofList (by decide)).ignored
  rw [lines, List.map_append, hbanner, List.map_cons, Line.classify_empty, tableLines,
    List.map_cons, classify_openingLine hname, List.map_append, hrecords, List.map_singleton,
    hclosing, List.replicate_succ', List.append_assoc, List.singleton_append, List.cons_append]

theorem filter_recordSays (entries : List Entry) :
    (entries.flatMap recordSays).filter Line.speaks =
      (entries.map Entry.reread).filter Line.speaks := by
  induction entries with
  | nil => rfl
  | cons e entries ih => simp [recordSays, List.filter_cons, ih]

end Fragment

namespace Definition

/-- Lines that say nothing can be left out. -/
theorem ofLines_filter (ls : List Line) : ofLines (ls.filter Line.speaks) = ofLines ls := by
  have hadd : (fun (directives : Directives) (line : Line) =>
      if line.speaks then directives.add line else directives) = Directives.add := by
    funext directives line
    cases line <;> rfl
  have hentries : (ls.filter Line.speaks).filterMap Line.asEntry = ls.filterMap Line.asEntry := by
    rw [List.filterMap_filter]
    refine List.filterMap_congr fun line _ => ?_
    cases line <;> rfl
  rw [ofLines, ofLines, hentries, List.foldl_filter, hadd]

/-- **A fragment read as a definition file.** Its opening line is an entry, and the line of each
message says what the message followed by a comma says. -/
theorem parse_render {arrayName : String} {entries : List Entry}
    (hname : Text.IsField arrayName.toList) (hentries : ∀ e ∈ entries, e.WellFormed) :
    parse (Fragment.render arrayName entries) =
      ofLines (.entry (Fragment.openingEntry arrayName) :: entries.map Entry.reread) := by
  have hlines := Fragment.segments_render hname.noNewline fun e he => (hentries e he).onOneLine
  rw [parse_eq_segments, hlines, List.map_append, Fragment.map_classify_lines hname hentries,
    ← ofLines_filter, ← ofLines_filter (_ :: _)]
  simp [List.filter_cons, List.filter_append, Fragment.filter_recordSays, Line.classify_empty]

end Definition

/-! ## No fragment is its own definition file -/

/-- A list in which every element is made from a larger one is empty. -/
theorem eq_nil_of_filterMap_eq {α : Type} {f : α → Option α} {size : α → Nat}
    (hsize : ∀ a b, f a = some b → size b < size a) {l : List α} (h : l.filterMap f = l) :
    l = [] := by
  have hsum : ∀ l : List α,
      ((l.filterMap f).map (size · + 1)).sum + l.length ≤ (l.map (size · + 1)).sum := by
    intro l
    induction l with
    | nil => simp
    | cons a l ih =>
      cases ha : f a with
      | none =>
        simp only [List.filterMap_cons_none ha, List.length_cons, List.map_cons, List.sum_cons]
        omega
      | some b =>
        have hlt := hsize a b ha
        simp only [List.filterMap_cons_some ha, List.length_cons, List.map_cons, List.sum_cons]
        omega
  have hlength := hsum l
  rw [h] at hlength
  exact List.length_eq_zero_iff.1 (by omega)

/-- If all but one of the elements are kept, there is one that is not. -/
theorem eq_of_length_filterMap {α β : Type} {f : α → Option β} {l : List α} {a b : α}
    (h : l.length = (l.filterMap f).length + 1) (ha : a ∈ l) (hb : b ∈ l) (hfa : f a = none)
    (hfb : f b = none) : a = b := by
  have hone : (l.filter fun x => ¬(f x).isSome).length = 1 := by
    have hcount := List.length_eq_countP_add_countP (fun x => (f x).isSome) (l := l)
    rw [List.length_filterMap_eq_countP] at h
    rw [← List.countP_eq_length_filter]
    omega
  obtain ⟨x, hx⟩ := List.length_eq_one_iff.1 hone
  have hmem : ∀ {y}, y ∈ l → f y = none → y = x := by
    intro y hy hfy
    rw [← List.mem_singleton, ← hx]
    exact List.mem_filter.2 ⟨hy, by simp [hfy]⟩
  rw [hmem ha hfa, hmem hb hfb]

theorem Text.length_trim_le (cs : List Char) : (trim cs).length ≤ cs.length := by
  have hend := (List.dropWhile_sublist isBlank (l := (trimStart cs).reverse)).length_le
  have hstart := (List.dropWhile_sublist isBlank (l := cs)).length_le
  rw [List.length_reverse] at hend
  rw [trim, trimEnd, List.length_reverse]
  exact hend.trans hstart

namespace Definition

/-- The entry that stands in a message is shorter than the message. -/
theorem length_message_lt {e e' : Entry} (h : e.reread = .entry e') :
    e'.message.toList.length < e.message.toList.length := by
  obtain ⟨gap₁, gap₂, gap₃, htext, hcode, hgap₁, hexception, hgap₂, hflag, hgap₃, -⟩ :=
    Line.classify_eq_entry.1 h
  have hle := Text.length_trim_le (e.message ++ ",").toList
  rw [htext] at hle
  simp only [String.toList_append, List.length_append] at hle
  have hword := List.length_pos_iff.2 hcode.1
  have hblank := List.length_pos_iff.2 hgap₁.1
  have hcomma : ",".toList.length = 1 := rfl
  omega

theorem isField_arrayName (content : String) : Text.IsField (parse content).arrayName.toList := by
  unfold arrayName
  cases h : (parse content).directives.arrayName with
  | none => exact ⟨rfl, by simp⟩
  | some value => exact (wellFormed_parse content).value .arrayName value h

theorem entries_parse_render {arrayName : String} {entries : List Entry}
    (hname : Text.IsField arrayName.toList) (hentries : ∀ e ∈ entries, e.WellFormed) :
    (parse (Fragment.render arrayName entries)).entries = Fragment.openingEntry arrayName ::
      entries.filterMap fun e => e.reread.asEntry := by
  rw [parse_render hname hentries]
  simp [ofLines, List.filterMap_map, Line.asEntry, Function.comp_def]

/-- A directive that is read from a fragment stands in a message. -/
theorem exists_message_of_get? {arrayName : String} {entries : List Entry}
    (hname : Text.IsField arrayName.toList) (hentries : ∀ e ∈ entries, e.WellFormed)
    {key : DirectiveKey} {value : String}
    (h : (parse (Fragment.render arrayName entries)).directives.get? key = some value) :
    ∃ e ∈ entries, e.reread = .directive key value := by
  rw [parse_render hname hentries, get?_ofLines] at h
  obtain ⟨line, hline, hfor⟩ := List.mem_filterMap.1 (List.mem_of_getLast? h)
  obtain rfl := Line.valueFor?_eq_some.1 hfor
  simpa using hline

/-- **No fragment is the definition file of its own table.** If a fragment is read and gives the
name and the entries that it was rendered from, it names no output. -/
theorem output?_parse_render {arrayName : String} {entries : List Entry}
    (hname : (parse (Fragment.render arrayName entries)).arrayName = arrayName)
    (hentries : (parse (Fragment.render arrayName entries)).entries = entries) :
    (parse (Fragment.render arrayName entries)).output? = none := by
  have hfield : Text.IsField arrayName.toList := by
    rw [← hname]
    exact isField_arrayName _
  have hwellFormed : ∀ e ∈ entries, e.WellFormed := by
    rw [← hentries]
    exact (wellFormed_parse _).entry
  -- The opening line is an entry, so all messages but one are entries in their turn.
  have hkeep : entries = Fragment.openingEntry arrayName ::
      entries.filterMap fun e => e.reread.asEntry :=
    hentries.symm.trans (entries_parse_render hfield hwellFormed)
  rw [Option.eq_none_iff_forall_ne_some]
  intro output houtput
  obtain ⟨e, he, hdirective⟩ := exists_message_of_get? hfield hwellFormed
    ((get?_parse _ .output).trans (output?_parse.1 houtput).1)
  cases hnamed : (parse (Fragment.render arrayName entries)).directives.get? .arrayName with
  | some value =>
    -- That one is the output, so there is none left for the name.
    obtain ⟨e', he', hdirective'⟩ := exists_message_of_get? hfield hwellFormed hnamed
    have hlength := congrArg List.length hkeep
    have heq : e = e' := eq_of_length_filterMap hlength he he' (by rw [hdirective]; rfl)
      (by rw [hdirective']; rfl)
    rw [heq, hdirective'] at hdirective
    cases hdirective
  | none =>
    -- Without a name, the one that is no entry is the message of the opening line.
    have hempty : arrayName = "" := by
      rw [← hname, arrayName_parse, ← get?_parse, hnamed]
      rfl
    subst hempty
    have hopening : (Fragment.openingEntry "").reread = .ignored := by
      decide
    have hrest : (entries.filterMap fun e => e.reread.asEntry).filterMap
        (fun e => e.reread.asEntry) =
          entries.filterMap fun e => e.reread.asEntry := by
      conv_rhs => rw [hkeep, List.filterMap_cons_none (by rw [hopening]; rfl)]
    have hnil := eq_nil_of_filterMap_eq
      (fun _ _ h => length_message_lt (Line.asEntry_eq_some.1 h)) hrest
    rw [hkeep, hnil, List.mem_singleton] at he
    rw [he, hopening] at hdirective
    cases hdirective

end Definition

end ErrorTable
