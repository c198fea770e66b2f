/-
Definition files are read back as they were meant.

A definition can be written down in many ways. Its directives can stand anywhere among its
entries, each line can be laid out with any blanks around it and between the fields of an
entry, and can end in a line feed or in a carriage return and a line feed. `Layout` is one way
of laying out a line, and `parse_write` says that a definition file gives the definition that
was written, whatever the layouts, if the definition is well formed. Every definition that
comes from a text is (`wellFormed_parse`), so the well-formed definitions are exactly those
that definition files can say.
-/
import ErrorTable.Proofs.Segments

namespace ErrorTable

/-! ## Well-formed definitions -/

/-- The text has no blank at either end, and no line feed. -/
structure Text.IsField (cs : List Char) : Prop where
  trimmed : Text.trim cs = cs
  noNewline : '\n' ∉ cs

instance (cs : List Char) : Decidable (Text.IsField cs) :=
  decidable_of_iff (Text.trim cs = cs ∧ '\n' ∉ cs) ⟨fun h => ⟨h.1, h.2⟩, fun h => ⟨h.1, h.2⟩⟩

instance (cs : List Char) : Decidable (Line.IsWord cs) :=
  decidable_of_iff (cs ≠ [] ∧ cs.all Line.isWordChar = true) (by simp [Line.IsWord])

/-- The entry is three words and a message. -/
structure Entry.WellFormed (e : Entry) : Prop where
  code : Line.IsWord e.code.toList
  exception : Line.IsWord e.exception.toList
  flag : Line.IsWord e.flag.toList
  message : Text.IsField e.message.toList
  message_ne_nil : e.message.toList ≠ []

/-- The value of a directive and the fields of an entry are what a line can hold. -/
def Line.WellFormed : Line → Prop
  | directive _ value => Text.IsField value.toList
  | entry e => e.WellFormed
  | ignored => True

/-- The values of the directives and the fields of the entries are what a definition file can
hold. -/
structure Definition.WellFormed (d : Definition) : Prop where
  value : ∀ key value, d.directives.get? key = some value → Text.IsField value.toList
  entry : ∀ e ∈ d.entries, e.WellFormed

theorem Line.wellFormed_classify (text : String) : (classify text).WellFormed := by
  cases h : classify text with
  | directive key value =>
    obtain ⟨rest, -, hrest, rfl⟩ := classify_eq_directive.1 h
    simp only [WellFormed, String.toList_ofList]
    exact ⟨Text.trim_trim rest, fun hmem => hrest (Text.mem_of_mem_trim hmem)⟩
  | entry e =>
    obtain ⟨_, _, _, htext, hcode, -, hexception, -, hflag, -, hmessage⟩ := classify_eq_entry.1 h
    -- The message ends where the trimmed line ends.
    have hend : EndsSolid e.message.toList := by
      intro c hc
      apply Text.endsSolid_trim text.toList
      rw [htext, List.getLast?_append, Option.mem_def.1 hc]
      rfl
    exact ⟨hcode, hexception, hflag,
      ⟨Text.trim_eq_self_iff.2 ⟨hmessage.startsSolid, hend⟩, hmessage.noNewline⟩,
      hmessage.ne_nil⟩
  | ignored => trivial

theorem Definition.wellFormed_ofLines {ls : List Line} (h : ∀ line ∈ ls, line.WellFormed) :
    (ofLines ls).WellFormed := by
  refine ⟨fun key value hvalue => ?_, fun e he => ?_⟩
  · rw [get?_ofLines] at hvalue
    obtain ⟨line, hline, hfor⟩ := List.mem_filterMap.1 (List.mem_of_getLast? hvalue)
    obtain rfl := Line.valueFor?_eq_some.1 hfor
    exact h _ hline
  · obtain ⟨line, hline, has⟩ := List.mem_filterMap.1 he
    obtain rfl := Line.asEntry_eq_some.1 has
    exact h _ hline

/-- Whatever a definition file says is well formed. -/
theorem Definition.wellFormed_parse (content : String) : (parse content).WellFormed := by
  apply wellFormed_ofLines
  rw [List.forall_mem_map]
  exact fun line _ => Line.wellFormed_classify line

/-! ## Layouts -/

/-- Blanks within a line. -/
def Text.IsSpacing (cs : List Char) : Prop :=
  ∀ c ∈ cs, isBlank c = true ∧ c ≠ '\n'

instance (cs : List Char) : Decidable (Text.IsSpacing cs) :=
  decidable_of_iff (cs.all fun c => Text.isBlank c && c != '\n') (by simp [Text.IsSpacing])

namespace Text.IsSpacing

variable {cs : List Char}

theorem isBlank (h : IsSpacing cs) : ∀ c ∈ cs, isBlank c = true :=
  fun c hc => (h c hc).1

theorem newline_notMem (h : IsSpacing cs) : '\n' ∉ cs :=
  fun hmem => (h _ hmem).2 rfl

theorem mark_notMem (h : IsSpacing cs) : byteOrderMark ∉ cs :=
  fun hmem => absurd (h.isBlank _ hmem) (by decide)

end Text.IsSpacing

/-- How a line is laid out. -/
structure Layout where
  /-- The blanks in front of the line. -/
  indent : { cs : List Char // Text.IsSpacing cs } := ⟨[], by decide⟩
  /-- The blanks between the fields of an entry. -/
  gap₁ : { cs : List Char // cs ≠ [] ∧ Text.IsSpacing cs } := ⟨[' '], by decide⟩
  gap₂ : { cs : List Char // cs ≠ [] ∧ Text.IsSpacing cs } := ⟨[' '], by decide⟩
  gap₃ : { cs : List Char // cs ≠ [] ∧ Text.IsSpacing cs } := ⟨[' '], by decide⟩
  /-- The blanks behind the line. -/
  trail : { cs : List Char // Text.IsSpacing cs } := ⟨[], by decide⟩
  /-- The line ends in a carriage return and a line feed, not in a line feed alone. -/
  carriageReturn : Bool := false

namespace Layout

/-- Nothing but a blank between the fields of an entry, and a line feed. -/
def plain : Layout := {}

/-- A line without the blanks around it. A line that says nothing is left empty. -/
def body (layout : Layout) : Line → List Char
  | .directive key value => key.name.toList ++ '=' :: value.toList
  | .entry e =>
    e.code.toList ++ layout.gap₁ ++ e.exception.toList ++ layout.gap₂ ++ e.flag.toList ++
      layout.gap₃ ++ e.message.toList
  | .ignored => []

/-- What stands between the body of a line and its line feed. -/
def back (layout : Layout) : List Char :=
  layout.trail ++ if layout.carriageReturn then ['\r'] else []

/-- A line as it is written, up to its line feed. -/
def text (layout : Layout) (line : Line) : String :=
  String.ofList (layout.indent ++ layout.body line ++ layout.back)

theorem isGap {gap : List Char} (h : gap ≠ [] ∧ Text.IsSpacing gap) : Line.IsGap gap :=
  ⟨h.1, h.2.isBlank⟩

theorem isSpacing_back (layout : Layout) : Text.IsSpacing layout.back := by
  intro c hc
  rcases List.mem_append.1 hc with htrail | hreturn
  · exact layout.trail.2 c htrail
  · split at hreturn
    · rw [List.mem_singleton] at hreturn
      subst hreturn
      decide
    · simp at hreturn

/-- The blanks around a line are trimmed away. -/
theorem trim_text (layout : Layout) (line : Line) :
    Text.trim (layout.text line).toList = Text.trim (layout.body line) := by
  rw [text, String.toList_ofList, Text.trim_append_blanks layout.isSpacing_back.isBlank,
    Text.trim_blanks_append layout.indent.2.isBlank]

end Layout

theorem Line.isWord_name (key : DirectiveKey) : IsWord key.name.toList :=
  ⟨by cases key <;> decide, isWordChar_of_mem_name key⟩

theorem Line.IsWord.head {w : List Char} (h : IsWord w) (r : List Char) :
    ∀ c ∈ (w ++ r).head?, isWordChar c = true := by
  obtain ⟨hne, hall⟩ := h
  cases w with
  | nil => exact absurd rfl hne
  | cons c w => simpa using hall c List.mem_cons_self

theorem Line.EndsSolid.append {cs : List Char} (h : EndsSolid cs) (hne : cs ≠ [])
    (before : List Char) : EndsSolid (before ++ cs) := by
  intro c hc
  rw [List.getLast?_append, List.getLast?_eq_some_getLast hne] at hc
  exact h c (by rw [List.getLast?_eq_some_getLast hne]; exact hc)

theorem Text.IsField.endsSolid {cs : List Char} (h : Text.IsField cs) : Line.EndsSolid cs :=
  (Text.trim_eq_self_iff.1 h.trimmed).2

namespace Layout

theorem trim_body (layout : Layout) {line : Line} (h : line.WellFormed) :
    Text.trim (layout.body line) = layout.body line := by
  cases line with
  | directive key value =>
    refine Text.trim_eq_self_iff.2 ⟨(Line.isWord_name key).startsSolid _, ?_⟩
    -- An empty value leaves the equals sign at the end.
    have hvalue : Line.EndsSolid ('=' :: value.toList) := by
      cases hcs : value.toList with
      | nil =>
        intro c hc
        cases hc
        decide
      | cons c cs => exact (hcs ▸ Text.IsField.endsSolid h).append (by simp) ['=']
    exact hvalue.append (by simp) _
  | entry e =>
    refine Text.trim_eq_self_iff.2 ⟨?_, h.message.endsSolid.append h.message_ne_nil _⟩
    simp only [body, List.append_assoc]
    exact h.code.startsSolid _
  | ignored => rfl

/-- A well-formed line is understood as it was meant, however it is laid out. -/
theorem classify_text (layout : Layout) {line : Line} (h : line.WellFormed) :
    Line.classify (layout.text line) = line := by
  have htrim : Text.trim (layout.text line).toList = layout.body line :=
    (layout.trim_text line).trans (layout.trim_body h)
  cases line with
  | directive key value =>
    refine Line.classify_eq_directive.2 ⟨value.toList, htrim, h.noNewline, ?_⟩
    rw [h.trimmed, String.ofList_toList]
  | entry e =>
    have hmessage : Line.IsMessage e.message.toList :=
      ⟨h.message_ne_nil, h.message.noNewline, (Text.trim_eq_self_iff.1 h.message.trimmed).1⟩
    exact Line.classify_eq_entry.2 ⟨_, _, _, htrim, h.code, isGap layout.gap₁.2, h.exception,
      isGap layout.gap₂.2, h.flag, isGap layout.gap₃.2, hmessage⟩
  | ignored =>
    rw [← Line.classify_empty]
    exact Line.classify_of_trim_eq htrim

theorem newline_notMem_text (layout : Layout) {line : Line} (h : line.WellFormed) :
    '\n' ∉ (layout.text line).toList := by
  have hbody : '\n' ∉ layout.body line := by
    cases line with
    | directive key value =>
      simp [body, (Line.isWord_name key).newline_notMem, h.noNewline]
    | entry e =>
      simp [body, h.code.newline_notMem, h.exception.newline_notMem, h.flag.newline_notMem,
        h.message.noNewline, layout.gap₁.2.2.newline_notMem, layout.gap₂.2.2.newline_notMem,
        layout.gap₃.2.2.newline_notMem]
    | ignored => simp [body]
  simp [text, hbody, layout.indent.2.newline_notMem, layout.isSpacing_back.newline_notMem]

theorem isWordChar_head_body (layout : Layout) {line : Line} (h : line.WellFormed) :
    ∀ c ∈ (layout.body line).head?, Line.isWordChar c = true := by
  cases line with
  | directive key value => exact (Line.isWord_name key).head _
  | entry e =>
    simp only [body, List.append_assoc]
    exact h.code.head _
  | ignored => simp [body]

/-- A line starts with a blank or with a word, so never with a byte-order mark. -/
theorem head_text_ne_mark (layout : Layout) {line : Line} (h : line.WellFormed) :
    ∀ c ∈ (layout.text line).toList.head?, c ≠ Text.byteOrderMark := by
  intro c hc
  rw [text, String.toList_ofList, List.append_assoc] at hc
  cases hindent : layout.indent.1 with
  | cons d ds =>
    rw [hindent] at hc
    cases hc
    exact ne_of_mem_of_not_mem (by simp [hindent]) layout.indent.2.mark_notMem
  | nil =>
    rw [hindent, List.nil_append] at hc
    cases hbody : layout.body line with
    | cons d ds =>
      rw [hbody] at hc
      cases hc
      have hword := layout.isWordChar_head_body h c (by rw [hbody]; rfl)
      rintro rfl
      exact absurd hword (by decide)
    | nil =>
      rw [hbody, List.nil_append] at hc
      exact ne_of_mem_of_not_mem (List.mem_of_mem_head? hc) layout.isSpacing_back.mark_notMem

end Layout

/-! ## Written definitions -/

/-- The lines of the directives that are set. -/
def Directives.lines (directives : Directives) : List Line :=
  DirectiveKey.all.filterMap fun key => (directives.get? key).map (.directive key)

namespace Definition

/-- The lines of a definition: one for each directive that is set, and one for each entry. -/
def toLines (d : Definition) : List Line :=
  d.directives.lines ++ d.entries.map .entry

/-- The lines of a definition in an order of their own: the directives can stand anywhere
among the entries, and the entries are in order. -/
structure IsListing (d : Definition) (ls : List Line) : Prop where
  perm : ls.Perm d.toLines
  entries : ls.filterMap Line.asEntry = d.entries

/-- The text of lines, each in its layout. -/
def write (rows : List (Line × Layout)) : String :=
  Text.unlines (rows.map fun row => row.2.text row.1)

/-- A definition, the directives first and everything in the plain layout. -/
def print (d : Definition) : String :=
  write (d.toLines.map (·, .plain))

theorem segments_write {rows : List (Line × Layout)} (h : ∀ row ∈ rows, row.1.WellFormed) :
    segments (write rows) = (rows.map fun row => row.2.text row.1) ++ [""] := by
  have hnewline : ∀ l ∈ rows.map fun row => row.2.text row.1, '\n' ∉ l.toList := by
    rw [List.forall_mem_map]
    exact fun row hrow => row.2.newline_notMem_text (h row hrow)
  have hmark : (write rows).toList.head? ≠ some Text.byteOrderMark := by
    cases rows with
    | nil => simp [write, Text.unlines]
    | cons row rows =>
      have hhead := row.2.head_text_ne_mark (h row List.mem_cons_self)
      simp only [write, Text.toList_unlines, List.map_cons, List.flatMap_cons, List.append_assoc,
        List.head?_append]
      cases hrow : (row.2.text row.1).toList.head? with
      | none => simp [Text.byteOrderMark]
      | some c => simpa using hhead c hrow
  exact segments_unlines hnewline hmark

theorem ofLines_concat_ignored (ls : List Line) : ofLines (ls ++ [.ignored]) = ofLines ls := by
  simp [ofLines, Directives.add, Line.asEntry]

/-- **Lines are read back** in whatever layout they are written. -/
theorem parse_write {rows : List (Line × Layout)} (h : ∀ row ∈ rows, row.1.WellFormed) :
    parse (write rows) = ofLines (rows.map Prod.fst) := by
  rw [parse_eq_segments, segments_write h, List.map_append, List.map_singleton,
    Line.classify_empty, ofLines_concat_ignored, List.map_map]
  refine congrArg ofLines (List.map_congr_left fun row hrow => ?_)
  rw [Function.comp_apply, row.2.classify_text (h row hrow)]

theorem wellFormed_of_mem_toLines {d : Definition} (h : d.WellFormed) :
    ∀ line ∈ d.toLines, line.WellFormed := by
  intro line hline
  rcases List.mem_append.1 hline with hdirective | hentry
  · obtain ⟨key, -, hkey⟩ := List.mem_filterMap.1 hdirective
    obtain ⟨value, hvalue, rfl⟩ := Option.map_eq_some_iff.1 hkey
    exact h.value key value hvalue
  · obtain ⟨e, he, rfl⟩ := List.mem_map.1 hentry
    exact h.entry e he

/-- The lines of a definition set each key to its value, and only once. -/
theorem filterMap_valueFor?_toLines (d : Definition) (key : DirectiveKey) :
    d.toLines.filterMap (Line.valueFor? key) = (d.directives.get? key).toList := by
  have hentries : (d.entries.map Line.entry).filterMap (Line.valueFor? key) = [] := by
    simp [List.filterMap_map, Line.valueFor?]
  have hkeys : ∀ other, ((d.directives.get? other).map (Line.directive other)).bind
      (Line.valueFor? key) = if other = key then d.directives.get? key else none := by
    intro other
    by_cases h : other = key
    · subst h
      cases d.directives.get? other <;> simp [Line.valueFor?]
    · cases d.directives.get? other <;> simp [Line.valueFor?, h]
  rw [toLines, List.filterMap_append, hentries, List.append_nil, Directives.lines,
    List.filterMap_filterMap]
  simp only [hkeys]
  cases hget : d.directives.get? key <;> cases key <;> rfl

theorem ofLines_of_isListing {d : Definition} {ls : List Line} (h : d.IsListing ls) :
    ofLines ls = d := by
  have hdirectives : (ofLines ls).directives = d.directives := by
    apply Directives.ext_get?
    intro key
    have hperm := h.perm.filterMap (Line.valueFor? key)
    rw [filterMap_valueFor?_toLines] at hperm
    rw [get?_ofLines]
    cases hget : d.directives.get? key with
    | none =>
      rw [hget] at hperm
      rw [hperm.eq_nil]
      rfl
    | some value =>
      rw [hget] at hperm
      rw [hperm.eq_singleton]
      rfl
  calc ofLines ls = ⟨(ofLines ls).directives, ls.filterMap Line.asEntry⟩ := rfl
    _ = d := by rw [hdirectives, h.entries]

theorem isListing_toLines (d : Definition) : d.IsListing d.toLines := by
  refine ⟨.refl _, ?_⟩
  have hdirectives : d.directives.lines.filterMap Line.asEntry = [] := by
    rw [Directives.lines, List.filterMap_filterMap, List.filterMap_eq_nil_iff]
    intro key _
    cases d.directives.get? key <;> rfl
  rw [toLines, List.filterMap_append, hdirectives, List.nil_append, List.filterMap_map]
  exact List.filterMap_some

/-- **Definition files round-trip.** What a definition file says is well formed. A well-formed
definition is read back from every text that it is written as: the directives anywhere among
the entries, and every line in a layout of its own. So printing what a definition file says
gives a file that says the same, and the well-formed definitions are exactly what definition
files can say. -/
theorem parse_printing :
    (∀ content, (parse content).WellFormed) ∧
    (∀ (d : Definition) (rows : List (Line × Layout)), d.WellFormed →
      d.IsListing (rows.map Prod.fst) → parse (write rows) = d) ∧
    (∀ content, parse (print (parse content)) = parse content) ∧
    ∀ d : Definition, (∃ content, parse content = d) ↔ d.WellFormed := by
  have hwrite : ∀ (d : Definition) (rows : List (Line × Layout)), d.WellFormed →
      d.IsListing (rows.map Prod.fst) → parse (write rows) = d := by
    intro d rows hd hrows
    have hlines : ∀ row ∈ rows, row.1.WellFormed := fun row hrow =>
      wellFormed_of_mem_toLines hd _ (hrows.perm.mem_iff.1 (List.mem_map_of_mem hrow))
    rw [parse_write hlines, ofLines_of_isListing hrows]
  have hprint : ∀ d : Definition, d.WellFormed → parse (print d) = d := by
    intro d hd
    refine hwrite d _ hd ?_
    rw [List.map_map, Function.comp_def, List.map_id']
    exact isListing_toLines d
  refine ⟨wellFormed_parse, hwrite, fun content => hprint _ (wellFormed_parse content),
    fun d => ⟨?_, fun hd => ⟨_, hprint d hd⟩⟩⟩
  rintro ⟨content, rfl⟩
  exact wellFormed_parse content

/-- A value that is empty, one with a carriage return inside, and a message that looks like a
directive with a byte-order mark in it. -/
def oddDefinition : Definition where
  directives := { legacyOutput := some "", output := some "a\rb" }
  entries := [⟨"E", "X", "0", "OUTPUT=\ufeff c"⟩, ⟨"_", "X", "F", "m"⟩]

def oddRows : List (Line × Layout) :=
  [(.entry ⟨"E", "X", "0", "OUTPUT=\ufeff c"⟩,
      { indent := ⟨['\t'], by decide⟩, gap₂ := ⟨['\u2003', '\r'], by decide⟩,
        carriageReturn := true }),
    (.directive .output "a\rb", { trail := ⟨['\r', ' '], by decide⟩ }),
    (.entry ⟨"_", "X", "F", "m"⟩, .plain),
    (.directive .legacyOutput "", { carriageReturn := true })]

theorem parse_write_oddRows :
    oddDefinition.WellFormed ∧ oddDefinition.IsListing (oddRows.map Prod.fst) ∧
      parse (write oddRows) = oddDefinition := by
  have hformed : oddDefinition.WellFormed := by
    refine ⟨fun key value h => ?_, ?_⟩
    · cases key <;> cases h <;> decide +kernel
    · simp only [oddDefinition, List.forall_mem_cons]
      refine ⟨?_, ?_, nofun⟩ <;>
        exact ⟨by decide +kernel, by decide +kernel, by decide +kernel, by decide +kernel,
          by decide +kernel⟩
  have hlisting : oddDefinition.IsListing (oddRows.map Prod.fst) :=
    ⟨by decide +kernel, by decide +kernel⟩
  exact ⟨hformed, hlisting, parse_printing.2.1 oddDefinition oddRows hformed hlisting⟩

end Definition

end ErrorTable
