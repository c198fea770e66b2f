/-
A fragment handed to the tool as a definition file.

What every line of a fragment says is known: the line that opens the declaration is an entry, the
line of a message says what the message with a comma behind it says, and no other line says
anything (`Fragment.map_classify_lines`). So an output that is passed to the tool by mistake, or a
definition file that its own output has replaced, gives a strange entry and whatever its messages
look like.

In most cases it names no output, and the tool stops there. It names one exactly if a message
starts with `OUTPUT=` (`output?_parse_render_eq_none_iff`): such a value is never empty, since it
ends in the comma behind the message (`reread_eq_directive`).
-/
import ErrorTable.Proofs.FragmentLines
import ErrorTable.Proofs.Generation

namespace ErrorTable

theorem Definition.lines_render {arrayName : String} {entries : List Entry}
    (hname : '\n' ∉ arrayName.toList) (hentries : ∀ e ∈ entries, e.OnOneLine) :
    lines (Fragment.render arrayName entries) = Fragment.lines arrayName entries := by
  rw [lines, dropMark_eq_self (Fragment.head?_render_ne_mark arrayName entries),
    Fragment.lines_render hname hentries]

/-! ## Messages that are directives -/

theorem Text.IsField.trimStart_eq {cs : List Char} (h : IsField cs) : trimStart cs = cs :=
  Line.dropWhile_span (w := []) (by simp) (trim_eq_self_iff.1 h.trimmed).1

/-- A message is read as a directive if it starts with a key and `=`. The comma behind the message
becomes the end of the value. -/
theorem Entry.reread_eq_directive {e : Entry} (h : e.WellFormed) {key : DirectiveKey}
    {value : String} :
    e.reread = .directive key value ↔
      ∃ rest, e.message.toList = key.name.toList ++ '=' :: rest ∧
        value = String.ofList (Text.trimStart rest ++ [',']) := by
  have hcomma : Text.isBlank ',' = false := by decide
  have htrim : Text.trim (e.message ++ ",").toList = e.message.toList ++ [','] := by
    have htext : (e.message ++ ",").toList = e.message.toList ++ [','] := by simp
    rw [htext, Text.trim_concat hcomma, h.message.trimStart_eq]
  rw [reread, Line.classify_eq_directive, htrim]
  constructor
  · intro hline
    obtain ⟨rest, htext, -, rfl⟩ := hline
    rcases List.eq_nil_or_concat rest with rfl | ⟨rest, c, rfl⟩
    · -- The text ends in a comma, and a key and `=` do not.
      have hlast := congrArg List.getLast? htext
      simp at hlast
    · have htext : e.message.toList ++ [','] = (key.name.toList ++ '=' :: rest) ++ [c] := by
        simpa using htext
      obtain ⟨hmessage, hc⟩ := List.append_inj' htext rfl
      cases hc
      exact ⟨rest, hmessage, by rw [List.concat_eq_append, Text.trim_concat hcomma]⟩
  · intro hmessage
    obtain ⟨rest, htext, rfl⟩ := hmessage
    refine ⟨rest ++ [','], by simp [htext], ?_, by rw [Text.trim_concat hcomma]⟩
    have hline := h.message.noNewline
    rw [htext] at hline
    simp_all

namespace Definition

variable {arrayName : String} {entries : List Entry}

theorem output?_parse_render_eq_none_iff (hname : Text.IsField arrayName.toList)
    (hentries : ∀ e ∈ entries, e.WellFormed) :
    (parse (Fragment.render arrayName entries)).output? = none ↔
      ∀ e ∈ entries, ¬"OUTPUT=".toList <+: e.message.toList := by
  have hprefix : ∀ e ∈ entries, (∃ value, e.reread = .directive .output value) ↔
      "OUTPUT=".toList <+: e.message.toList := by
    intro e he
    simp only [Entry.reread_eq_directive (hentries e he)]
    constructor
    · intro h
      obtain ⟨_, rest, hmessage, -⟩ := h
      exact ⟨rest, by rw [hmessage]; rfl⟩
    · intro h
      obtain ⟨rest, hmessage⟩ := h
      exact ⟨_, rest, hmessage.symm, rfl⟩
  have hvalue : ∀ value, (parse (Fragment.render arrayName entries)).directives.get? .output =
      some value → value ≠ "" := by
    rintro value hget rfl
    obtain ⟨e, he, hdirective⟩ := exists_message_of_get? hname hentries hget
    obtain ⟨rest, -, hempty⟩ := (Entry.reread_eq_directive (hentries e he)).1 hdirective
    simpa using congrArg String.toList hempty
  have hunset : (parse (Fragment.render arrayName entries)).output? = none ↔
      (parse (Fragment.render arrayName entries)).directives.get? .output = none := by
    simp only [Option.eq_none_iff_forall_ne_some, ne_eq, output?_parse, ← get?_parse]
    exact forall_congr' fun value => not_congr ⟨fun h => h.1, fun h => ⟨h, hvalue value h⟩⟩
  rw [hunset, parse_render hname hentries, get?_ofLines, List.getLast?_eq_none_iff,
    List.filterMap_eq_nil_iff, List.forall_mem_cons, List.forall_mem_map]
  simp only [Option.eq_none_iff_forall_ne_some, ne_eq, Line.valueFor?_eq_some, reduceCtorEq,
    not_false_eq_true, implies_true, true_and]
  exact forall₂_congr fun e he => by rw [← hprefix e he, not_exists]

end Definition

/-! ## A fragment as a definition file -/

open Definition in
/-- **A fragment handed to the tool.** Take the fragment of any definition file. Read as a
definition file it has the entry that its opening line is, and then the entries among its messages
with a comma behind each, and its directives are what the directives among them set, in their
order. No other line says anything. So nothing can be generated from a file that holds the
fragment, since it names no output, exactly if no message starts with `OUTPUT=`. -/
theorem fragment_as_definition (content : String) :
    let arrayName := (parse content).arrayName
    let entries := (parse content).entries
    let said := entries.map fun e => Line.classify (e.message ++ ",")
    (parse (Fragment.render arrayName entries)).entries =
      ⟨"static", "struct", "err_msg_info", arrayName ++ "[] = \x7b"⟩ ::
        said.filterMap Line.asEntry ∧
    (parse (Fragment.render arrayName entries)).directives = said.foldl Directives.add {} ∧
    (lines (Fragment.render arrayName entries)).map Line.classify =
      List.replicate (Fragment.bannerLines.length + 1) .ignored ++
        (.entry ⟨"static", "struct", "err_msg_info", arrayName ++ "[] = \x7b"⟩ ::
          entries.flatMap (fun e => [.ignored, .ignored, Line.classify (e.message ++ ","),
            .ignored, .ignored, .ignored, .ignored]) ++ [.ignored]) ∧
    ∀ (fs : FileSystem) (path : Path),
      fs.read path = .ok (Fragment.render arrayName entries).toUTF8 →
        (fs.generated path = .error (.missingOutput path) ↔
          ∀ e ∈ entries, ¬"OUTPUT=".toList <+: e.message.toList) := by
  intro arrayName entries said
  have hname : Text.IsField arrayName.toList := isField_arrayName content
  have hentries : ∀ e ∈ entries, e.WellFormed := (wellFormed_parse content).entry
  refine ⟨?_, ?_, ?_, fun fs path hread => ?_⟩
  · rw [parse_render hname hentries]
    rfl
  · rw [parse_render hname hentries]
    rfl
  · rw [lines_render hname.noNewline fun e he => (hentries e he).onOneLine]
    exact Fragment.map_classify_lines hname hentries
  · rw [← output?_parse_render_eq_none_iff hname hentries, generated_eq_error,
      FileSystem.readText_eq_ok.2 hread]
    simp

/-- A definition file with a message that is a directive once more, and one that is an entry. -/
def resubmittedText : String := "OUTPUT_VAR=t\nOUTPUT=x\nE X F OUTPUT= y\nE X F A B C d\n"

def resubmittedEntries : List Entry := [⟨"E", "X", "F", "OUTPUT= y"⟩, ⟨"E", "X", "F", "A B C d"⟩]

/-- Its fragment, where it belongs. -/
def resubmittedFiles : FileSystem where
  nodes := [(["x"], .file (Fragment.render "t" resubmittedEntries).toUTF8)]

theorem fragment_as_definition_resubmittedFiles :
    (Definition.parse (Fragment.render "t" resubmittedEntries)).entries =
      [⟨"static", "struct", "err_msg_info", "t[] = \x7b"⟩, ⟨"A", "B", "C", "d,"⟩] ∧
    (Definition.parse (Fragment.render "t" resubmittedEntries)).directives =
      { output := some "y," } ∧
    resubmittedFiles.read ⟨"x"⟩ = .ok (Fragment.render "t" resubmittedEntries).toUTF8 ∧
    resubmittedFiles.generated ⟨"x"⟩ ≠ .error (.missingOutput ⟨"x"⟩) := by
  have hparse : Definition.parse resubmittedText =
      { directives := { arrayName := some "t", output := some "x" }
        entries := resubmittedEntries } := by
    decide +kernel
  have hread : resubmittedFiles.read ⟨"x"⟩ =
      .ok (Fragment.render "t" resubmittedEntries).toUTF8 :=
    FileSystem.read_eq_ok.2 ⟨["x"], by decide, rfl⟩
  obtain ⟨hentries, hdirectives, -, hmissing⟩ := fragment_as_definition resubmittedText
  rw [hparse] at hentries hdirectives hmissing
  refine ⟨hentries.trans (by decide +kernel), hdirectives.trans (by decide +kernel), hread,
    fun h => ?_⟩
  exact (hmissing resubmittedFiles ⟨"x"⟩ hread).1 h ⟨"E", "X", "F", "OUTPUT= y"⟩
    (by simp [resubmittedEntries]) ⟨" y".toList, rfl⟩

end ErrorTable
