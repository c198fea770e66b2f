/-
When a table without a name is announced.

A table gets the name that the last directive for it gives, and none if there is no such
directive. The two cases look alike in the fragment if that last directive has an empty value, and
only one of them is announced: the warning asks for a directive (`namelessWarnings_eq`), and the
fragment for a value (`arrayName_parse_eq_iff`). So a table without a name is passed over in
silence exactly if its last directive is empty (`nameless_warned_iff`), as `OUTPUT_VAR=` on a line
of its own is (`nameless_unannounced`). An empty output, in contrast, counts as missing.
-/
import ErrorTable.Proofs.Events
import ErrorTable.Proofs.Generation

namespace ErrorTable

/-- The warnings of generating from an input that the table has no name. -/
def FileSystem.namelessWarnings (fs : FileSystem) (input : Path) : List Event :=
  ((generate input).run fs).events.filter Event.isUnnamedTable

namespace Definition

theorem filter_readEvents (content : String) (input : Path) :
    (readEvents content input).filter Event.isUnnamedTable = [] := by
  simp [readEvents, Event.isUnnamedTable, Event.level]

theorem filter_isUnnamedTable_warnings (d : Definition) (input : Path) (output : String) :
    (d.warnings input output).filter Event.isUnnamedTable =
      if d.directives.arrayName = none then [.unnamedTable input] else [] := by
  have hunnamed : (if d.directives.arrayName = none then [Event.unnamedTable input] else []).filter
      Event.isUnnamedTable =
        if d.directives.arrayName = none then [Event.unnamedTable input] else [] := by
    split <;> rfl
  rw [warnings, List.filter_append, hunnamed]
  cases d.directives.legacyOutput with
  | none => rfl
  | some legacy => by_cases hsame : legacy = output <;> simp [hsame, Event.isUnnamedTable_iff]

end Definition

open Definition

theorem namelessWarnings_eq {fs : FileSystem} {input : Path} {content output : String}
    (hread : fs.readText input = .ok content) (houtput : (parse content).output? = some output) :
    fs.namelessWarnings input =
      if lastValue? .arrayName content = none then [.unnamedTable input] else [] := by
  have hname : (parse content).directives.arrayName = lastValue? .arrayName content :=
    get?_parse content .arrayName
  rw [FileSystem.namelessWarnings, run_generate, hread]
  simp only [houtput, List.filter_append, filter_readEvents, filter_isUnnamedTable_warnings,
    List.nil_append, hname]

/-- **A table without a name, and its warning.** Whatever is generated declares an array with the
name that the last directive for it gives, and without a name if there is no such directive. With
a name there is no warning. Without a name there is one warning, unless the last directive for the
array is there and empty: then there is none. -/
theorem nameless_warned_iff {fs : FileSystem} {input : Path} {g : Generated}
    (hg : fs.generated input = .ok g) :
    ∃ content name : String, fs.read input = .ok content.toUTF8 ∧
      Fragment.decode g.fragment = some (name, (parse content).entries) ∧
      (LastSets content .arrayName name ∨ Unset content .arrayName ∧ name = "") ∧
      (name ≠ "" → fs.namelessWarnings input = []) ∧
      (name = "" →
        (fs.namelessWarnings input = [.unnamedTable input] ↔ ¬LastSets content .arrayName "") ∧
        (fs.namelessWarnings input = [] ↔ LastSets content .arrayName "")) := by
  obtain ⟨content, output, hread, houtput, rfl⟩ := generated_eq_ok.1 hg
  refine ⟨content, (parse content).arrayName, FileSystem.readText_eq_ok.1 hread,
    decode_generated content input output, arrayName_parse_eq_iff.1 rfl, ?_⟩
  rw [namelessWarnings_eq hread houtput, arrayName_parse, ← lastValue?_eq_some]
  cases lastValue? .arrayName content with
  | none => simp
  | some value => simp

/-- One definition file, and nothing else. -/
def namelessFiles (content : String) : FileSystem where
  nodes := [(["a.in"], .file content.toUTF8)]

theorem readText_namelessFiles (content : String) :
    (namelessFiles content).readText ⟨"a.in"⟩ = .ok content :=
  FileSystem.readText_eq_ok.2 (FileSystem.read_eq_ok.2 ⟨["a.in"], by rfl, rfl⟩)

/-- No directive names the array. -/
def namelessText : String := "OUTPUT=x\nE X F m\n"

theorem nameless_warned_namelessText :
    (∃ g, (namelessFiles namelessText).generated ⟨"a.in"⟩ = .ok g ∧
      Fragment.decode g.fragment = some ("", [⟨"E", "X", "F", "m"⟩])) ∧
    (namelessFiles namelessText).namelessWarnings ⟨"a.in"⟩ = [.unnamedTable ⟨"a.in"⟩] := by
  have hparse : parse namelessText =
      { directives := { output := some "x" }, entries := [⟨"E", "X", "F", "m"⟩] } := by
    decide +kernel
  have hread := readText_namelessFiles namelessText
  have hg := generated_eq_ok.2 ⟨_, "x", hread, by rw [hparse]; rfl, rfl⟩
  have hdecode := decode_generated namelessText ⟨"a.in"⟩ "x"
  obtain ⟨content, name, hcontent, hname, -, -, hempty⟩ := nameless_warned_iff hg
  cases FileSystem.ok_toUTF8_inj.1 ((FileSystem.readText_eq_ok.1 hread).symm.trans hcontent)
  obtain rfl : name = "" := by
    have hsame := hname.symm.trans hdecode
    rw [hparse] at hsame
    exact congrArg Prod.fst (Option.some.inj hsame)
  refine ⟨⟨_, hg, by rw [hdecode, hparse]; rfl⟩, (hempty rfl).1.2 ?_⟩
  rw [← lastValue?_eq_some]
  decide +kernel

/-- The one directive for the array is empty. -/
def blankedText : String := "OUTPUT_VAR=\nOUTPUT=x\nE X F m\n"

/-- **A table without a name can pass in silence.** -/
theorem nameless_unannounced :
    ∃ g, (namelessFiles blankedText).generated ⟨"a.in"⟩ = .ok g ∧
      Fragment.decode g.fragment = some ("", [⟨"E", "X", "F", "m"⟩]) ∧
      (namelessFiles blankedText).namelessWarnings ⟨"a.in"⟩ = [] := by
  have hparse : parse blankedText =
      { directives := { arrayName := some "", output := some "x" }
        entries := [⟨"E", "X", "F", "m"⟩] } := by
    decide +kernel
  have hread := readText_namelessFiles blankedText
  have houtput : (parse blankedText).output? = some "x" := by rw [hparse]; rfl
  refine ⟨_, generated_eq_ok.2 ⟨_, "x", hread, houtput, rfl⟩, ?_, ?_⟩
  · rw [decode_generated, hparse]
    rfl
  · rw [namelessWarnings_eq hread houtput]
    decide +kernel

end ErrorTable
