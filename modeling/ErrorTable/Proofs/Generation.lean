/-
What is generated from a definition file, by its lines.

A definition is collected by going through the lines once, each later directive replacing an
earlier one with the same key. In the end a key has the value of the last line that sets it, and
is unset if no line does (`lastValue?_eq_some`, `lastValue?_eq_none`). So every outcome of
`generate` can be read off the lines: which of them is the last directive with a key, and which
are entries (`generate_by_lines`).
-/
import ErrorTable.Proofs.Interleaving
import ErrorTable.Proofs.Runs

namespace ErrorTable

/-! ## The last line that sets a key -/

theorem getLast?_filterMap_eq_some {α β : Type} {f : α → Option β} {l : List α} {b : β} :
    (l.filterMap f).getLast? = some b ↔
      ∃ before a after, l = before ++ a :: after ∧ f a = some b ∧ ∀ x ∈ after, f x = none := by
  simp only [List.getLast?_eq_some_iff, List.filterMap_eq_append_iff, List.filterMap_eq_cons_iff,
    List.filterMap_eq_nil_iff]
  constructor
  · intro h
    obtain ⟨_, before, _, rfl, -, skipped, a, after, rfl, -, ha, hafter⟩ := h
    exact ⟨before ++ skipped, a, after, by simp, ha, hafter⟩
  · intro h
    obtain ⟨before, a, after, rfl, ha, hafter⟩ := h
    exact ⟨_, before, _, rfl, rfl, [], a, after, rfl, by simp, ha, hafter⟩

namespace Definition

/-- The last line of a text that is a directive with a key gives it a value. -/
def LastSets (content : String) (key : DirectiveKey) (value : String) : Prop :=
  ∃ before line after, lines content = before ++ line :: after ∧
    Line.classify line = .directive key value ∧
      ∀ later ∈ after, ∀ other, Line.classify later ≠ .directive key other

/-- No line of a text is a directive with a key. -/
def Unset (content : String) (key : DirectiveKey) : Prop :=
  ∀ line ∈ lines content, ∀ value, Line.classify line ≠ .directive key value

theorem valueFor?_classify_eq_none {key : DirectiveKey} {line : String} :
    (Line.classify line).valueFor? key = none ↔
      ∀ value, Line.classify line ≠ .directive key value := by
  simp only [Option.eq_none_iff_forall_ne_some, ne_eq, Line.valueFor?_eq_some]

theorem lastValue?_eq_some {content value : String} {key : DirectiveKey} :
    lastValue? key content = some value ↔ LastSets content key value := by
  rw [lastValue?, List.filterMap_map, getLast?_filterMap_eq_some]
  simp only [Function.comp_apply, Line.valueFor?_eq_some, valueFor?_classify_eq_none, LastSets]

theorem lastValue?_eq_none {content : String} {key : DirectiveKey} :
    lastValue? key content = none ↔ Unset content key := by
  rw [lastValue?, List.filterMap_map, List.getLast?_eq_none_iff, List.filterMap_eq_nil_iff]
  simp only [Function.comp_apply, valueFor?_classify_eq_none, Unset]

/-- The array gets the name that the last line for it gives, and none if there is no such line. -/
theorem arrayName_parse_eq_iff {content name : String} :
    (parse content).arrayName = name ↔
      LastSets content .arrayName name ∨ Unset content .arrayName ∧ name = "" := by
  rw [arrayName_parse, ← lastValue?_eq_some, ← lastValue?_eq_none]
  cases lastValue? .arrayName content with
  | none => simp [eq_comm]
  | some value => simp

theorem output?_parse_eq_some {content output : String} :
    (parse content).output? = some output ↔ LastSets content .output output ∧ output ≠ "" := by
  rw [output?_parse, lastValue?_eq_some]

theorem output?_parse_eq_none {content : String} :
    (parse content).output? = none ↔ Unset content .output ∨ LastSets content .output "" := by
  rw [← lastValue?_eq_none, ← lastValue?_eq_some, Option.eq_none_iff_forall_ne_some]
  simp only [ne_eq, output?_parse]
  cases lastValue? .output content with
  | none => simp
  | some value => simp

/-- An empty value in the last place counts, and not the one before it. -/
example : (parse "OUTPUT=x\nOUTPUT_FILE=y\nOUTPUT= \n").output? = none := by decide +kernel

/-- The entries of a text are those of its entry lines, in their order. -/
theorem entries_parse (content : String) :
    (parse content).entries =
      (lines content).filterMap fun line => (Line.classify line).asEntry := by
  rw [parse, ofLines, List.filterMap_map]
  rfl

theorem length_entries_parse (content : String) :
    (parse content).entries.length = (lines content).countP Line.isEntry := by
  rw [entries_parse, List.length_filterMap_eq_countP]
  rfl

end Definition

/-! ## The outcomes of `generate` -/

/-- A file that is no text cannot be read as one, for whatever reason. -/
theorem exists_readText_eq_error {fs : FileSystem} {path : Path} :
    (∃ error, fs.readText path = .error error) ↔
      ∀ content : String, fs.read path ≠ .ok content.toUTF8 := by
  simp only [ne_eq, ← FileSystem.readText_eq_ok]
  cases fs.readText path with
  | error error => simp
  | ok content => simp

theorem generated_eq_error {fs : FileSystem} {path : Path} {failure : Failure} :
    fs.generated path = .error failure ↔
      (∃ error, fs.readText path = .error error ∧ failure = .readInput path error) ∨
        ∃ content, fs.readText path = .ok content ∧ (Definition.parse content).output? = none ∧
          failure = .missingOutput path := by
  rw [FileSystem.generated, run_generate]
  cases fs.readText path with
  | error error => simp [eq_comm]
  | ok content =>
    cases houtput : (Definition.parse content).output? with
    | none => simp [houtput, eq_comm]
    | some output => simp [houtput]

open Definition in
/-- **What `generate` does, by the lines of its input.** It leaves the file system alone and writes
nothing, so it never fails to write. It fails to read exactly if the path does not hold a text. It
misses the output exactly if no line is an output directive, or if the last one that is has no
value, whatever is said before it. In every other case it succeeds: the last output directive says
where the fragment belongs, the last directive for the array gives the name, the entry lines in
their order are the records, and the entry count is how many of them there are. -/
theorem generate_by_lines (fs : FileSystem) (path : Path) :
    ((generate path).run fs).files = fs ∧
    (∀ output error, fs.generated path ≠ .error (.writeOutput output error)) ∧
    (∀ input, (∃ error, fs.generated path = .error (.readInput input error)) ↔
      input = path ∧ ∀ content : String, fs.read path ≠ .ok content.toUTF8) ∧
    (∀ input, fs.generated path = .error (.missingOutput input) ↔
      input = path ∧ ∃ content : String, fs.read path = .ok content.toUTF8 ∧
        (Unset content .output ∨ LastSets content .output "")) ∧
    ∀ g, fs.generated path = .ok g ↔
      ∃ content output name : String, fs.read path = .ok content.toUTF8 ∧
        LastSets content .output output ∧ output ≠ "" ∧
        (LastSets content .arrayName name ∨ Unset content .arrayName ∧ name = "") ∧
        g = {
          input := path
          output := path.dir.join ⟨output⟩
          fragment := Fragment.render name
            ((lines content).filterMap fun line => (Line.classify line).asEntry)
          entryCount := (lines content).countP Line.isEntry } := by
  refine ⟨files_generate path fs, fun output error => ?_, fun input => ?_, fun input => ?_,
    fun g => ?_⟩
  · simp [generated_eq_error]
  · simp only [generated_eq_error, ← exists_readText_eq_error]
    simp [and_comm, eq_comm]
  · simp only [generated_eq_error, ← output?_parse_eq_none, ← FileSystem.readText_eq_ok]
    simp [and_comm, and_assoc]
  · simp only [generated_eq_ok, ← arrayName_parse_eq_iff, output?_parse_eq_some,
      ← FileSystem.readText_eq_ok, ← entries_parse, ← length_entries_parse]
    constructor
    · intro h
      obtain ⟨content, output, hread, ⟨hlast, hne⟩, rfl⟩ := h
      exact ⟨content, output, _, hread, hlast, hne, rfl, rfl⟩
    · intro h
      obtain ⟨content, output, _, hread, hlast, hne, rfl, rfl⟩ := h
      exact ⟨content, output, hread, ⟨hlast, hne⟩, rfl⟩

end ErrorTable
