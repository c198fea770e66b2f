/-
The legacy output directive is read and reported, but never followed.

Take two texts that differ in legacy directives only: some of them have another value in the other
text, or a blank line stands in their place (`Line.LegacyEdit`). A line that is edited is neither an
entry nor a directive with another key, and it is not unrecognized, before or after. So both texts
give the same entries, the same values of the other keys and the same numbers of unrecognized lines
(`parse_of_edit`, `unrecognizedLines_of_edit`), and what is generated depends on nothing else. The
value of a legacy directive reaches one event, the warning that it is ignored, and no other
(`run_generate_of_edit`).
-/
import ErrorTable.Proofs.Events
import ErrorTable.Proofs.Generation
import ErrorTable.Proofs.Noise

namespace ErrorTable

/-! ## Edited lines -/

namespace Line

theorem isDirective_iff {key : DirectiveKey} {line : String} :
    isDirective key line = true ↔ ∃ value, classify line = .directive key value := by
  simp only [isDirective, Option.isSome_iff_exists, valueFor?_eq_some]

/-- A line is left as it is, or it is a legacy directive, and another one or a blank line takes its
place. -/
inductive LegacyEdit : String → String → Prop where
  | keep (line : String) : LegacyEdit line line
  | replace {line other : String} (hline : isDirective .legacyOutput line = true)
      (hother : isDirective .legacyOutput other = true ∨ isBlank other = true) :
      LegacyEdit line other

variable {line other : String}

/-- What is the same for all legacy directives and all blank lines stays the same in an edit. -/
theorem LegacyEdit.congr {β : Type} (f : String → β) (b : β)
    (hlegacy : ∀ l value, classify l = .directive .legacyOutput value → f l = b)
    (hblank : ∀ l, isBlank l = true → f l = b) (h : LegacyEdit line other) : f line = f other := by
  have hdirective : ∀ l, isDirective .legacyOutput l = true → f l = b := by
    intro l hl
    obtain ⟨value, hvalue⟩ := isDirective_iff.1 hl
    exact hlegacy l value hvalue
  cases h with
  | keep => rfl
  | replace hline hother =>
    rw [hdirective line hline]
    exact (hother.elim (hdirective other) (hblank other)).symm

theorem LegacyEdit.asEntry (h : LegacyEdit line other) :
    (classify line).asEntry = (classify other).asEntry := by
  refine h.congr (fun l => (classify l).asEntry) none (fun l value hl => ?_) (fun l hl => ?_)
  · rw [hl]
    rfl
  · rw [classify_of_isBlank hl]
    rfl

theorem LegacyEdit.valueFor? {key : DirectiveKey} (hkey : key ≠ .legacyOutput)
    (h : LegacyEdit line other) :
    (classify line).valueFor? key = (classify other).valueFor? key := by
  refine h.congr (fun l => (classify l).valueFor? key) none (fun l value hl => ?_) (fun l hl => ?_)
  · rw [hl]
    exact if_neg hkey.symm
  · rw [classify_of_isBlank hl]
    rfl

theorem LegacyEdit.isUnrecognized (h : LegacyEdit line other) :
    isUnrecognized line = isUnrecognized other := by
  refine h.congr Line.isUnrecognized false (fun l value hl => ?_) (fun l hl => ?_)
  · simp [Line.isUnrecognized, hl]
  · simp [Line.isUnrecognized, hl]

end Line

theorem map_eq_of_forall₂ {α β : Type} {R : α → α → Prop} {f : α → β} {l m : List α}
    (h : List.Forall₂ R l m) (hf : ∀ {a b : α}, R a b → f a = f b) : l.map f = m.map f := by
  induction h with
  | nil => rfl
  | cons hab _ ih => rw [List.map_cons, List.map_cons, hf hab, ih]

/-! ## Edited texts -/

namespace Definition

variable {before after : String}

theorem filterMap_segments_of_edit {β : Type} {f : Line → Option β}
    (edit : List.Forall₂ Line.LegacyEdit (segments before) (segments after))
    (hf : ∀ {line other : String}, Line.LegacyEdit line other →
      f (Line.classify line) = f (Line.classify other)) :
    ((segments before).map Line.classify).filterMap f =
      ((segments after).map Line.classify).filterMap f := by
  have hvalues : ∀ ls : List String,
      (ls.map Line.classify).filterMap f = (ls.map (f ∘ Line.classify)).filterMap id := by
    intro ls
    rw [List.filterMap_map, List.filterMap_map]
    rfl
  rw [hvalues, hvalues, map_eq_of_forall₂ (f := f ∘ Line.classify) edit hf]

theorem parse_of_edit
    (edit : List.Forall₂ Line.LegacyEdit (segments before) (segments after)) :
    (parse before).entries = (parse after).entries ∧
      ∀ key, key ≠ .legacyOutput →
        (parse before).directives.get? key = (parse after).directives.get? key := by
  rw [parse_eq_segments, parse_eq_segments]
  refine ⟨filterMap_segments_of_edit edit Line.LegacyEdit.asEntry, fun key hkey => ?_⟩
  rw [get?_ofLines, get?_ofLines, filterMap_segments_of_edit edit (Line.LegacyEdit.valueFor? hkey)]

theorem unrecognizedLines_of_edit
    (edit : List.Forall₂ Line.LegacyEdit (segments before) (segments after)) :
    unrecognizedLines before = unrecognizedLines after :=
  unrecognizedLines_eq_of_segments (map_eq_of_forall₂ edit Line.LegacyEdit.isUnrecognized)

/-- Two definitions with the same entries and the same values but for the legacy directive give the
same fragment, for the same output. -/
theorem generated_of_same {a b : Definition} (hentries : a.entries = b.entries)
    (hkeys : ∀ key, key ≠ .legacyOutput → a.directives.get? key = b.directives.get? key) :
    a.output? = b.output? ∧ ∀ input output, a.generated input output = b.generated input output := by
  have houtput : a.directives.output = b.directives.output := hkeys .output nofun
  have hname : a.directives.arrayName = b.directives.arrayName := hkeys .arrayName nofun
  refine ⟨by rw [output?, output?, houtput], fun input output => ?_⟩
  rw [generated, generated, arrayName, arrayName, hname, hentries]

end Definition

/-! ## The warning -/

namespace Definition

theorem filter_warnings (d : Definition) (input : Path) (output : String) :
    (d.warnings input output).filter (!·.isLegacyIgnored) =
      if d.directives.arrayName = none then [.unnamedTable input] else [] := by
  have hunnamed : (if d.directives.arrayName = none then [Event.unnamedTable input] else []).filter
      (!·.isLegacyIgnored) =
        if d.directives.arrayName = none then [Event.unnamedTable input] else [] := by
    split <;> rfl
  rw [warnings, List.filter_append, hunnamed]
  cases d.directives.legacyOutput with
  | none => rfl
  | some legacy => by_cases hsame : legacy = output <;> simp [hsame, Event.isLegacyIgnored_iff]

theorem any_warnings (d : Definition) (input : Path) (output : String) :
    (d.warnings input output).any Event.isLegacyIgnored =
      d.directives.legacyOutput.any (· ≠ output) := by
  have hunnamed : (if d.directives.arrayName = none then [Event.unnamedTable input] else []).any
      Event.isLegacyIgnored = false := by
    split <;> rfl
  rw [warnings, List.any_append, hunnamed, Bool.or_false]
  cases d.directives.legacyOutput with
  | none => rfl
  | some legacy => by_cases hsame : legacy = output <;> simp [hsame, Event.isLegacyIgnored_iff]

theorem any_readEvents (content : String) (input : Path) :
    (readEvents content input).any Event.isLegacyIgnored = false := by
  simp [readEvents, Event.isLegacyIgnored, Event.level]

end Definition

open Definition

/-- Generating from an input warns that its legacy directive is ignored. -/
def FileSystem.WarnsOfLegacy (fs : FileSystem) (input : Path) : Prop :=
  ∃ event ∈ ((generate input).run fs).events, event.isLegacyIgnored = true

theorem warnsOfLegacy_iff {fs : FileSystem} {input : Path} {content : String}
    (hread : fs.readText input = .ok content) :
    fs.WarnsOfLegacy input ↔ (∃ g, fs.generated input = .ok g) ∧
      ∃ legacy, LastSets content .legacyOutput legacy ∧ ¬LastSets content .output legacy := by
  rw [FileSystem.WarnsOfLegacy, ← List.any_eq_true, FileSystem.generated, run_generate, hread]
  cases houtput : (parse content).output? with
  | none => simp [houtput, any_readEvents]
  | some output =>
    have hlegacy : (parse content).directives.legacyOutput = lastValue? .legacyOutput content :=
      get?_parse content .legacyOutput
    simp only [houtput, List.any_append, any_readEvents, any_warnings, hlegacy,
      ← lastValue?_eq_some, (output?_parse.1 houtput).1]
    cases lastValue? .legacyOutput content with
    | none => simp
    | some legacy => simpa using (ne_comm : legacy ≠ output ↔ output ≠ legacy)

/-- What is generated from edited texts is the same, and so is every event but the warning. -/
theorem run_generate_of_edit {fs fs' : FileSystem} {input : Path} {before after : String}
    (hbefore : fs.readText input = .ok before) (hafter : fs'.readText input = .ok after)
    (edit : List.Forall₂ Line.LegacyEdit (segments before) (segments after)) :
    fs'.generated input = fs.generated input ∧
      ((generate input).run fs').events.filter (!·.isLegacyIgnored) =
        ((generate input).run fs).events.filter (!·.isLegacyIgnored) := by
  obtain ⟨hentries, hkeys⟩ := parse_of_edit edit
  obtain ⟨houtput, hgenerated⟩ := generated_of_same hentries hkeys
  have hname : (parse before).directives.arrayName = (parse after).directives.arrayName :=
    hkeys .arrayName nofun
  have hread : readEvents before input = readEvents after input := by
    rw [readEvents, readEvents, unrecognizedLines_of_edit edit, hentries]
  rw [FileSystem.generated, FileSystem.generated, run_generate, run_generate, hbefore, hafter]
  simp only [← houtput, ← hread]
  cases (parse before).output? with
  | none => exact ⟨rfl, rfl⟩
  | some output =>
    simp only [List.filter_append, filter_warnings, hname, hgenerated, and_self]

/-- **The legacy directive is inert.** Two file systems hold two texts under a path, and the second
text is the first with legacy directives edited; a byte-order mark may stand in front of either.
Generating from the path fails with the same error on both, or succeeds with the same output,
fragment and entry count. It reports the same events in the same order, but for the warning that
the legacy directive is ignored. That warning is there exactly if something is generated, the text
has a legacy directive, and the last one has another value than the last output directive. -/
theorem legacy_output_inert {fs fs' : FileSystem} {input : Path} {before after : String}
    (hbefore : fs.readText input = .ok before) (hafter : fs'.readText input = .ok after)
    (edit : List.Forall₂ Line.LegacyEdit (segments before) (segments after)) :
    ((∃ failure, fs.generated input = .error failure ∧ fs'.generated input = .error failure) ∨
      ∃ g, fs.generated input = .ok g ∧ fs'.generated input = .ok g) ∧
    ((generate input).run fs').events.filter (!·.isLegacyIgnored) =
      ((generate input).run fs).events.filter (!·.isLegacyIgnored) ∧
    (fs.WarnsOfLegacy input ↔ (∃ g, fs.generated input = .ok g) ∧
      ∃ legacy, LastSets before .legacyOutput legacy ∧ ¬LastSets before .output legacy) ∧
    (fs'.WarnsOfLegacy input ↔ (∃ g, fs'.generated input = .ok g) ∧
      ∃ legacy, LastSets after .legacyOutput legacy ∧ ¬LastSets after .output legacy) := by
  obtain ⟨hresult, hevents⟩ := run_generate_of_edit hbefore hafter edit
  refine ⟨?_, hevents, warnsOfLegacy_iff hbefore, warnsOfLegacy_iff hafter⟩
  rw [hresult]
  cases fs.generated input with
  | error failure => exact .inl ⟨failure, rfl, rfl⟩
  | ok g => exact .inr ⟨g, rfl, rfl⟩

/-- A text with two legacy directives, and the text with a blank line in place of the first one and
the name of the output on the second one. -/
def legacyText : String := "\ufeffOUTPUT_FILE=a\nOUTPUT=x\n?\nOUTPUT_FILE=b\r\nE X F m"

def legacyEdited : String := "\ufeff \t\nOUTPUT=x\n?\nOUTPUT_FILE= x\r\nE X F m"

def legacyFiles (content : String) : FileSystem where
  nodes := [(["a.in"], .file content.toUTF8)]

theorem legacy_output_inert_legacyFiles :
    List.Forall₂ Line.LegacyEdit (segments legacyText) (segments legacyEdited) ∧
      (∃ g, (legacyFiles legacyText).generated ⟨"a.in"⟩ = .ok g ∧
        (legacyFiles legacyEdited).generated ⟨"a.in"⟩ = .ok g) ∧
      (legacyFiles legacyText).WarnsOfLegacy ⟨"a.in"⟩ ∧
      ¬(legacyFiles legacyEdited).WarnsOfLegacy ⟨"a.in"⟩ := by
  have hplace : ∀ content ∈ [legacyText, legacyEdited],
      ((legacyFiles content).resolve ⟨"a.in"⟩).toOption = some ["a.in"] := by
    decide +kernel
  have hread : ∀ content ∈ [legacyText, legacyEdited],
      (legacyFiles content).readText ⟨"a.in"⟩ = .ok content := fun content hcontent =>
    FileSystem.readText_eq_ok.2 (FileSystem.read_eq_ok.2
      ⟨["a.in"], eq_ok_of_toOption (hplace content hcontent), rfl⟩)
  have hbefore := hread legacyText (by simp)
  have hafter := hread legacyEdited (by simp)
  have hedit : List.Forall₂ Line.LegacyEdit (segments legacyText) (segments legacyEdited) := by
    have hsegments : segments legacyText =
        ["OUTPUT_FILE=a", "OUTPUT=x", "?", "OUTPUT_FILE=b\r", "E X F m"] := by
      decide +kernel
    have hsegments' : segments legacyEdited =
        [" \t", "OUTPUT=x", "?", "OUTPUT_FILE= x\r", "E X F m"] := by
      decide +kernel
    rw [hsegments, hsegments']
    exact .cons (.replace (by decide +kernel) (.inr (by decide +kernel)))
      (.cons (.keep _) (.cons (.keep _)
        (.cons (.replace (by decide +kernel) (.inl (by decide +kernel))) (.cons (.keep _) .nil))))
  have houtput : (parse legacyText).output? = some "x" := by decide +kernel
  have hgenerated : (legacyFiles legacyText).generated ⟨"a.in"⟩ =
      .ok ((parse legacyText).generated ⟨"a.in"⟩ "x") :=
    generated_eq_ok.2 ⟨legacyText, "x", hbefore, houtput, rfl⟩
  obtain ⟨hsame, -, hwarns, hwarns'⟩ := legacy_output_inert hbefore hafter hedit
  refine ⟨hedit, ⟨_, hgenerated, ?_⟩, hwarns.2 ⟨⟨_, hgenerated⟩, "b", ?_, ?_⟩, fun hwarned => ?_⟩
  · obtain ⟨failure, hfails, -⟩ | ⟨g, hok, hok'⟩ := hsame
    · cases hgenerated.symm.trans hfails
    · cases hgenerated.symm.trans hok
      exact hok'
  · exact lastValue?_eq_some.1 (by decide +kernel)
  · rw [← lastValue?_eq_some]
    decide +kernel
  · -- The last values are the same in the edited text.
    obtain ⟨-, legacy, hlegacy, hother⟩ := hwarns'.1 hwarned
    have hvalue : lastValue? .legacyOutput legacyEdited = some "x" := by decide +kernel
    cases hvalue.symm.trans (lastValue?_eq_some.2 hlegacy)
    exact hother (lastValue?_eq_some.1 (by decide +kernel))

end ErrorTable
