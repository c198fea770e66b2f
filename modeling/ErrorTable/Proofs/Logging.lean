/-
A log is shown, and changes nothing.

The quiet flag and the setting from outside choose a filter, and a filter decides which of the
events of a run are shown. What the run does depends on neither (`program_eq_of_same`), so two
invocations that differ in nothing else end alike and leave the same files.

A batch reports no error, whatever it reads (`reports_generateAll`), since a failure ends the run
without an event. So the errors of a run are the stale outputs of its check (`errors_program`), and
the record of each is known to the last character (`record_regenerate`).
-/
import ErrorTable.Proofs.Events
import ErrorTable.Proofs.Filters
import ErrorTable.Proofs.Invocation

namespace ErrorTable

/-! ## What a program can report -/

namespace Program

/-- Every event that a program can report has a property, whatever the answers to its
requests are. -/
inductive Reports {α : Type} (p : Event → Prop) : Program α → Prop where
  | done (value : α) : Reports p (done value)
  | fail (failure : Failure) : Reports p (fail failure)
  | read {path : Path} {next : Except FileError ByteArray → Program α}
      (h : ∀ answer, Reports p (next answer)) : Reports p (read path next)
  | write {path : Path} {content : ByteArray} {next : Except FileError Unit → Program α}
      (h : ∀ answer, Reports p (next answer)) : Reports p (write path content next)
  | report {event : Event} {next : Program α} (hevent : p event) (h : Reports p next) :
      Reports p (report event next)

variable {α β : Type} {p : Event → Prop}

theorem Reports.bind {program : Program α} {next : α → Program β} (h : program.Reports p)
    (hnext : ∀ value, (next value).Reports p) : (program >>= next).Reports p := by
  rw [bind_eq_andThen]
  induction h with
  | done value => exact hnext value
  | fail failure => exact .fail failure
  | read _ ih => exact .read ih
  | write _ ih => exact .write ih
  | report hevent _ ih => exact .report hevent ih

theorem Reports.mono {q : Event → Prop} (hpq : ∀ event, p event → q event) {program : Program α}
    (h : program.Reports p) : program.Reports q := by
  induction h with
  | done value => exact .done value
  | fail failure => exact .fail failure
  | read _ ih => exact .read ih
  | write _ ih => exact .write ih
  | report hevent _ ih => exact .report (hpq _ hevent) ih

theorem reports_reportAll {events : List Event} (h : ∀ event ∈ events, p event) :
    (reportAll events).Reports p := by
  induction events with
  | nil => exact .done ()
  | cons event events ih =>
    obtain ⟨hevent, hevents⟩ := List.forall_mem_cons.1 h
    exact .report hevent (ih hevents)

theorem reports_readText (path : Path) (failure : FileError → Failure) :
    (readText path failure).Reports p := by
  refine .read fun answer => ?_
  cases answer with
  | error error => exact .fail _
  | ok content =>
    simp only
    cases String.fromUTF8? content with
    | none => exact .fail _
    | some text => exact .done text

/-- What is reported in a run is what the program can report. -/
theorem Reports.of_mem_events {program : Program α} (h : program.Reports p) {fs : FileSystem}
    {event : Event} (hmem : event ∈ (program.run fs).events) : p event := by
  induction h generalizing fs with
  | done value => cases hmem
  | fail failure => cases hmem
  | read _ ih => exact ih _ hmem
  | write _ ih =>
    unfold run at hmem
    split at hmem
    · exact ih _ hmem
    · exact ih _ hmem
  | report hevent _ ih =>
    rcases List.mem_cons.1 hmem with rfl | hmem
    · exact hevent
    · exact ih hmem

end Program

/-! ## What is reported about a definition file -/

/-- The event is about what a definition file says. -/
def Event.OfDefinition : Event → Prop
  | unrecognizedLine _ => True
  | parsed .. => True
  | legacyIgnored .. => True
  | unnamedTable _ => True
  | _ => False

theorem ofDefinition_of_mem_warnings {definition : Definition} {input : Path} {output : String}
    {event : Event} (h : event ∈ definition.warnings input output) : event.OfDefinition := by
  obtain ⟨_, rfl⟩ | rfl := Definition.eq_of_mem_warnings h
  · trivial
  · trivial

/-- Generating reports about the definition file, and about nothing else. -/
theorem reports_generate (input : Path) : (generate input).Reports Event.OfDefinition := by
  refine (Program.reports_readText _ _).bind fun content => ?_
  have hlines : ∀ event ∈ (Definition.unrecognizedLines content).map Event.unrecognizedLine,
      event.OfDefinition := by
    rw [List.forall_mem_map]
    exact fun _ _ => trivial
  have hparsed : ∀ event ∈ [Event.parsed input (Definition.parse content).entries.length],
      event.OfDefinition :=
    List.forall_mem_singleton.2 trivial
  refine (Program.reports_reportAll hlines).bind fun _ =>
    (Program.reports_reportAll hparsed).bind fun _ => ?_
  split
  · exact .fail _
  · exact (Program.reports_reportAll fun _ => ofDefinition_of_mem_warnings).bind fun _ => .done _

/-! ## Errors -/

/-- The event is no error. -/
abbrev Event.Mild (event : Event) : Prop := event.level ≠ .error

theorem Event.OfDefinition.mild {event : Event} (h : event.OfDefinition) : event.Mild := by
  cases event with
  | regenerate output => cases h
  | _ => nofun

theorem reports_process (g : Generated) (mode : Mode) : (g.process mode).Reports Event.Mild := by
  cases mode with
  | write =>
    refine .bind (.write fun answer => ?_) fun _ => .done _
    cases answer with
    | error error => exact .fail _
    | ok => exact Program.reports_reportAll (List.forall_mem_singleton.2 nofun)
  | check =>
    refine .bind (.read fun answer => ?_) fun upToDate => ?_
    · cases answer <;> exact .done _
    · cases upToDate with
      | true => exact .done _
      | false =>
        have hstale : (Program.reportAll [.outOfDate g.input g.output]).Reports Event.Mild :=
          Program.reports_reportAll (List.forall_mem_singleton.2 nofun)
        exact hstale.bind fun _ => .done _

/-- A batch reports no error: that an output is stale is a warning, and a failure is no event. -/
theorem reports_generateAll (mode : Mode) (inputs : List Path) :
    (generateAll mode inputs).Reports Event.Mild := by
  induction inputs with
  | nil => exact .done _
  | cons input inputs ih =>
    have hgenerate := (reports_generate input).mono fun _ => Event.OfDefinition.mild
    exact hgenerate.bind fun g => (reports_process g mode).bind fun _ => ih.bind fun _ => .done _

/-- What the tool reports behind a batch that succeeds. -/
def Summary.closing (summary : Summary) : Mode → List Event
  | .write => [.allWritten summary.written.length]
  | .check =>
    if summary.isClean then [.allUpToDate summary.upToDate.length]
    else summary.stale.map .regenerate

theorem events_program (options : Options) (fs : FileSystem) :
    (options.program.run fs).events = ((generateAll options.mode options.files).run fs).events ++
      match ((generateAll options.mode options.files).run fs).result with
      | .ok summary => summary.closing options.mode
      | .error _ => [] := by
  rw [Options.program, Program.events_bind]
  congr 1
  cases ((generateAll options.mode options.files).run fs).result with
  | error failure => rfl
  | ok summary =>
    cases options.mode with
    | write => simp [Program.run_bind, Program.run, Summary.closing]
    | check =>
      simp only [Summary.closing]
      split <;> simp [Program.run_bind, Program.run]

theorem errors_closing (summary : Summary) (mode : Mode) (h : mode = .write → summary.stale = []) :
    (summary.closing mode).filter (·.level = .error) = summary.stale.map .regenerate := by
  cases mode with
  | write =>
    rw [h rfl]
    rfl
  | check =>
    unfold Summary.closing
    cases hclean : summary.isClean with
    | true =>
      have hnone : summary.stale = [] := List.isEmpty_iff.1 hclean
      rw [hnone]
      rfl
    | false =>
      rw [if_neg (by simp), List.filter_eq_self, List.forall_mem_map]
      exact fun _ _ => rfl

theorem stale_of_write {inputs : List Path} {fs : FileSystem} {summary : Summary}
    (h : ((generateAll .write inputs).run fs).result = .ok summary) : summary.stale = [] := by
  obtain ⟨_, _, rfl⟩ := write_eq_ok.1 ⟨h, rfl⟩
  rfl

/-- **The errors of a run** are the stale outputs of its batch, in their order. A batch that
fails has none. -/
theorem errors_program (options : Options) (fs : FileSystem) :
    (options.program.run fs).events.filter (·.level = .error) =
      match ((generateAll options.mode options.files).run fs).result with
      | .ok summary => summary.stale.map .regenerate
      | .error _ => [] := by
  have hbatch : ((generateAll options.mode options.files).run fs).events.filter
      (·.level = .error) = [] := by
    rw [List.filter_eq_nil_iff]
    intro event hevent
    simpa using (reports_generateAll _ _).of_mem_events hevent
  rw [events_program, List.filter_append, hbatch, List.nil_append]
  cases hresult : ((generateAll options.mode options.files).run fs).result with
  | error failure => rfl
  | ok summary =>
    refine errors_closing summary options.mode fun hmode => ?_
    rw [hmode] at hresult
    exact stale_of_write hresult

/-! ## What an invocation shows -/

/-- The events that an invocation shows under a setting from outside. -/
def Options.shown (options : Options) (setting : Option String) (fs : FileSystem) : List Event :=
  (options.program.run fs).events.filter (Filter.ofSetting setting options.quiet).shows

theorem stderr_of_accepted {arguments : List String} {options : Options}
    (h : Options.parse arguments = .ok options) (setting : Option String) (fs : FileSystem) :
    (invoke arguments setting fs).stderr =
      String.join ((options.shown setting fs).map Event.record) ++
        closingText (options.program.run fs).result := by
  rw [invoke, h]
  rfl

theorem program_eq_of_same {a b : Options} (hcheck : a.check = b.check)
    (hfiles : a.files = b.files) : a.program = b.program := by
  simp only [Options.program, Options.mode, hcheck, hfiles]

theorem shown_none (options : Options) (fs : FileSystem) :
    options.shown none fs = (options.program.run fs).events.filter fun event =>
      event.level.verbosity ≤
        if options.quiet then Level.error.verbosity else Level.info.verbosity :=
  List.filter_congr fun event _ => Filter.shows_standard options.quiet event

theorem shown_of_quiet {options : Options} (h : options.quiet = true) (fs : FileSystem) :
    options.shown none fs = (options.program.run fs).events.filter (·.level = .error) := by
  simp [shown_none, h, Level.verbosity_le_error]

theorem errors_shown_of_loud {options : Options} (h : options.quiet = false) (fs : FileSystem) :
    (options.shown none fs).filter (·.level = .error) =
      (options.program.run fs).events.filter (·.level = .error) := by
  rw [shown_none, List.filter_filter]
  refine List.filter_congr fun event _ => ?_
  by_cases herror : event.level = .error
  · simp [h, herror, Level.verbosity]
  · simp [herror]

theorem shown_sublist {a b : Options} (h : a.program = b.program) {s t : String} {v w : Nat}
    (hs : Filter.IsBare s v) (ht : Filter.IsBare t w) (hle : v ≤ w) (fs : FileSystem) :
    (a.shown (some s) fs).Sublist (b.shown (some t) fs) := by
  unfold Options.shown
  rw [h]
  exact List.monotone_filter_right _ fun event => hs.mono ht hle a.quiet b.quiet

/-- Of the records of some events, those of the errors are known by their levels. -/
theorem filter_records (events : List Event) :
    (events.map Event.record).filter Event.isErrorRecord =
      (events.filter (·.level = .error)).map Event.record := by
  simp only [List.filter_map, Function.comp_def, Event.isErrorRecord_record]

/-- The record of an output that has to be generated again. -/
theorem record_regenerate (output : Path) : (Event.regenerate output).record =
    "ERROR make_error_info: Out of date; rerun make-error-info output=" ++ output.text ++ "\n" := by
  rw [← String.toList_inj, Event.toList_record, Event.paddedLevel_eq, Event.level]
  simp [Event.target, Event.message, Event.shownFields, Event.fields, FieldValue.render]

/-- **A log is shown, and changes nothing.** Take two accepted command lines that ask for the same
but for the quiet flag, with any settings of the filter, on one file system. They end with the
same exit status, print the same and leave the same files, and what stands behind their logs, the
report of a failure, is the same. Without a setting, the quiet one shows the records that start
with `ERROR` in the log of the other one, in the same order, and these are one record for each
stale output of a check, in the order of its inputs. Under a bare level, the events shown are among
those that a more verbose one shows. -/
theorem settings_change_log_only {a b : List String} {p q : Options}
    (ha : Options.parse a = .ok p) (hb : Options.parse b = .ok q) (hcheck : p.check = q.check)
    (hfiles : p.files = q.files) (fs : FileSystem) :
    (∀ s t, (invoke a s fs).exitCode = (invoke b t fs).exitCode ∧
      (invoke a s fs).stdout = (invoke b t fs).stdout ∧
      (invoke a s fs).files = (invoke b t fs).files ∧
      (invoke a s fs).stderr = String.join ((p.shown s fs).map Event.record) ++
        closingText (p.program.run fs).result ∧
      (invoke b t fs).stderr = String.join ((q.shown t fs).map Event.record) ++
        closingText (p.program.run fs).result) ∧
    (p.quiet = false → q.quiet = true →
      q.shown none fs = (p.shown none fs).filter (·.level = .error) ∧
      (q.shown none fs).map Event.record =
        ((p.shown none fs).map Event.record).filter Event.isErrorRecord ∧
      (p.check = true → ∀ summary, ((generateAll .check p.files).run fs).result = .ok summary →
        q.shown none fs = summary.stale.map .regenerate ∧
        (q.shown none fs).map Event.record = summary.stale.map (fun output =>
          "ERROR make_error_info: Out of date; rerun make-error-info output=" ++ output.text ++
            "\n") ∧
        ∃ gs, List.Forall₂ (fun input g => fs.generated input = .ok g) p.files gs ∧
          summary.stale = (gs.filter fun g => !fs.holds g).map (·.output))) ∧
    ∀ s t v w, Filter.IsBare s v → Filter.IsBare t w → v ≤ w →
      (p.shown (some s) fs).Sublist (q.shown (some t) fs) := by
  have hprogram := program_eq_of_same hcheck hfiles
  refine ⟨fun s t => ?_, fun hloud hquiet => ?_,
    fun s t v w hs ht hle => shown_sublist hprogram hs ht hle fs⟩
  · obtain ⟨hexit, hleft⟩ := invoke_of_accepted ha s fs
    obtain ⟨hexit', hleft'⟩ := invoke_of_accepted hb t fs
    refine ⟨by rw [hexit, hexit', hprogram], by rw [invoke, invoke, ha, hb]; rfl,
      by rw [hleft, hleft', hprogram], stderr_of_accepted ha s fs, ?_⟩
    rw [stderr_of_accepted hb t fs, hprogram]
  · have herrors : q.shown none fs = (p.shown none fs).filter (·.level = .error) := by
      rw [shown_of_quiet hquiet, errors_shown_of_loud hloud, hprogram]
    refine ⟨herrors, by rw [filter_records, herrors], fun hmode summary hok => ?_⟩
    have hmode : p.mode = .check := by rw [Options.mode, if_pos hmode]
    obtain ⟨gs, hgs, rfl⟩ := check_eq_ok.1 hok
    have hstale : q.shown none fs = (checkSummary fs gs).stale.map .regenerate := by
      rw [shown_of_quiet hquiet, ← hprogram, errors_program, hmode, hok]
    refine ⟨hstale, ?_, gs, hgs, rfl⟩
    rw [hstale, List.map_map]
    exact List.map_congr_left fun output _ => record_regenerate output

/-- A check with two stale outputs, loud and quiet. -/
theorem settings_change_log_only_sharedOutput :
    Options.parse ["a.in", "-c", "b.in"] =
      .ok { check := true, quiet := false, files := [⟨"a.in"⟩, ⟨"b.in"⟩] } ∧
    Options.parse ["-qc", "a.in", "b.in"] =
      .ok { check := true, quiet := true, files := [⟨"a.in"⟩, ⟨"b.in"⟩] } ∧
    (∀ s t, (invoke ["a.in", "-c", "b.in"] s sharedOutput).exitCode =
        (invoke ["-qc", "a.in", "b.in"] t sharedOutput).exitCode ∧
      (invoke ["a.in", "-c", "b.in"] s sharedOutput).files =
        (invoke ["-qc", "a.in", "b.in"] t sharedOutput).files) ∧
    (invoke ["-qc", "a.in", "b.in"] none sharedOutput).stderr =
      "ERROR make_error_info: Out of date; rerun make-error-info output=./x\n" ++
        "ERROR make_error_info: Out of date; rerun make-error-info output=./d/../x\n" ∧
    (Options.shown { check := true, quiet := false, files := [⟨"a.in"⟩, ⟨"b.in"⟩] } (some "Warn")
        sharedOutput).Sublist
      (Options.shown { check := true, quiet := true, files := [⟨"a.in"⟩, ⟨"b.in"⟩] } (some "4")
        sharedOutput) := by
  have hloud : Options.parse ["a.in", "-c", "b.in"] =
      .ok { check := true, quiet := false, files := [⟨"a.in"⟩, ⟨"b.in"⟩] } := by
    decide
  have hquiet : Options.parse ["-qc", "a.in", "b.in"] =
      .ok { check := true, quiet := true, files := [⟨"a.in"⟩, ⟨"b.in"⟩] } := by
    decide
  have hcheck : ((generateAll .check [⟨"a.in"⟩, ⟨"b.in"⟩]).run sharedOutput).result =
      .ok { stale := [⟨"./x"⟩, ⟨"./d/../x"⟩] } :=
    eq_ok_of_toOption (by decide +kernel)
  obtain ⟨hsame, hlog, hmono⟩ := settings_change_log_only hloud hquiet rfl rfl sharedOutput
  obtain ⟨-, -, hstale⟩ := hlog rfl rfl
  obtain ⟨-, hrecords, -⟩ := hstale rfl _ hcheck
  have hwarn : Filter.IsBare "Warn" 2 :=
    Filter.isBare_of_map_toUpper (by decide : ("WARN", 2) ∈ FilterRule.verbosityNames) (by decide)
  have hdebug : Filter.IsBare "4" 4 :=
    Filter.isBare_of_verbosityOf? (by decide) (by decide)
  refine ⟨hloud, hquiet, fun s t => ⟨(hsame s t).1, (hsame s t).2.2.1⟩, ?_,
    hmono "Warn" "4" 2 4 hwarn hdebug (by decide)⟩
  obtain ⟨-, -, -, -, hstderr⟩ := hsame none none
  have hmode : ∀ quiet files, ({ check := true, quiet, files } : Options).mode = .check :=
    fun _ _ => rfl
  rw [hstderr, hrecords, result_program, hmode, hcheck]
  rfl

end ErrorTable
