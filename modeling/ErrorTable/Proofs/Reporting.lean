/-
The log tells the truth.

A batch logs every write that it performs and every stale output that it finds, and no others. A
batch that fails has no summary, so its log is the only account of what it has done.

The log is read as whoever has it would read it: an event is known by its message, and what it says
by its fields. That the log agrees with the writes is true of two programs in a row if it is true of
both (`Program.LogsWrites.bind`): generating writes nothing and logs no write, and a fragment is
logged behind its write with the number of its records (`logsWrites_process`). That it agrees with
the summary goes from one input (`outputs_processInput`) to a batch (`outputs_generateAll`). The
input at which a batch stops adds nothing to the log of either kind, so what a failed batch has
logged is what the inputs before that one have (`logged_append_of_fails`).

An invocation that is not quiet shows all of its writes (`stderr_names_writes`).
-/
import ErrorTable.Proofs.Events
import ErrorTable.Proofs.Failures
import ErrorTable.Proofs.Independence
import ErrorTable.Proofs.Logging
import ErrorTable.Proofs.Parsing

namespace ErrorTable

/-! ## Reading a log -/

theorem Event.OfDefinition.isWrite_eq_false {event : Event} (h : event.OfDefinition) :
    event.isWrite = false := by
  rw [← Bool.not_eq_true, isWrite_iff]
  rintro ⟨_, _, _, rfl⟩
  cases h

theorem Event.OfDefinition.isStale_eq_false {event : Event} (h : event.OfDefinition) :
    event.isStale = false := by
  rw [← Bool.not_eq_true, isStale_iff]
  rintro ⟨_, _, rfl⟩
  cases h

/-- A path as the value of a field. -/
def Path.told (path : Path) : Option FieldValue :=
  some (.plain path.text)

namespace Outcome

variable {α : Type}

/-- The events of a kind that a run has logged, in order. -/
def logged (outcome : Outcome α) (kind : Event → Bool) : List Event :=
  outcome.events.filter kind

/-- The `output` fields of these events. -/
def outputs (outcome : Outcome α) (kind : Event → Bool) : List (Option FieldValue) :=
  (outcome.logged kind).map (·.field? "output")

end Outcome

section Logged

variable {α β : Type} {kind : Event → Bool}

theorem Program.logged_bind (program : Program α) (next : α → Program β) (fs : FileSystem) :
    ((program >>= next).run fs).logged kind = (program.run fs).logged kind ++
      match (program.run fs).result with
      | .ok value => ((next value).run (program.run fs).files).logged kind
      | .error _ => [] := by
  rw [Outcome.logged, events_bind, List.filter_append]
  cases (program.run fs).result <;> rfl

theorem Program.logged_bind_pure (program : Program α) (f : α → β) (fs : FileSystem) :
    ((program >>= fun value => pure (f value)).run fs).logged kind =
      (program.run fs).logged kind := by
  rw [run_bind_pure]
  rfl

variable (hkind : ∀ event : Event, event.OfDefinition → kind event = false)
include hkind

theorem logged_generate (input : Path) (fs : FileSystem) :
    ((generate input).run fs).logged kind = [] := by
  rw [Outcome.logged, List.filter_eq_nil_iff]
  intro event hmem
  rw [hkind event ((reports_generate input).of_mem_events hmem)]
  exact Bool.false_ne_true

/-- An input that fails has logged what generating from it logs, also if only its write fails. -/
theorem logged_processInput_of_fails {mode : Mode} {input : Path} {fs : FileSystem}
    {failure : Failure} (h : Fails fs input mode failure) :
    ((processInput mode input).run fs).logged kind = [] := by
  rw [processInput, Program.logged_bind, logged_generate hkind, files_generate, List.nil_append]
  cases h with
  | read unreadable => simp [run_generate, unreadable]
  | output readable unnamed => simp [run_generate, readable, unnamed]
  | write generated refused =>
    rw [FileSystem.generated] at generated
    simp only [generated, run_process_write, refused]
    rfl

theorem logged_append_of_fails {mode : Mode} {before : List Path} {input : Path}
    {fs : FileSystem} {summary : Summary} {failure : Failure}
    (hbefore : ((generateAll mode before).run fs).result = .ok summary)
    (hfails : Fails ((generateAll mode before).run fs).files input mode failure)
    (rest : List Path) :
    ((generateAll mode (before ++ input :: rest)).run fs).logged kind =
      ((generateAll mode before).run fs).logged kind := by
  obtain ⟨hresult, -⟩ := run_processInput_of_fails hfails
  rw [generateAll_append, Program.logged_bind, hbefore]
  simp only [Program.logged_bind_pure]
  rw [generateAll_cons, Program.logged_bind, hresult, logged_processInput_of_fails hkind hfails,
    List.append_nil, List.append_nil]

end Logged

/-! ## The log and the writes -/

/-- The number of records of a fragment. -/
def Fragment.recordCount? (text : String) : Option Nat :=
  (decode text).map fun table => table.2.length

/-- The number of records in the fragment that a write puts into its file. -/
def Change.records? (change : Change) : Option Nat :=
  (String.fromUTF8? change.content).bind Fragment.recordCount?

theorem recordCount?_of_generated {fs : FileSystem} {input : Path} {g : Generated}
    (h : fs.generated input = .ok g) : Fragment.recordCount? g.fragment = some g.entryCount := by
  obtain ⟨content, output, -, -, rfl⟩ := generated_eq_ok.1 h
  rw [Fragment.recordCount?, Definition.decode_generated]
  rfl

/-- The writes that a run logs are those that it performs, in order, and the entries that it logs
for each are the records written. -/
def Program.LogsWrites {α : Type} (program : Program α) (fs : FileSystem) : Prop :=
  ((program.run fs).logged Event.isWrite).map
      (fun event => (event.field? "output", event.field? "entries")) =
    (program.changes fs).map fun change => (change.path.told, change.records?.map .number)

theorem Program.LogsWrites.bind {α β : Type} {program : Program α} {next : α → Program β}
    {fs : FileSystem} (h : program.LogsWrites fs)
    (hnext : ∀ value, (program.run fs).result = .ok value →
      (next value).LogsWrites (program.run fs).files) :
    (program >>= next).LogsWrites fs := by
  unfold LogsWrites at h hnext ⊢
  rw [logged_bind, changes_bind, List.map_append, List.map_append, h]
  congr 1
  cases hresult : (program.run fs).result with
  | ok value => exact hnext value hresult
  | error failure => rfl

theorem logsWrites_done {α : Type} (value : α) (fs : FileSystem) :
    (Program.done value).LogsWrites fs := rfl

theorem logsWrites_generate (input : Path) (fs : FileSystem) :
    (generate input).LogsWrites fs := by
  rw [Program.LogsWrites, logged_generate fun _ => Event.OfDefinition.isWrite_eq_false,
    changes_generate]
  rfl

theorem logsWrites_process {g : Generated}
    (hcount : Fragment.recordCount? g.fragment = some g.entryCount) (mode : Mode)
    (fs : FileSystem) : (g.process mode).LogsWrites fs := by
  cases mode with
  | write =>
    have hwrite : g.write.LogsWrites fs := by
      rw [Program.LogsWrites, run_write]
      cases hw : fs.write g.output g.fragment.toUTF8 with
      | ok next =>
        have hrecords : (⟨g.output, g.fragment.toUTF8, fs, next⟩ : Change).records? =
            some g.entryCount := by
          rw [Change.records?, FileSystem.fromUTF8?_eq_some.2 rfl, Option.bind_some, hcount]
        rw [changes_write hw, List.map_singleton, hrecords]
        rfl
      | error error =>
        simp only [Generated.write, Program.changes, hw]
        rfl
    exact hwrite.bind fun _ _ => logsWrites_done _ _
  | check =>
    have hcompare : g.isUpToDate.LogsWrites fs := by
      rw [Program.LogsWrites, run_isUpToDate, Generated.isUpToDate, Program.changes]
      cases fs.read g.output <;> rfl
    refine hcompare.bind fun upToDate _ => ?_
    cases upToDate <;> rfl

/-- **The writes of a batch are logged**, each of them and no other, whether the batch succeeds or
not. -/
theorem logsWrites_generateAll (mode : Mode) (inputs : List Path) (fs : FileSystem) :
    (generateAll mode inputs).LogsWrites fs := by
  induction inputs generalizing fs with
  | nil => exact logsWrites_done _ fs
  | cons input inputs ih =>
    refine (logsWrites_generate input fs).bind fun g hg => ?_
    refine (logsWrites_process (recordCount?_of_generated hg) mode _).bind fun first _ => ?_
    exact (ih _).bind fun rest _ => logsWrites_done _ _

/-! ## The log and the summary -/

theorem outputs_processInput {mode : Mode} {input : Path} {fs : FileSystem} {summary : Summary}
    (h : ((processInput mode input).run fs).result = .ok summary) :
    ((processInput mode input).run fs).outputs Event.isWrite = summary.written.map Path.told ∧
      ((processInput mode input).run fs).outputs Event.isStale = summary.stale.map Path.told := by
  rw [result_processInput, FileSystem.bind_eq_ok] at h
  obtain ⟨g, hg, h⟩ := h
  rw [FileSystem.generated] at hg
  simp only [Outcome.outputs, processInput, Program.logged_bind, files_generate, hg,
    logged_generate fun _ => Event.OfDefinition.isWrite_eq_false,
    logged_generate fun _ => Event.OfDefinition.isStale_eq_false, List.nil_append]
  cases mode with
  | write =>
    rw [run_process_write] at h ⊢
    cases hw : fs.write g.output g.fragment.toUTF8 with
    | ok next =>
      rw [hw] at h
      cases h
      exact ⟨rfl, rfl⟩
    | error error =>
      rw [hw] at h
      cases h
  | check =>
    rw [run_process_check] at h ⊢
    split at h
    · next hholds =>
      cases h
      rw [if_pos hholds]
      exact ⟨rfl, rfl⟩
    · next hstale =>
      cases h
      rw [if_neg hstale]
      exact ⟨rfl, rfl⟩

theorem outputs_generateAll {mode : Mode} {inputs : List Path} {fs : FileSystem}
    {summary : Summary} (h : ((generateAll mode inputs).run fs).result = .ok summary) :
    ((generateAll mode inputs).run fs).outputs Event.isWrite = summary.written.map Path.told ∧
      ((generateAll mode inputs).run fs).outputs Event.isStale = summary.stale.map Path.told := by
  induction inputs generalizing fs summary with
  | nil =>
    cases h
    exact ⟨rfl, rfl⟩
  | cons input inputs ih =>
    rw [generateAll_cons] at h ⊢
    rw [Program.result_bind, FileSystem.bind_eq_ok] at h
    obtain ⟨first, hfirst, h⟩ := h
    rw [Program.run_bind_pure, FileSystem.bind_eq_ok] at h
    obtain ⟨rest, hrest, h⟩ := h
    cases h
    obtain ⟨hwritten, hstale⟩ := outputs_processInput hfirst
    obtain ⟨hwritten', hstale'⟩ := ih hrest
    unfold Outcome.outputs at hwritten hstale hwritten' hstale' ⊢
    rw [Program.logged_bind, Program.logged_bind, hfirst]
    simp only [Program.logged_bind_pure]
    rw [List.map_append, List.map_append, hwritten, hwritten', hstale, hstale',
      ← List.map_append, ← List.map_append]
    exact ⟨rfl, rfl⟩

/-- What a batch that succeeds has logged: as many writes as it has inputs, or no write and the
outputs that do not hold what is generated for them. -/
theorem logged_by_mode {mode : Mode} {inputs : List Path} {fs : FileSystem} {summary : Summary}
    (h : ((generateAll mode inputs).run fs).result = .ok summary) :
    (mode = .write →
      (((generateAll mode inputs).run fs).logged Event.isWrite).length = inputs.length ∧
        ((generateAll mode inputs).run fs).logged Event.isStale = []) ∧
    (mode = .check → ((generateAll mode inputs).run fs).logged Event.isWrite = [] ∧
      ∃ gs, List.Forall₂ (fun input g => fs.generated input = .ok g) inputs gs ∧
        ((generateAll mode inputs).run fs).outputs Event.isStale =
          (gs.filter fun g => !fs.holds g).map (·.output.told)) := by
  obtain ⟨hwritten, hstale⟩ := outputs_generateAll h
  constructor
  · rintro rfl
    obtain ⟨gs, hrun, rfl⟩ := write_eq_ok.1 ⟨h, rfl⟩
    have hlength := congrArg List.length hwritten
    rw [Outcome.outputs, List.length_map, List.length_map, List.length_map,
      ← hrun.length_eq] at hlength
    exact ⟨hlength, List.map_eq_nil_iff.1 hstale⟩
  · rintro rfl
    obtain ⟨gs, hgs, rfl⟩ := check_eq_ok.1 h
    refine ⟨List.map_eq_nil_iff.1 hwritten, gs, hgs, hstale.trans ?_⟩
    rw [checkSummary, List.map_map]
    rfl

/-! ## Every run -/

theorem stopsAt_iff_of_fails {mode : Mode} {before : List Path} {input : Path} {fs : FileSystem}
    {summary : Summary} {failure : Failure}
    (hbefore : ((generateAll mode before).run fs).result = .ok summary)
    (hfails : Fails ((generateAll mode before).run fs).files input mode failure)
    (rest : List Path) (other : Failure) (k : Nat) :
    StopsAt fs mode (before ++ input :: rest) other k ↔ other = failure ∧ k = before.length := by
  have htake : (before ++ input :: rest).take before.length = before := List.take_left
  have hstops : StopsAt fs mode (before ++ input :: rest) failure before.length := by
    refine ⟨input, summary, by simp, ?_, ?_⟩
    · rw [htake, hbefore]
    · rw [htake, (run_processInput_of_fails hfails).1]
  constructor
  · exact fun hother => hother.unique hstops
  · rintro ⟨rfl, rfl⟩
    exact hstops

/-- **The log tells the truth** about every run, also about one that fails. The writes that lead
from the initial file system to what the run leaves are those of its `Wrote error table` events, in
order: each has the output as its field `output` and the number of records in what was written as
its field `entries`. The inputs before some position `k` have been processed: all if the run
succeeds, and then the log agrees with the summary; and if it fails, those before the one position
where it stops. When files are written there is one write in the log for each of these inputs. In
a check there is none, and the `output` fields of the `Generated error table is out of date` events
are, in order, those of the outputs of these inputs that do not hold their fragments. -/
theorem log_tells_truth (mode : Mode) (inputs : List Path) (fs : FileSystem) :
    let run := (generateAll mode inputs).run fs
    let changes := (generateAll mode inputs).changes fs
    Replay fs changes run.files ∧
    (run.logged Event.isWrite).map (fun event => (event.field? "output", event.field? "entries")) =
      changes.map (fun change => (change.path.told, change.records?.map .number)) ∧
    ∃ k,
      (match run.result with
        | .ok summary => k = inputs.length ∧
          run.outputs Event.isWrite = summary.written.map Path.told ∧
            run.outputs Event.isStale = summary.stale.map Path.told
        | .error failure =>
          ∀ other k', StopsAt fs mode inputs other k' ↔ other = failure ∧ k' = k) ∧
      (mode = .write →
        (run.logged Event.isWrite).length = k ∧ run.logged Event.isStale = []) ∧
      (mode = .check → run.logged Event.isWrite = [] ∧
        ∃ gs, List.Forall₂ (fun input g => fs.generated input = .ok g) (inputs.take k) gs ∧
          run.outputs Event.isStale = (gs.filter fun g => !fs.holds g).map (·.output.told)) := by
  intro run changes
  refine ⟨Program.replay_changes _ fs, logsWrites_generateAll mode inputs fs, ?_⟩
  cases hresult : run.result with
  | ok summary =>
    refine ⟨inputs.length, ⟨rfl, outputs_generateAll hresult⟩, ?_⟩
    rw [List.take_length]
    exact logged_by_mode hresult
  | error failure =>
    obtain ⟨before, input, rest, summary, rfl, hbefore, hfails⟩ := exists_fails hresult
    refine ⟨before.length, stopsAt_iff_of_fails hbefore hfails rest, ?_⟩
    have hwrote : run.logged Event.isWrite = _ :=
      logged_append_of_fails (fun _ => Event.OfDefinition.isWrite_eq_false) hbefore hfails rest
    have hstale : run.logged Event.isStale = _ :=
      logged_append_of_fails (fun _ => Event.OfDefinition.isStale_eq_false) hbefore hfails rest
    rw [List.take_left, Outcome.outputs, hwrote, hstale]
    exact logged_by_mode hbefore

/-- The second definition file is missing, and the first output is written and logged. -/
example :
    ((generateAll .write [⟨"a.in"⟩, ⟨"b.in"⟩]).run
      { nodes := [(["a.in"], .file "OUTPUT=x\nE X F m\n".toUTF8)] }).outputs Event.isWrite =
        [some (.plain "./x")] := by
  decide +kernel

/-! ## What is shown -/

theorem exists_event_of_mem_changes {mode : Mode} {inputs : List Path} {fs : FileSystem}
    {change : Change} (hmem : change ∈ (generateAll mode inputs).changes fs) :
    ∃ event ∈ ((generateAll mode inputs).run fs).events, event.level = .info ∧
      event.message = "Wrote error table" ∧ event.field? "output" = change.path.told ∧
        ∃ count, change.records? = some count ∧ event.field? "entries" = some (.number count) := by
  have htold := List.mem_map_of_mem (f := fun change : Change =>
    (change.path.told, change.records?.map FieldValue.number)) hmem
  rw [← logsWrites_generateAll mode inputs fs] at htold
  obtain ⟨event, hevent, htold⟩ := List.mem_map.1 htold
  obtain ⟨hevents, hwrite⟩ := List.mem_filter.1 hevent
  obtain ⟨houtput, hentries⟩ := Prod.mk.inj htold
  obtain ⟨input, output, count, rfl⟩ := Event.isWrite_iff.1 hwrite
  obtain ⟨records, hrecords, hcount⟩ := Option.map_eq_some_iff.1 hentries.symm
  cases hcount
  exact ⟨_, hevents, rfl, rfl, houtput, count, hrecords, rfl⟩

/-- **Every write can be read off the error stream** of an invocation that is not quiet, with its
path and its number of records. -/
theorem stderr_names_writes {arguments : List String} {options : Options}
    (h : Options.parse arguments = .ok options) (hloud : options.quiet = false) {fs : FileSystem}
    {change : Change} (hmem : change ∈ (generateAll options.mode options.files).changes fs) :
    ∃ record : String, record.toList <:+: (invoke arguments none fs).stderr.toList ∧
      "Wrote error table".toList <:+: record.toList ∧
      ("output=" ++ change.path.text).toList <:+: record.toList ∧
      ∃ count, change.records? = some count ∧
        ("entries=" ++ toString count).toList <:+: record.toList := by
  obtain ⟨event, hevent, hlevel, hmessage, houtput, count, hcount, hentries⟩ :=
    exists_event_of_mem_changes hmem
  have hshown : event ∈ options.shown none fs := by
    rw [shown_none, List.mem_filter, events_program, hloud, hlevel]
    exact ⟨List.mem_append_left _ hevent, by decide⟩
  refine ⟨event.record, ?_, hmessage ▸ event.message_infix_record,
    by simpa [FieldValue.render] using Event.field_infix_record houtput, count, hcount,
    by simpa [FieldValue.render] using Event.field_infix_record hentries⟩
  rw [stderr_of_accepted h, String.toList_append]
  exact (Event.record_infix_join hshown).trans (List.prefix_append _ _).isInfix

end ErrorTable
