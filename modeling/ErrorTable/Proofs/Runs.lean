/-
What the runs of the program do, function by function: generating, writing, checking,
and a whole batch.

`generate` and a check leave the file system alone, so a successful check of a batch is
`List.Forall₂` of its inputs and of what is generated from them, all on one file system
(`check_eq_ok`). Writing a batch changes the file system from one input to the next, and
`WriteRun` is that sequence of changes (`write_eq_ok`). What can be read after it follows
from what can be read after one write: under each path the fragment that was written last
to the file that the path names (`WriteRun.read_iff`).
-/
import ErrorTable.Batch
import ErrorTable.Proofs.Access
import Mathlib.Data.List.Forall2

namespace ErrorTable

namespace Program

instance : LawfulMonad Program := by
  refine LawfulMonad.mk' Program ?_ (fun _ _ => rfl) ?_
  · intro α program
    induction program with
    | done | fail => rfl
    | read path answer ih => exact congrArg (read path) (funext ih)
    | write path content answer ih => exact congrArg (write path content) (funext ih)
    | report event rest ih => exact congrArg (report event) ih
  · intro α β γ program next last
    induction program with
    | done | fail => rfl
    | read path answer ih => exact congrArg (read path) (funext ih)
    | write path content answer ih => exact congrArg (write path content) (funext ih)
    | report event rest ih => exact congrArg (report event) ih

theorem result_bind {α β : Type} (program : Program α) (next : α → Program β) (fs : FileSystem) :
    ((program >>= next).run fs).result =
      (program.run fs).result >>= fun value => ((next value).run (program.run fs).files).result := by
  rw [run_bind]
  obtain ⟨result, files, events⟩ := program.run fs
  cases result <;> rfl

theorem files_bind {α β : Type} (program : Program α) (next : α → Program β) (fs : FileSystem) :
    ((program >>= next).run fs).files =
      match (program.run fs).result with
      | .ok value => ((next value).run (program.run fs).files).files
      | .error _ => (program.run fs).files := by
  rw [run_bind]
  obtain ⟨result, files, events⟩ := program.run fs
  cases result <;> rfl

theorem events_bind {α β : Type} (program : Program α) (next : α → Program β) (fs : FileSystem) :
    ((program >>= next).run fs).events = (program.run fs).events ++
      match (program.run fs).result with
      | .ok value => ((next value).run (program.run fs).files).events
      | .error _ => [] := by
  rw [run_bind]
  obtain ⟨result, files, events⟩ := program.run fs
  cases result <;> simp

/-- Something computed from the value of a run makes no difference to what the run does. -/
theorem run_bind_pure {α β : Type} (program : Program α) (f : α → β) (fs : FileSystem) :
    (program >>= fun value => pure (f value)).run fs =
      { program.run fs with result := (program.run fs).result >>= fun value => .ok (f value) } := by
  rw [run_bind]
  obtain ⟨result, files, events⟩ := program.run fs
  cases result <;> simp [run, bind, Except.bind]

end Program

/-- A write that a run performs: what is written, and the file system before and after. -/
structure Change where
  path : Path
  content : ByteArray
  before : FileSystem
  after : FileSystem

/-- Changes lead from one file system to another: each is a write on what the one before it has
left. -/
inductive Replay : FileSystem → List Change → FileSystem → Prop where
  | nil (fs : FileSystem) : Replay fs [] fs
  | cons {fs next last : FileSystem} {path : Path} {content : ByteArray} {changes : List Change}
      (wrote : fs.write path content = .ok next) (rest : Replay next changes last) :
      Replay fs (⟨path, content, fs, next⟩ :: changes) last

namespace Program

/-- The writes that a run performs, in order. A write that fails is not performed. -/
def changes {α : Type} : Program α → FileSystem → List Change
  | done _, _ => []
  | fail _, _ => []
  | read path next, fs => (next (fs.read path)).changes fs
  | write path content next, fs =>
    match fs.write path content with
    | .ok after => ⟨path, content, fs, after⟩ :: (next (.ok ())).changes after
    | .error error => (next (.error error)).changes fs
  | report _ next, fs => next.changes fs

theorem changes_bind {α β : Type} (program : Program α) (next : α → Program β)
    (fs : FileSystem) :
    (program >>= next).changes fs = program.changes fs ++
      match (program.run fs).result with
      | .ok value => (next value).changes (program.run fs).files
      | .error _ => [] := by
  rw [bind_eq_andThen]
  induction program generalizing fs with
  | done value => rfl
  | fail failure => rfl
  | read path answer ih => exact ih (fs.read path) fs
  | write path content answer ih =>
    simp only [andThen, changes, run]
    cases fs.write path content with
    | ok after => simp [ih]
    | error error => simp [ih]
  | report event rest ih => exact ih fs

/-- The changes of a run lead to what it leaves. -/
theorem replay_changes {α : Type} (program : Program α) (fs : FileSystem) :
    Replay fs (program.changes fs) (program.run fs).files := by
  induction program generalizing fs with
  | done value => exact .nil fs
  | fail failure => exact .nil fs
  | read path answer ih => exact ih (fs.read path) fs
  | write path content answer ih =>
    unfold changes run
    cases hw : fs.write path content with
    | ok after => exact .cons hw (ih (.ok ()) after)
    | error error => exact ih (.error error) fs
  | report event rest ih => exact ih fs

@[simp] theorem changes_reportAll (events : List Event) (fs : FileSystem) :
    (reportAll events).changes fs = [] := by
  induction events with
  | nil => rfl
  | cons event events ih => exact ih

@[simp] theorem changes_readText (path : Path) (failure : FileError → Failure)
    (fs : FileSystem) : (readText path failure).changes fs = [] := by
  simp only [readText, changes]
  split
  · rfl
  · split <;> rfl

end Program

theorem eq_ok_of_toOption {ε α : Type} {x : Except ε α} {a : α} (h : x.toOption = some a) :
    x = .ok a := by
  cases x with
  | error e => cases h
  | ok b => cases h; rfl

/-! ## Generating -/

/-- The events of reading a definition file. -/
def Definition.readEvents (content : String) (input : Path) : List Event :=
  (unrecognizedLines content).map .unrecognizedLine ++ [.parsed input (parse content).entries.length]

/-- A warning is about a legacy directive or about a missing name. -/
theorem Definition.eq_of_mem_warnings {d : Definition} {input : Path} {output : String}
    {event : Event} (h : event ∈ d.warnings input output) :
    (∃ legacy, event = .legacyIgnored input legacy output) ∨ event = .unnamedTable input := by
  unfold warnings at h
  rcases List.mem_append.1 h with hlegacy | hunnamed
  · split at hlegacy
    · split at hlegacy
      · exact .inl ⟨_, List.mem_singleton.1 hlegacy⟩
      · cases hlegacy
    · cases hlegacy
  · split at hunnamed
    · exact .inr (List.mem_singleton.1 hunnamed)
    · cases hunnamed

/-- **A run of `generate`.** It leaves the file system alone, and of the file system it
needs the text of the input and nothing else. -/
theorem run_generate (input : Path) (fs : FileSystem) :
    (generate input).run fs =
      match fs.readText input with
      | .error e => ⟨.error (.readInput input e), fs, []⟩
      | .ok content =>
        match (Definition.parse content).output? with
        | none => ⟨.error (.missingOutput input), fs, Definition.readEvents content input⟩
        | some output =>
          ⟨.ok ((Definition.parse content).generated input output), fs,
            Definition.readEvents content input ++
              (Definition.parse content).warnings input output⟩ := by
  unfold generate
  rw [Program.run_bind, Program.run_readText]
  cases fs.readText input with
  | error e => rfl
  | ok content =>
    simp only [Program.run_bind, Program.run_reportAll]
    cases (Definition.parse content).output? with
    | none => simp [Program.run, Definition.readEvents]
    | some output => simp [Program.run_bind, Program.run, Definition.readEvents]

/-- What generating from an input gives on a file system. -/
def FileSystem.generated (fs : FileSystem) (input : Path) : Except Failure Generated :=
  ((generate input).run fs).result

@[simp] theorem files_generate (input : Path) (fs : FileSystem) :
    ((generate input).run fs).files = fs := by
  rw [run_generate]
  split
  · rfl
  · split <;> rfl

theorem generated_eq_ok {fs : FileSystem} {input : Path} {g : Generated} :
    fs.generated input = .ok g ↔ ∃ content output, fs.readText input = .ok content ∧
      (Definition.parse content).output? = some output ∧
        g = (Definition.parse content).generated input output := by
  rw [FileSystem.generated, run_generate]
  cases fs.readText input with
  | error e => simp
  | ok content =>
    cases ho : (Definition.parse content).output? with
    | none => simp [ho]
    | some output => simp [ho, eq_comm]

/-- A definition file that can be read and names an output gives what its text says. -/
theorem generated_of_read {fs : FileSystem} {input : Path} {content output : String}
    (hread : fs.read input = .ok content.toUTF8)
    (houtput : (Definition.parse content).output? = some output) :
    fs.generated input = .ok ((Definition.parse content).generated input output) :=
  generated_eq_ok.2 ⟨content, output, FileSystem.readText_eq_ok.2 hread, houtput, rfl⟩

/-! ## One input -/

theorem run_write (g : Generated) (fs : FileSystem) :
    g.write.run fs =
      match fs.write g.output g.fragment.toUTF8 with
      | .ok next => ⟨.ok (), next, [.wrote g.input g.output g.entryCount]⟩
      | .error e => ⟨.error (.writeOutput g.output e), fs, []⟩ := by
  simp only [Generated.write, Program.run]
  cases fs.write g.output g.fragment.toUTF8 <;> simp

/-- The output file of a fragment holds exactly that fragment. -/
def FileSystem.holds (fs : FileSystem) (g : Generated) : Bool :=
  match fs.read g.output with
  | .ok content => content.data == g.fragment.toUTF8.data
  | .error _ => false

theorem holds_iff {fs : FileSystem} {g : Generated} :
    fs.holds g = true ↔ fs.read g.output = .ok g.fragment.toUTF8 := by
  unfold FileSystem.holds
  cases fs.read g.output with
  | error e => simp
  | ok content => rw [beq_iff_eq, Except.ok.injEq, ByteArray.ext_iff]

instance (fs : FileSystem) (g : Generated) :
    Decidable (fs.read g.output = .ok g.fragment.toUTF8) :=
  decidable_of_iff (fs.holds g = true) holds_iff

theorem run_isUpToDate (g : Generated) (fs : FileSystem) :
    g.isUpToDate.run fs = ⟨.ok (fs.holds g), fs, []⟩ := by
  simp only [Generated.isUpToDate, Program.run, FileSystem.holds]
  cases fs.read g.output with
  | error e => rfl
  | ok content => rfl

theorem run_process_write (g : Generated) (fs : FileSystem) :
    (g.process .write).run fs =
      match fs.write g.output g.fragment.toUTF8 with
      | .ok next =>
        ⟨.ok { written := [g.output] }, next, [.wrote g.input g.output g.entryCount]⟩
      | .error e => ⟨.error (.writeOutput g.output e), fs, []⟩ := by
  simp only [Generated.process, Program.run_bind, run_write]
  cases fs.write g.output g.fragment.toUTF8 <;> simp [Program.run]

theorem run_process_check (g : Generated) (fs : FileSystem) :
    (g.process .check).run fs =
      if fs.holds g then ⟨.ok { upToDate := [g.output] }, fs, []⟩
      else ⟨.ok { stale := [g.output] }, fs, [.outOfDate g.input g.output]⟩ := by
  simp only [Generated.process, Program.run_bind, run_isUpToDate]
  cases fs.holds g <;> simp [Program.run_bind, Program.run]

/-! ## A batch, one input after the other -/

/-- A batch succeeds if its first input does and then the rest of the batch on the file
system that the first input leaves. -/
theorem generateAll_cons_eq_ok {mode : Mode} {input : Path} {inputs : List Path}
    {fs : FileSystem} {summary : Summary} :
    ((generateAll mode (input :: inputs)).run fs).result = .ok summary ↔
      ∃ g first rest, fs.generated input = .ok g ∧ ((g.process mode).run fs).result = .ok first ∧
        ((generateAll mode inputs).run ((g.process mode).run fs).files).result = .ok rest ∧
          summary = first ++ rest := by
  simp only [generateAll, Program.result_bind, files_generate, FileSystem.bind_eq_ok]
  constructor
  · intro h
    obtain ⟨g, hg, first, hfirst, rest, hrest, h⟩ := h
    exact ⟨g, first, rest, hg, hfirst, hrest, (Except.ok.inj h).symm⟩
  · intro h
    obtain ⟨g, first, rest, hg, hfirst, hrest, rfl⟩ := h
    exact ⟨g, hg, first, hfirst, rest, hrest, rfl⟩

/-- The file system that a batch leaves, if its first input succeeds. -/
theorem files_generateAll_cons {mode : Mode} {input : Path} (inputs : List Path)
    {fs : FileSystem} {g : Generated} {first : Summary} (hg : fs.generated input = .ok g)
    (hfirst : ((g.process mode).run fs).result = .ok first) :
    ((generateAll mode (input :: inputs)).run fs).files =
      ((generateAll mode inputs).run ((g.process mode).run fs).files).files := by
  rw [FileSystem.generated] at hg
  simp only [generateAll, Program.files_bind, files_generate, hg, hfirst]
  split <;> rfl

/-! ## A batch that is checked -/

/-- What the check of a batch says, given what is generated from its inputs. -/
def checkSummary (fs : FileSystem) (gs : List Generated) : Summary where
  upToDate := (gs.filter fs.holds).map (·.output)
  stale := (gs.filter fun g => !fs.holds g).map (·.output)

theorem checkSummary_cons (fs : FileSystem) (g : Generated) (gs : List Generated) :
    checkSummary fs (g :: gs) =
      (if fs.holds g then { upToDate := [g.output] } else { stale := [g.output] }) ++
        checkSummary fs gs := by
  unfold checkSummary
  cases h : fs.holds g with
  | true => rw [List.filter_cons_of_pos h, List.filter_cons_of_neg (by simp [h])]; rfl
  | false => rw [List.filter_cons_of_neg (by simp [h]), List.filter_cons_of_pos (by simp [h])]; rfl

theorem isClean_checkSummary {fs : FileSystem} {gs : List Generated} :
    (checkSummary fs gs).isClean = true ↔ ∀ g ∈ gs, fs.holds g = true := by
  simp [Summary.isClean, checkSummary]

theorem upToDate_checkSummary {fs : FileSystem} {gs : List Generated}
    (h : ∀ g ∈ gs, fs.holds g = true) : (checkSummary fs gs).upToDate = gs.map (·.output) := by
  simp only [checkSummary, List.filter_eq_self.2 h]

theorem result_process_check (g : Generated) (fs : FileSystem) :
    ((g.process .check).run fs).result =
      .ok (if fs.holds g then { upToDate := [g.output] } else { stale := [g.output] }) := by
  rw [run_process_check]
  split <;> rfl

theorem files_process_check (g : Generated) (fs : FileSystem) :
    ((g.process .check).run fs).files = fs := by
  rw [run_process_check]
  split <;> rfl

/-- Checking a batch leaves the file system alone, whether it succeeds or not. -/
theorem files_check (inputs : List Path) (fs : FileSystem) :
    ((generateAll .check inputs).run fs).files = fs := by
  induction inputs with
  | nil => rfl
  | cons input inputs ih =>
    cases hg : fs.generated input with
    | ok g => rw [files_generateAll_cons inputs hg (result_process_check g fs),
        files_process_check, ih]
    | error failure =>
      rw [FileSystem.generated] at hg
      simp only [generateAll, Program.files_bind, files_generate, hg]

/-- **A batch that is checked.** A check succeeds if something is generated from every
input, and says of each output whether it holds its fragment. -/
theorem check_eq_ok {inputs : List Path} {fs : FileSystem} {summary : Summary} :
    ((generateAll .check inputs).run fs).result = .ok summary ↔
      ∃ gs, List.Forall₂ (fun input g => fs.generated input = .ok g) inputs gs ∧
        summary = checkSummary fs gs := by
  induction inputs generalizing summary with
  | nil => simp [generateAll, Program.run, checkSummary, eq_comm]
  | cons input inputs ih =>
    rw [generateAll_cons_eq_ok]
    simp only [result_process_check, files_process_check, ih]
    constructor
    · intro h
      obtain ⟨g, first, rest, hg, hfirst, ⟨gs, hgs, rfl⟩, rfl⟩ := h
      cases hfirst
      exact ⟨g :: gs, .cons hg hgs, (checkSummary_cons fs g gs).symm⟩
    · intro h
      obtain ⟨_, hgs, rfl⟩ := h
      cases hgs with
      | cons hg hgs =>
        exact ⟨_, _, _, hg, rfl, ⟨_, hgs, rfl⟩, checkSummary_cons fs _ _⟩

/-! ## A batch that is written -/

/-- The writes of a batch: each input in turn gives a fragment on the file system that the
writes before it left, and the fragment is written to its output. -/
inductive WriteRun : FileSystem → List Path → List Generated → FileSystem → Prop where
  | nil (fs : FileSystem) : WriteRun fs [] [] fs
  | cons {fs next last : FileSystem} {input : Path} {inputs : List Path} {g : Generated}
      {gs : List Generated} (generated : fs.generated input = .ok g)
      (wrote : fs.write g.output g.fragment.toUTF8 = .ok next)
      (rest : WriteRun next inputs gs last) : WriteRun fs (input :: inputs) (g :: gs) last

theorem process_write_eq_ok {g : Generated} {fs : FileSystem} {summary : Summary} :
    ((g.process .write).run fs).result = .ok summary ↔
      summary = { written := [g.output] } ∧
        fs.write g.output g.fragment.toUTF8 = .ok ((g.process .write).run fs).files := by
  rw [run_process_write]
  cases fs.write g.output g.fragment.toUTF8 <;> simp [eq_comm]

theorem files_process_write {g : Generated} {fs next : FileSystem}
    (h : fs.write g.output g.fragment.toUTF8 = .ok next) :
    ((g.process .write).run fs).files = next := by
  rw [run_process_write, h]

/-- **A batch that is written.** A batch succeeds in writing exactly if its writes can be
made one after the other, and then it leaves the file system that they lead to. -/
theorem write_eq_ok {inputs : List Path} {fs last : FileSystem} {summary : Summary} :
    ((generateAll .write inputs).run fs).result = .ok summary ∧
        ((generateAll .write inputs).run fs).files = last ↔
      ∃ gs, WriteRun fs inputs gs last ∧ summary = { written := gs.map (·.output) } := by
  induction inputs generalizing fs summary with
  | nil =>
    constructor
    · intro h
      obtain ⟨h, rfl⟩ := h
      cases h
      exact ⟨[], .nil fs, rfl⟩
    · intro h
      obtain ⟨_, h, rfl⟩ := h
      cases h
      exact ⟨rfl, rfl⟩
  | cons input inputs ih =>
    constructor
    · intro h
      obtain ⟨h, rfl⟩ := h
      obtain ⟨g, first, rest, hg, hfirst, hrest, rfl⟩ := generateAll_cons_eq_ok.1 h
      obtain ⟨rfl, hw⟩ := process_write_eq_ok.1 hfirst
      obtain ⟨gs, hgs, rfl⟩ := ih.1 ⟨hrest, (files_generateAll_cons inputs hg hfirst).symm⟩
      exact ⟨g :: gs, .cons hg hw hgs, rfl⟩
    · intro h
      obtain ⟨_, h, rfl⟩ := h
      cases h with
      | cons hg hw hgs =>
        obtain ⟨hrest, hlast⟩ := ih.2 ⟨_, hgs, rfl⟩
        have hfiles := files_process_write hw
        have hfirst := process_write_eq_ok.2 ⟨rfl, hfiles ▸ hw⟩
        rw [← hfiles] at hrest hlast
        refine ⟨generateAll_cons_eq_ok.2 ⟨_, _, _, hg, hfirst, hrest, rfl⟩, ?_⟩
        rw [files_generateAll_cons inputs hg hfirst, hlast]

/-- A batch of one input: a fragment is generated from it and written. -/
theorem write_singleton_eq_ok {fs last : FileSystem} {path : Path} {summary : Summary} :
    ((generateAll .write [path]).run fs).result = .ok summary ∧
        ((generateAll .write [path]).run fs).files = last ↔
      ∃ g, fs.generated path = .ok g ∧ fs.write g.output g.fragment.toUTF8 = .ok last ∧
        summary = { written := [g.output] } := by
  rw [write_eq_ok]
  constructor
  · intro h
    obtain ⟨_, hrun, rfl⟩ := h
    cases hrun with
    | cons generated wrote rest =>
      cases rest
      exact ⟨_, generated, wrote, rfl⟩
  · intro h
    obtain ⟨g, generated, wrote, rfl⟩ := h
    exact ⟨[g], .cons generated wrote (.nil last), rfl⟩

/-- Of the fragments of a batch, the last one that is written to the file a path names. -/
def FileSystem.lastWritten (fs : FileSystem) (gs : List Generated) (path : Path) :
    Option Generated :=
  (gs.filter fun g => fs.sameFile g.output path).getLast?

theorem getLast?_filter_cons {α : Type} (p : α → Bool) (a : α) (l : List α) :
    ((a :: l).filter p).getLast? = (l.filter p).getLast?.or (if p a then some a else none) := by
  rw [← List.singleton_append, List.filter_append, List.getLast?_append]
  cases h : p a <;> simp [h]

theorem FileSystem.lastWritten_cons (fs : FileSystem) (g : Generated) (gs : List Generated)
    (path : Path) : fs.lastWritten (g :: gs) path =
      (fs.lastWritten gs path).or (if fs.sameFile g.output path then some g else none) :=
  getLast?_filter_cons _ g gs

@[simp] theorem changes_generate (input : Path) (fs : FileSystem) :
    (generate input).changes fs = [] := by
  simp only [generate, Program.changes_bind, Program.changes_readText, Program.changes_reportAll,
    Program.run_reportAll, List.nil_append]
  split
  · split
    · rfl
    · simp [Program.changes_bind, Program.changes]
  · rfl

theorem changes_write {g : Generated} {fs next : FileSystem}
    (hw : fs.write g.output g.fragment.toUTF8 = .ok next) :
    g.write.changes fs = [⟨g.output, g.fragment.toUTF8, fs, next⟩] := by
  simp only [Generated.write, Program.changes, hw, Program.changes_reportAll]

/-- The first write of a batch, and then those of the rest. -/
theorem changes_write_cons {input : Path} (inputs : List Path) {fs next : FileSystem}
    {g : Generated} (hg : fs.generated input = .ok g)
    (hw : fs.write g.output g.fragment.toUTF8 = .ok next) :
    (generateAll .write (input :: inputs)).changes fs =
      ⟨g.output, g.fragment.toUTF8, fs, next⟩ :: (generateAll .write inputs).changes next := by
  have hfirst : (g.process .write).changes fs = [⟨g.output, g.fragment.toUTF8, fs, next⟩] := by
    rw [Generated.process, Program.changes_bind, changes_write hw, run_write, hw]
    rfl
  rw [FileSystem.generated] at hg
  simp only [generateAll, Program.changes_bind, changes_generate, files_generate, hg, hfirst,
    run_process_write, hw]
  simp only [List.nil_append, List.singleton_append]
  split <;> simp [Program.changes]

namespace WriteRun

variable {fs last : FileSystem} {inputs : List Path} {gs : List Generated}

theorem sameDirectories (h : WriteRun fs inputs gs last) : fs.SameDirectories last := by
  induction h with
  | nil fs => exact .refl fs
  | cons _ wrote _ ih => exact (FileSystem.sameDirectories_write wrote).trans ih

theorem sameFile_self (h : WriteRun fs inputs gs last) {g : Generated} (hg : g ∈ gs) :
    last.sameFile g.output g.output = true := by
  induction h with
  | nil => simp at hg
  | cons generated wrote rest ih =>
    rcases List.mem_cons.1 hg with rfl | hg
    · rw [← (WriteRun.cons generated wrote rest).sameDirectories.sameFile]
      exact FileSystem.sameFile_self_of_write wrote
    · exact ih hg

/-- **What a batch leaves behind.** After the writes of a batch, each path shows the fragment
that was written last to the file it names, and what it showed before the batch if
nothing was written there. -/
theorem read_iff (h : WriteRun fs inputs gs last) {path : Path} {bytes : ByteArray} :
    last.read path = .ok bytes ↔
      match last.lastWritten gs path with
      | some g => bytes = g.fragment.toUTF8
      | none => fs.read path = .ok bytes := by
  induction h with
  | nil => simp [FileSystem.lastWritten]
  | @cons fs next last input inputs g gs generated wrote rest ih =>
    have hsame := (WriteRun.cons generated wrote rest).sameDirectories.sameFile g.output path
    rw [ih, FileSystem.read_write_iff wrote, hsame, FileSystem.lastWritten_cons]
    cases last.lastWritten gs path with
    | some g' => rfl
    | none => cases last.sameFile g.output path <;> rfl

theorem read_iff_of_apart (h : WriteRun fs inputs gs last) {path : Path}
    (apart : ∀ g ∈ gs, last.sameFile g.output path = false) {bytes : ByteArray} :
    last.read path = .ok bytes ↔ fs.read path = .ok bytes := by
  have hnone : last.lastWritten gs path = none := by
    simpa [FileSystem.lastWritten] using apart
  rw [h.read_iff, hnone]

/-- An input that no write of a batch touches gives the same before and after the batch. -/
theorem generated_iff_of_apart (h : WriteRun fs inputs gs last) {input : Path}
    (apart : ∀ g ∈ gs, last.sameFile g.output input = false) {g : Generated} :
    last.generated input = .ok g ↔ fs.generated input = .ok g := by
  simp only [generated_eq_ok, FileSystem.readText_eq_ok, h.read_iff_of_apart apart]

end WriteRun

end ErrorTable
