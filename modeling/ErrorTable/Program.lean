/-
Programs: what a run asks of the world, as data.

A program reads and writes files and reports events, one request after the other, and
ends with a value or a failure. `Program.run` answers the requests from a given file
system, so what a program does is a function of that file system; the command line
answers the same requests from the real one.
-/
import ErrorTable.Event
import ErrorTable.Failure
import ErrorTable.FileSystem.Access

namespace ErrorTable

/-- A sequence of requests that ends with a value of type `α` or with a failure. -/
inductive Program (α : Type) where
  | done (value : α)
  | fail (failure : Failure)
  /-- Asks for the bytes of a file and goes on with the answer. -/
  | read (path : Path) (next : Except FileError ByteArray → Program α)
  /-- Asks for a file to be created or replaced and goes on with the answer. -/
  | write (path : Path) (content : ByteArray) (next : Except FileError Unit → Program α)
  /-- Reports an event and goes on. -/
  | report (event : Event) (next : Program α)

/-- What a run leaves behind. -/
structure Outcome (α : Type) where
  result : Except Failure α
  files : FileSystem
  /-- The events reported, in order. -/
  events : List Event

namespace Program

/-- One program after the other; a failure of the first is a failure of both. -/
def andThen {α β : Type} (next : α → Program β) : Program α → Program β
  | done value => next value
  | fail failure => fail failure
  | read path answer => read path fun content => (answer content).andThen next
  | write path content answer => write path content fun result => (answer result).andThen next
  | report event rest => report event (rest.andThen next)

instance : Monad Program where
  pure := done
  bind program next := program.andThen next

/-- Reports events in order. -/
def reportAll : List Event → Program Unit
  | [] => done ()
  | event :: events => report event (reportAll events)

/-- The text of a file, or the failure that its error amounts to. -/
def readText (path : Path) (failure : FileError → Failure) : Program String :=
  read path fun answer =>
    match answer with
    | .error error => fail (failure error)
    | .ok content =>
      match String.fromUTF8? content with
      | some text => done text
      | none => fail (failure .notUtf8)

/-- Answers the requests of a program from a file system. -/
def run {α : Type} : Program α → FileSystem → Outcome α
  | done value, fs => ⟨.ok value, fs, []⟩
  | fail failure, fs => ⟨.error failure, fs, []⟩
  | read path next, fs => (next (fs.read path)).run fs
  | write path content next, fs =>
    match fs.write path content with
    | .ok changed => (next (.ok ())).run changed
    | .error error => (next (.error error)).run fs
  | report event next, fs =>
    let rest := next.run fs
    { rest with events := event :: rest.events }

@[simp] theorem pure_eq_done {α : Type} (value : α) : (pure value : Program α) = done value :=
  rfl

theorem bind_eq_andThen {α β : Type} (program : Program α) (next : α → Program β) :
    program >>= next = program.andThen next := rfl

/-- Running two programs in a row: the second starts from the file system that the first
leaves, and only if the first has not failed. -/
theorem run_bind {α β : Type} (program : Program α) (next : α → Program β) (fs : FileSystem) :
    (program >>= next).run fs =
      match program.run fs with
      | ⟨.ok value, files, events⟩ =>
        let rest := (next value).run files
        { rest with events := events ++ rest.events }
      | ⟨.error failure, files, events⟩ => ⟨.error failure, files, events⟩ := by
  rw [bind_eq_andThen]
  induction program generalizing fs with
  | done value => simp [andThen, run]
  | fail failure => simp [andThen, run]
  | read path answer ih => simpa [andThen, run] using ih (fs.read path) fs
  | write path content answer ih =>
    simp only [andThen, run]
    cases fs.write path content with
    | ok changed => exact ih (.ok ()) changed
    | error error => exact ih (.error error) fs
  | report event rest ih =>
    simp only [andThen, run, ih]
    obtain ⟨result, files, events⟩ := rest.run fs
    cases result <;> simp

@[simp] theorem run_reportAll (events : List Event) (fs : FileSystem) :
    (reportAll events).run fs = ⟨.ok (), fs, events⟩ := by
  induction events with
  | nil => rfl
  | cons event events ih => simp [reportAll, run, ih]

/-- Reading a text in a run is reading it from the file system. -/
theorem run_readText (path : Path) (failure : FileError → Failure) (fs : FileSystem) :
    (readText path failure).run fs =
      match fs.readText path with
      | .ok text => ⟨.ok text, fs, []⟩
      | .error error => ⟨.error (failure error), fs, []⟩ := by
  simp only [readText, run, FileSystem.readText]
  cases fs.read path with
  | error error => rfl
  | ok content =>
    simp only [bind, Except.bind]
    cases String.fromUTF8? content <;> rfl

end Program

end ErrorTable
