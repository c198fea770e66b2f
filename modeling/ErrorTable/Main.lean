/-
The command line: answers the requests of a program from the real file system.

What is asked, and in which order, is decided by `Options.program`; here every request is
carried out as it comes, and a record that the filter shows goes to the standard error
output at once.
-/
import ErrorTable.Tool

namespace ErrorTable

/-- The name of the environment variable that can hold a filter. -/
def filterVariable : String := "RUST_LOG"

/-- The error behind a number and a description as the standard library gives them: the
number may be negated, and the description may start with a small letter. -/
def FileError.ofReported (number : UInt32) (description : String) : FileError :=
  ofSystem number.toInt32.toInt.natAbs description.capitalize

/-- The error of the library that an error of the system amounts to. -/
def FileError.ofError : IO.Error → FileError
  | .alreadyExists _ number text | .permissionDenied _ number text
  | .resourceExhausted _ number text | .inappropriateType _ number text
  | .noSuchThing _ number text | .invalidArgument _ number text => ofReported number text
  | .noFileOrDirectory _ number text | .interrupted _ number text => ofReported number text
  | .otherError number text | .resourceBusy number text | .resourceVanished number text
  | .unsupportedOperation number text | .hardwareFault number text
  | .unsatisfiedConstraints number text | .illegalOperation number text
  | .protocolError number text | .timeExpired number text => ofReported number text
  | .unexpectedEof => system 0 "Unexpected end of file"
  | .userError text => system 0 text

/-- Carries out an access to the file that a path names. -/
def access {α : Type} (path : Path) (action : IO α) : IO (Except FileError α) := do
  match FileSystem.checkPath path with
  | .error error => return .error error
  | .ok () =>
    try
      return .ok (← action)
    catch error =>
      return .error (.ofError error)

/-- Carries out the requests of a program. -/
def Program.perform {α : Type} (filter : Filter) : Program α → IO (Except Failure α)
  | done value => return .ok value
  | fail failure => return .error failure
  | read path next => do
    let answer ← access path (IO.FS.readBinFile path.text)
    (next answer).perform filter
  | write path content next => do
    let answer ← access path (IO.FS.writeBinFile path.text content)
    (next answer).perform filter
  | report event next => do
    if filter.shows event then IO.eprint event.record
    next.perform filter

end ErrorTable

open ErrorTable in
/-- Runs the tool. -/
def main (arguments : List String) : IO UInt32 := do
  match Options.parse arguments with
  | .error reply =>
    IO.print reply.stdout
    IO.eprint reply.stderr
    return reply.exitCode.toUInt32
  | .ok options =>
    let filter := Filter.ofSetting (← IO.getEnv filterVariable) options.quiet
    let result ← options.program.perform filter
    IO.eprint (closingText result)
    return (exitCodeOf result).toUInt32
