/-
Failures: why a run stops.
-/
import ErrorTable.FileSystem.Error
import ErrorTable.Directive
import ErrorTable.Path

namespace ErrorTable

/-- Why a definition file has no table. Each of these ends the run. -/
inductive Failure where
  /-- The definition file cannot be read as text. -/
  | readInput (path : Path) (cause : FileError)
  /-- The fragment cannot be written. -/
  | writeOutput (path : Path) (cause : FileError)
  /-- The definition file does not name its output file. -/
  | missingOutput (path : Path)
  deriving DecidableEq, Repr

namespace Failure

/-- The file that a failure is about. -/
def path : Failure → Path
  | readInput path _ => path
  | writeOutput path _ => path
  | missingOutput path => path

/-- The error behind a failure. -/
def cause? : Failure → Option FileError
  | readInput _ cause => some cause
  | writeOutput _ cause => some cause
  | missingOutput _ => none

/-- The text of a failure. -/
def message : Failure → String
  | readInput path cause =>
    "Failed to read definition file " ++ path.text ++ ": " ++ cause.message
  | writeOutput path cause => "Failed to write " ++ path.text ++ ": " ++ cause.message
  | missingOutput path =>
    path.text ++ ": missing " ++ DirectiveKey.output.name
      ++ "= directive, no output file to write"

end Failure

end ErrorTable
