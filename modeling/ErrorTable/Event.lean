/-
Events: what a run reports about itself.
-/
import ErrorTable.Log.Level
import ErrorTable.Directive
import ErrorTable.Path

namespace ErrorTable

/-- Something worth a record in the log. -/
inductive Event where
  /-- A line of a definition file is neither blank nor understood. -/
  | unrecognizedLine (number : Nat)
  /-- A definition file has been read. -/
  | parsed (input : Path) (entries : Nat)
  /-- A legacy output directive names another file than the one that counts. -/
  | legacyIgnored (input : Path) (legacy output : String)
  /-- No directive names the array. -/
  | unnamedTable (input : Path)
  /-- A fragment has been written. -/
  | wrote (input output : Path) (entries : Nat)
  /-- An output file does not hold its fragment. -/
  | outOfDate (input output : Path)
  /-- All files have been written. -/
  | allWritten (files : Nat)
  /-- All output files hold their fragments. -/
  | allUpToDate (files : Nat)
  /-- The tool's request to generate an output file again. -/
  | regenerate (output : Path)
  deriving DecidableEq, Repr

/-- The value of a field of a record. -/
inductive FieldValue where
  /-- A text that a log line shows as it is. -/
  | plain (text : String)
  /-- A text that a log line shows between quotes. -/
  | quoted (text : String)
  | number (value : Nat)
  deriving DecidableEq, Repr

namespace Event

/-- How severe an event is. -/
def level : Event → Level
  | unrecognizedLine _ => .trace
  | parsed .. => .debug
  | legacyIgnored .. => .warn
  | unnamedTable _ => .warn
  | wrote .. => .info
  | outOfDate .. => .warn
  | allWritten _ => .info
  | allUpToDate _ => .info
  | regenerate _ => .error

/-- The part of the program that an event comes from, as filters name it. -/
def target : Event → String
  | unrecognizedLine _ => "error_info::definition"
  | parsed .. => "error_info::generate"
  | legacyIgnored .. => "error_info::generate"
  | unnamedTable _ => "error_info::generate"
  | wrote .. => "error_info::generate"
  | outOfDate .. => "error_info::generate"
  | allWritten _ => "make_error_info"
  | allUpToDate _ => "make_error_info"
  | regenerate _ => "make_error_info"

/-- What an event says. -/
def message : Event → String
  | unrecognizedLine _ => "Ignoring unrecognized line"
  | parsed .. => "Parsed definition file"
  | legacyIgnored .. =>
    DirectiveKey.legacyOutput.name ++ "= is ignored; writing to the " ++ DirectiveKey.output.name
      ++ "= target"
  | unnamedTable _ =>
    "No " ++ DirectiveKey.arrayName.name
      ++ "= directive; the table will be declared without a name"
  | wrote .. => "Wrote error table"
  | outOfDate .. => "Generated error table is out of date"
  | allWritten _ => "Generated error tables"
  | allUpToDate _ => "Error tables are up to date"
  | regenerate _ => "Out of date; rerun make-error-info"

/-- The named values of an event, in the order in which a log line shows them. -/
def fields : Event → List (String × FieldValue)
  | unrecognizedLine number => [("line", .number number)]
  | parsed input entries => [("input", .plain input.text), ("entries", .number entries)]
  | legacyIgnored input legacy output =>
    [("input", .plain input.text), ("legacy", .quoted legacy), ("output", .quoted output)]
  | unnamedTable input => [("input", .plain input.text)]
  | wrote input output entries =>
    [("input", .plain input.text), ("output", .plain output.text), ("entries", .number entries)]
  | outOfDate input output => [("input", .plain input.text), ("output", .plain output.text)]
  | allWritten files => [("files", .number files)]
  | allUpToDate files => [("files", .number files)]
  | regenerate output => [("output", .plain output.text)]

end Event

end ErrorTable
