/-
The tool: what one invocation does, from its arguments to its exit status.
-/
import ErrorTable.CommandLine.Parse
import ErrorTable.Log.Record

namespace ErrorTable

/-- What an invocation leaves behind. -/
structure Completion where
  exitCode : Nat
  stdout : String
  stderr : String
  files : FileSystem

/-- What the tool does with an accepted command line. It ends with the exit status: one
if an output file is stale, and zero otherwise. -/
def Options.program (options : Options) : Program Nat := do
  let summary ← generateAll options.mode options.files
  match options.mode with
  | .write =>
    Program.reportAll [.allWritten summary.written.length]
    return 0
  | .check =>
    if summary.isClean then
      Program.reportAll [.allUpToDate summary.upToDate.length]
      return 0
    else
      Program.reportAll (summary.stale.map .regenerate)
      return 1

/-- How the tool reports a failure at the end of its run. -/
def Failure.report (failure : Failure) : String :=
  let cause := (failure.cause?.map fun error => "\nCaused by:\n    " ++ error.message ++ "\n")
  "Error: " ++ failure.message ++ "\n" ++ cause.getD ""

/-- The exit status of a run: a failure makes it one. -/
def exitCodeOf : Except Failure Nat → Nat
  | .ok exitCode => exitCode
  | .error _ => 1

/-- What a run prints behind its log. -/
def closingText : Except Failure Nat → String
  | .ok _ => ""
  | .error failure => failure.report

namespace Completion

/-- How a run ends under a filter, which decides about the log and nothing else. -/
def ofOutcome (filter : Filter) (outcome : Outcome Nat) : Completion where
  exitCode := exitCodeOf outcome.result
  stdout := ""
  stderr := filter.log outcome.events ++ closingText outcome.result
  files := outcome.files

/-- How an invocation ends whose command line is answered without running it. -/
def ofReply (reply : Reply) (fs : FileSystem) : Completion where
  exitCode := reply.exitCode
  stdout := reply.stdout
  stderr := reply.stderr
  files := fs

end Completion

/-- One invocation of the tool: its arguments, the filter that is set from outside, if
any, and the file system it works on. -/
def invoke (arguments : List String) (setting : Option String) (fs : FileSystem) : Completion :=
  match Options.parse arguments with
  | .error reply => .ofReply reply fs
  | .ok options =>
    .ofOutcome (Filter.ofSetting setting options.quiet) (options.program.run fs)

end ErrorTable
