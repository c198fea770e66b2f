/-
Replies: what the tool answers to a command line that it does not run.
-/
import ErrorTable.CommandLine.Flag
import ErrorTable.Text.Terminal

namespace ErrorTable

/-- Why a command line is refused. -/
inductive UsageError where
  /-- There is no file, only the given flags. -/
  | noFile (given : List Flag)
  /-- A file name is empty. -/
  | emptyFile
  /-- A flag is given a second time. -/
  | repeatedFlag (flag : Flag)
  /-- A flag is given a value. -/
  | unexpectedValue (given : List Flag) (flag : Flag) (value : String)
  /-- No flag has the letter. -/
  | unknownLetter (letter : Char)
  /-- No flag has the name; `afterFile` tells whether a file stands before it. -/
  | unknownName (given : List Flag) (afterFile : Bool) (name : String)
  /-- No flag has the name, but that of a flag is similar. -/
  | similarName (given : List Flag) (name : String) (similar : Flag)
  deriving DecidableEq, Repr

/-- What is answered to a command line instead of running it. -/
inductive Reply where
  | help
  | version
  | usage (error : UsageError)
  deriving DecidableEq, Repr

namespace UsageError

/-- The name of the tool. -/
def toolName : String := "make-error-info"

/-- How files are called in messages. -/
def filesName : String := "<FILES>..."

/-- The usage line for any command line. -/
def generalUsage : String := "Usage: " ++ toolName ++ " [OPTIONS] " ++ filesName

/-- The usage line that keeps to the given flags, each named once. -/
def usageWith (flags : List Flag) : String :=
  "Usage: " ++ toolName ++ " "
    ++ String.join (flags.eraseDups.map fun flag => flag.spelling ++ " ") ++ filesName

/-- The usage line with the alternatives that can be given, and a flag that is not one of
them. -/
def usageOfAlternatives (flag : Flag) : String :=
  let alternatives := [Flag.check, Flag.quiet]
  "Usage: " ++ toolName ++ " " ++ (if flag ∈ alternatives then "" else flag.spelling ++ " ")
    ++ "<FILES" ++ String.join (alternatives.map fun flag => "|" ++ flag.spelling) ++ ">"

/-- What is wrong with an argument that no flag matches. -/
def unexpectedText (argument : String) : String :=
  "unexpected argument '" ++ Text.withoutControl argument ++ "' found\n\n  tip: "

/-- How a file with the name of an unexpected argument could be given. -/
def escapeTip (argument : String) : String :=
  "to pass '" ++ Text.withoutControl argument ++ "' as a value, use '-- "
    ++ Text.withoutControl argument ++ "'"

/-- What is wrong with a command line. What the user typed is shown without terminal
control. -/
def text : UsageError → String
  | noFile _ => "the following required arguments were not provided:\n  " ++ filesName
  | emptyFile => "a value is required for '" ++ filesName ++ "' but none was supplied"
  | repeatedFlag flag => "the argument '" ++ flag.spelling ++ "' cannot be used multiple times"
  | unexpectedValue _ flag value =>
    "unexpected value '" ++ Text.withoutControl value ++ "' for '" ++ flag.spelling
      ++ "' found; no more were expected"
  | unknownLetter letter =>
    let argument := "-" ++ letter.toString
    unexpectedText argument ++ escapeTip argument
  | unknownName _ _ name =>
    let argument := "--" ++ name
    unexpectedText argument ++ escapeTip argument
  | similarName _ name similar =>
    unexpectedText ("--" ++ name) ++ "a similar argument exists: '" ++ similar.spelling ++ "'"

/-- The usage line that fits an error, if it gets one. It keeps to what was given before,
if anything was; a value behind a flag that follows other flags shows the alternatives
instead. -/
def usage? : UsageError → Option String
  | noFile given => some (usageWith given)
  | emptyFile => none
  | repeatedFlag _ => some generalUsage
  | unexpectedValue given flag _ =>
    some (if given = [] then usageWith [flag] else usageOfAlternatives flag)
  | unknownLetter _ => some generalUsage
  | unknownName given afterFile _ =>
    some (if given = [] && !afterFile then generalUsage else usageWith given)
  | similarName given _ similar => some (usageWith (given ++ [similar]))

/-- The complete message. -/
def message (error : UsageError) : String :=
  let usage := (error.usage?.map (· ++ "\n\n")).getD ""
  "error: " ++ error.text ++ "\n\n" ++ usage ++ "For more information, try '--help'.\n"

end UsageError

namespace Reply

/-- The help text. -/
def helpText : String :=
  "Generate static error-info tables from *.error.in definition files\n\n"
    ++ UsageError.generalUsage ++ "\n\n"
    ++ "Arguments:\n"
    ++ "  <FILES>...  Definition files to process, in order\n\n"
    ++ "Options:\n"
    ++ "  -c, --check    Check that generated files are up to date without writing them\n"
    ++ "  -q, --quiet    Only log errors\n"
    ++ "  -h, --help     Print help\n"
    ++ "  -V, --version  Print version\n"

/-- The version text. -/
def versionText : String := UsageError.toolName ++ " 0.1.0\n"

/-- The exit status: only a refusal is an error. -/
def exitCode : Reply → Nat
  | help => 0
  | version => 0
  | usage _ => 2

/-- What is printed to the standard output. -/
def stdout : Reply → String
  | help => helpText
  | version => versionText
  | usage _ => ""

/-- What is printed to the standard error output. -/
def stderr : Reply → String
  | help => ""
  | version => ""
  | usage error => error.message

end Reply

end ErrorTable
