/-
Reading the command line.

Arguments are taken from left to right, and the first problem or request for help ends
the reading; only a missing file shows at the end. Flags and files may mix. Behind `--`
every argument is a file, and so is a lone `-`.
-/
import ErrorTable.Batch
import ErrorTable.CommandLine.Reply
import ErrorTable.Text.Similarity

namespace ErrorTable

/-- One argument before the separator. -/
inductive Argument where
  | file (name : String)
  /-- Two dashes: only files follow. -/
  | separator
  /-- Two dashes and a name, perhaps with `=` and a value. -/
  | long (name : String) (value : Option String)
  /-- One dash and letters. -/
  | short (letters : List Char)
  deriving DecidableEq, Repr

/-- What an argument is, by its dashes. -/
def Argument.ofString (argument : String) : Argument :=
  match argument.toList with
  | ['-', '-'] => separator
  | '-' :: '-' :: rest =>
    let name := String.ofList (rest.takeWhile (· ≠ '='))
    match rest.dropWhile (· ≠ '=') with
    | [] => long name none
    | _ :: value => long name (some (String.ofList value))
  | '-' :: c :: letters => short (c :: letters)
  | _ => file argument

/-- What an accepted command line asks for. -/
structure Options where
  /-- Whether output files are compared instead of written. -/
  check : Bool
  quiet : Bool
  /-- The definition files, in order. -/
  files : List Path
  deriving DecidableEq, Repr

/-- What is done with the fragments. -/
def Options.mode (options : Options) : Mode :=
  if options.check then .check else .write

/-- What has been read of a command line. -/
structure Scan where
  /-- The flags given so far, in order. -/
  flags : List Flag := []
  /-- The files given so far, in order. -/
  files : List String := []
  deriving DecidableEq, Repr

namespace Scan

/-- Takes in files. -/
def addFiles (scan : Scan) (files : List String) : Scan :=
  { scan with files := scan.files ++ files }

/-- Refuses an empty file name. This is noticed when the run of files that it belongs to
ends: at the next flag, or at the end of the command line. -/
def checkFiles (scan : Scan) : Except Reply Unit :=
  if "" ∈ scan.files then .error (.usage .emptyFile) else .ok ()

/-- Takes in a flag. Help and version are answered at once; another flag can be given only
once. -/
def accept (scan : Scan) (flag : Flag) : Except Reply Scan := do
  scan.checkFiles
  match flag with
  | .help => .error .help
  | .version => .error .version
  | _ =>
    if flag ∈ scan.flags then .error (.usage (.repeatedFlag flag))
    else .ok { scan with flags := scan.flags ++ [flag] }

/-- Takes in a flag by its letter. -/
def acceptLetter (scan : Scan) (letter : Char) : Except Reply Scan :=
  match Flag.ofLetter? letter with
  | some flag => scan.accept flag
  | none => .error (.usage (.unknownLetter letter))

/-- Takes in a flag by its name. -/
def acceptName (scan : Scan) (name : String) (value : Option String) : Except Reply Scan :=
  match Flag.ofName? name, value with
  | some flag, none => scan.accept flag
  | some flag, some value => .error (.usage (.unexpectedValue scan.flags flag value))
  | none, _ =>
    match Text.mostSimilar? Flag.name name Flag.all with
    | some similar => .error (.usage (.similarName scan.flags name similar))
    | none => .error (.usage (.unknownName scan.flags (!scan.files.isEmpty) name))

/-- What the whole command line asks for. -/
def finish (scan : Scan) : Except Reply Options := do
  scan.checkFiles
  if scan.files = [] then .error (.usage (.noFile scan.flags))
  else .ok {
    check := .check ∈ scan.flags
    quiet := .quiet ∈ scan.flags
    files := scan.files.map Path.mk }

/-- Reads the rest of a command line. -/
def read (scan : Scan) : List String → Except Reply Options
  | [] => scan.finish
  | argument :: rest =>
    match Argument.ofString argument with
    | .file name => (scan.addFiles [name]).read rest
    | .separator => (scan.addFiles rest).finish
    | .long name value => do (← scan.acceptName name value).read rest
    | .short letters => do (← letters.foldlM acceptLetter scan).read rest

end Scan

/-- Reads the arguments of a command line. -/
def Options.parse (arguments : List String) : Except Reply Options :=
  ({} : Scan).read arguments

end ErrorTable
