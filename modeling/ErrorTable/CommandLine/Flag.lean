/-
Flags: the options of the command line.
-/

namespace ErrorTable

/-- An option of the command line. None takes a value. -/
inductive Flag where
  /-- Compare the output files instead of writing them. -/
  | check
  /-- Log errors only. -/
  | quiet
  /-- Print the help text. -/
  | help
  /-- Print the version. -/
  | version
  deriving DecidableEq, Repr

namespace Flag

/-- Every flag, in the order of the help text. -/
def all : List Flag := [check, quiet, help, version]

/-- The name of a flag behind two dashes. -/
def name : Flag → String
  | check => "check"
  | quiet => "quiet"
  | help => "help"
  | version => "version"

/-- The letter of a flag behind one dash. -/
def letter : Flag → Char
  | check => 'c'
  | quiet => 'q'
  | help => 'h'
  | version => 'V'

/-- A flag as it is spelled out on the command line. -/
def spelling (flag : Flag) : String := "--" ++ flag.name

/-- The flag with the given name. -/
def ofName? (name : String) : Option Flag :=
  all.find? (·.name = name)

/-- The flag with the given letter. -/
def ofLetter? (letter : Char) : Option Flag :=
  all.find? (·.letter = letter)

@[simp] theorem ofName?_name (flag : Flag) : ofName? flag.name = some flag := by
  cases flag <;> decide

@[simp] theorem ofLetter?_letter (flag : Flag) : ofLetter? flag.letter = some flag := by
  cases flag <;> decide

end Flag

end ErrorTable
