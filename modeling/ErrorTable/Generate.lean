/-
From a definition file to the fragment it describes.

Each definition file is read, parsed and rendered on its own. The fragment belongs next
to the definition file, under the name that its output directive gives.
-/
import ErrorTable.Definition
import ErrorTable.Fragment
import ErrorTable.Program

namespace ErrorTable

/-- A rendered fragment and where it belongs. -/
structure Generated where
  /-- The definition file. -/
  input : Path
  /-- The output file. -/
  output : Path
  fragment : String
  /-- The number of records in the fragment. -/
  entryCount : Nat
  deriving DecidableEq, Repr

namespace Definition

/-- The output file that a definition names, relative to the directory of the definition
file. An empty name is none. -/
def output? (definition : Definition) : Option String :=
  definition.directives.output.filter (· ≠ "")

/-- The warnings that a definition with the given output deserves. -/
def warnings (definition : Definition) (input : Path) (output : String) : List Event :=
  (match definition.directives.legacyOutput with
    | some legacy => if legacy ≠ output then [.legacyIgnored input legacy output] else []
    | none => [])
  ++ (if definition.directives.arrayName = none then [.unnamedTable input] else [])

/-- What is generated from a definition with the given output. -/
def generated (definition : Definition) (input : Path) (output : String) : Generated where
  input := input
  output := input.dir.join ⟨output⟩
  fragment := Fragment.render definition.arrayName definition.entries
  entryCount := definition.entries.length

end Definition

/-- Reads, parses and renders one definition file. Nothing is written. -/
def generate (input : Path) : Program Generated := do
  let content ← Program.readText input (.readInput input)
  let definition := Definition.parse content
  Program.reportAll ((Definition.unrecognizedLines content).map .unrecognizedLine)
  Program.reportAll [.parsed input definition.entries.length]
  match definition.output? with
  | none => .fail (.missingOutput input)
  | some output =>
    Program.reportAll (definition.warnings input output)
    return definition.generated input output

namespace Generated

/-- Writes the fragment, creating or replacing the output file. -/
def write (generated : Generated) : Program Unit :=
  .write generated.output generated.fragment.toUTF8 fun answer =>
    match answer with
    | .error error => .fail (.writeOutput generated.output error)
    | .ok () =>
      Program.reportAll [.wrote generated.input generated.output generated.entryCount]

/-- Whether the output file already holds exactly the fragment. -/
def isUpToDate (generated : Generated) : Program Bool :=
  .read generated.output fun answer =>
    match answer with
    | .error _ => .done false
    | .ok content => .done (content.data == generated.fragment.toUTF8.data)

end Generated

end ErrorTable
