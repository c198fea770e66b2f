/-
Definition files: what all the lines of one say together.
-/
import ErrorTable.Line
import ErrorTable.Text.Lines

namespace ErrorTable

/-- Everything that a definition file says. -/
structure Definition where
  directives : Directives := {}
  /-- The entries in the order of their lines. -/
  entries : List Entry := []
  deriving DecidableEq, Repr

/-- Takes one more line into account. -/
def Directives.add (directives : Directives) : Line → Directives
  | .directive key value => directives.set key value
  | _ => directives

namespace Definition

/-- The lines of a definition file; a byte-order mark at its start does not count. -/
def lines (content : String) : List String :=
  (Text.lines (Text.dropMark content.toList)).map String.ofList

/-- The definition that a sequence of classified lines amounts to: the last directive of
each key counts, and every entry. -/
def ofLines (ls : List Line) : Definition where
  directives := ls.foldl Directives.add {}
  entries := ls.filterMap Line.asEntry

/-- Reads the text of a definition file. Every text can be read. -/
def parse (content : String) : Definition :=
  ofLines ((lines content).map Line.classify)

/-- The numbers, counted from one, of the lines that are dropped although they are not
blank. -/
def unrecognizedLines (content : String) : List Nat :=
  ((lines content).zipIdx 1).filterMap fun (line, number) =>
    if Line.isUnrecognized line then some number else none

/-- The name that the generated array gets: empty if no directive names it. -/
def arrayName (definition : Definition) : String :=
  definition.directives.arrayName.getD ""

@[simp] theorem ofLines_nil : ofLines [] = {} := rfl

@[simp] theorem entries_ofLines_append (before after : List Line) :
    (ofLines (before ++ after)).entries = (ofLines before).entries ++ (ofLines after).entries := by
  simp [ofLines]

end Definition

end ErrorTable
