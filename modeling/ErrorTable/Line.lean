/-
What a line of a definition file says.

After trimming, a line is a directive if it is a key, `=` and a value; an entry if it is
three words and a message with blanks between them; and ignored otherwise. Neither a
value nor a message goes past a line feed, though a line feed may stand among the blanks
between two words.
-/
import ErrorTable.Directive
import ErrorTable.Entry
import ErrorTable.Text.Blank

namespace ErrorTable

/-- The classification of one line. -/
inductive Line where
  | directive (key : DirectiveKey) (value : String)
  | entry (entry : Entry)
  /-- Blank lines, comments and anything malformed. -/
  | ignored
  deriving DecidableEq, Repr

namespace Line

/-- The characters of a word: ASCII letters and digits, and the underscore. -/
def isWordChar (c : Char) : Bool :=
  c.isAlphanum || c == '_'

/-- The longest word at the start of a text and what follows the blanks behind it, if
there is a word and at least one blank. -/
def word? (cs : List Char) : Option (List Char × List Char) :=
  let word := cs.takeWhile isWordChar
  let rest := cs.dropWhile isWordChar
  if word ≠ [] ∧ (rest.head?.any Text.isBlank) then some (word, rest.dropWhile Text.isBlank)
  else none

/-- The value behind the key in a trimmed text, if the text is a directive with that key. -/
def valueOf? (key : DirectiveKey) (cs : List Char) : Option String :=
  let start := key.name.toList ++ ['=']
  let rest := cs.drop start.length
  if start.isPrefixOf cs ∧ '\n' ∉ rest then some (String.ofList (Text.trim rest)) else none

/-- The directive that a trimmed text is. -/
def directiveOf? (cs : List Char) : Option Line :=
  DirectiveKey.all.findSome? fun key => (valueOf? key cs).map (directive key)

/-- The entry that a trimmed text is. -/
def entryOf? (cs : List Char) : Option Entry := do
  let (code, cs) ← word? cs
  let (exception, cs) ← word? cs
  let (flag, message) ← word? cs
  if message = [] ∨ '\n' ∈ message then none
  else some {
    code := String.ofList code
    exception := String.ofList exception
    flag := String.ofList flag
    message := String.ofList message }

/-- Classifies one line; the blanks at its ends do not count. -/
def classify (line : String) : Line :=
  let cs := Text.trim line.toList
  (directiveOf? cs).getD (((entryOf? cs).map entry).getD ignored)

/-- The entry that a line is. -/
def asEntry : Line → Option Entry
  | .entry row => some row
  | _ => none

/-- Whether a line holds nothing but blanks. -/
def isBlank (line : String) : Bool :=
  line.toList.all Text.isBlank

/-- Whether a line is neither blank nor anything that `classify` recognises. -/
def isUnrecognized (line : String) : Bool :=
  classify line = ignored && !isBlank line

end Line

end ErrorTable
