/-
Lines of a text.

A line ends at a line feed, and one carriage return directly before that line feed
belongs to the ending. What follows the last line feed is a line of its own unless it
is empty, and keeps its carriage return.
-/

namespace ErrorTable.Text

/-- The byte-order mark, U+FEFF. -/
def byteOrderMark : Char := '\ufeff'

/-- The text without a byte-order mark at its very start; a second mark stays. -/
def dropMark : List Char → List Char
  | [] => []
  | c :: cs => if c = byteOrderMark then cs else c :: cs

/-- The text without a carriage return at its very end; an earlier one stays. -/
def dropReturn (cs : List Char) : List Char :=
  if cs.getLast? = some '\r' then cs.dropLast else cs

/-- The lines of a text, without their endings. -/
def lines (cs : List Char) : List (List Char) :=
  let pieces := cs.splitOn '\n'
  let rest := pieces.getLastD []
  pieces.dropLast.map dropReturn ++ (if rest = [] then [] else [rest])

/-- The text made of the given lines, each ended by a line feed. -/
def unlines (ls : List String) : String :=
  String.join (ls.map (· ++ "\n"))

@[simp] theorem lines_nil : lines [] = [] := rfl

@[simp] theorem dropMark_cons_byteOrderMark (cs : List Char) :
    dropMark (byteOrderMark :: cs) = cs := by
  simp [dropMark]

@[simp] theorem toList_unlines (ls : List String) :
    (unlines ls).toList = ls.flatMap fun l => l.toList ++ ['\n'] := by
  simp [unlines, List.flatMap_map]

end ErrorTable.Text
