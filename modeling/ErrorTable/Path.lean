/-
Paths, as texts.

A path is a text cut into pieces by slashes. Nothing here looks at a file system: taking
the directory of a path, or joining two paths, cuts and glues texts and leaves repeated
slashes and dots inside them as they are.
-/

namespace ErrorTable

/-- A path as it was written. -/
structure Path where
  text : String
  deriving DecidableEq, Repr

namespace Path

/-- The path starts at the root. -/
def isAbsolute (path : Path) : Bool :=
  path.text.toList.head? = some '/'

/-- The path ends in a slash. -/
def endsInSlash (path : Path) : Bool :=
  path.text.toList.getLast? = some '/'

/-- The texts between the slashes. There is always one; the first is empty if the path
is absolute, and the last if it ends in a slash. -/
def pieces (path : Path) : List String :=
  (path.text.toList.splitOn '/').map String.ofList

/-- The path with the given pieces. -/
def ofPieces (pieces : List String) : Path :=
  ⟨String.intercalate "/" pieces⟩

/-- Whether a piece leads from a directory to itself. -/
def isIdle (piece : String) : Bool :=
  piece = "" || piece = "."

/-- The pieces without those at the end that lead nowhere. -/
def dropIdle (pieces : List String) : List String :=
  (pieces.reverse.dropWhile isIdle).reverse

/-- The current directory. -/
def current : Path := ⟨"."⟩

/-- The root. -/
def root : Path := ⟨"/"⟩

/-- The path of the directory that a path's last component stands in: the text before
that component, up to the component before it. It is `.` if there is no component
before it, so that a bare file name stands in the current directory.

The first piece counts as a component of its own, also if it is `.`, or stands for the
root if it is empty; any later piece counts unless it leads nowhere. -/
def dir (path : Path) : Path :=
  match path.pieces with
  | [] => current
  | first :: rest =>
    match dropIdle rest with
    | [] => current
    | components =>
      match dropIdle components.dropLast with
      | [] => if first = "" then root else ⟨first⟩
      | before => ofPieces (first :: before)

/-- The path that a target names when it is read from a directory: an absolute target
names itself, and any other is put behind the directory and one slash. -/
def join (dir target : Path) : Path :=
  if target.isAbsolute then target
  else if dir.text = "" || dir.endsInSlash then ⟨dir.text ++ target.text⟩
  else ⟨dir.text ++ "/" ++ target.text⟩

theorem pieces_ne_nil (path : Path) : path.pieces ≠ [] := by
  simp [pieces, List.splitOn_ne_nil]

/-- Gluing the pieces of a path together gives the path back. -/
@[simp] theorem ofPieces_pieces (path : Path) : ofPieces path.pieces = path := by
  obtain ⟨text⟩ := path
  simp only [ofPieces, pieces, mk.injEq]
  apply String.toList_inj.1
  simp [String.toList_intercalate, Function.comp_def, List.intercalate_splitOn]

end Path

end ErrorTable
