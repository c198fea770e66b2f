/-
Reading and changing a file system through paths.
-/
import ErrorTable.FileSystem.Resolve

namespace ErrorTable.FileSystem

/-- The bytes of the file that a path names. -/
def read (fs : FileSystem) (path : Path) : Except FileError ByteArray := do
  match fs.node? (← fs.resolve path) with
  | some (.file content) => .ok content
  | some .directory => .error .isDirectory
  | none => .error .notFound

/-- The text of the file that a path names. -/
def readText (fs : FileSystem) (path : Path) : Except FileError String := do
  match String.fromUTF8? (← fs.read path) with
  | some text => .ok text
  | none => .error .notUtf8

/-- The file system after a write, which creates the file that a path names or replaces
its bytes. -/
def write (fs : FileSystem) (path : Path) (content : ByteArray) : Except FileError FileSystem := do
  return fs.put (← fs.destination path) (.file content)

/-- The file system without the file that a path names. -/
def remove (fs : FileSystem) (path : Path) : Except FileError FileSystem := do
  let place ← fs.resolve path
  match fs.node? place with
  | some (.file _) => .ok (fs.erase place)
  | some .directory => .error .isDirectory
  | none => .error .notFound

/-- Follows the pieces of a path and makes a directory wherever there is nothing. A `.` at
the end names only a directory that is there already. The directories made before an error
stay. -/
def makeMissing (fs : FileSystem) (place : Location) :
    List String → FileSystem × Except FileError Unit
  | [] => (fs, fs.expectDirectory place)
  | piece :: pieces =>
    match fs.step place piece with
    | .error error => (fs, .error error)
    | .ok next =>
      let dotted := pieces.all Path.isIdle && pieces.contains "."
      let fs := if (fs.node? next).isNone && !dotted then fs.put next .directory else fs
      fs.makeMissing next pieces

/-- Makes the directory that a path names and those above it, as far as they are missing.
An empty path asks for nothing. -/
def makeDirectories (fs : FileSystem) (path : Path) : FileSystem × Except FileError Unit :=
  if path.text = "" then (fs, .ok ())
  else
    match checkPath path with
    | .error error => (fs, .error error)
    | .ok () => fs.makeMissing (fs.origin path) path.pieces

/-- One line of a listing. -/
structure ListingItem where
  /-- The path from the current directory, with a slash behind it if it is a directory. -/
  name : String
  /-- The number of bytes, if it is a file. -/
  size : Option Nat
  deriving DecidableEq, Repr

/-- The names that lead from the current directory down to a location, if the location
is below it. -/
def namesBelow (fs : FileSystem) (place : Location) : Option (List String) :=
  let depth := place.length - fs.cwd.length
  if depth > 0 ∧ place.drop depth = fs.cwd then some (place.take depth).reverse else none

/-- Whether a name comes before another by the code points of its characters. -/
def nameBefore (a b : String) : Bool :=
  a.toList.lex b.toList fun c d => c.toNat < d.toNat

/-- All that stands below the current directory, each directory directly before its
content, and the names in a directory sorted by their code points. -/
def listing (fs : FileSystem) : List ListingItem :=
  let found := fs.nodes.filterMap fun (place, node) => (fs.namesBelow place).map (·, node)
  let sorted := found.mergeSort fun a b => !b.1.lex a.1 nameBefore
  sorted.map fun (names, node) =>
    match node with
    | .file content => ⟨String.intercalate "/" names, some content.size⟩
    | .directory => ⟨String.intercalate "/" names ++ "/", none⟩

end ErrorTable.FileSystem
