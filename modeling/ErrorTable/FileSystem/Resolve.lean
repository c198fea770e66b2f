/-
From paths to locations.

A path is followed piece by piece, starting at the root or at the current directory. Each
piece is looked up in the place reached so far, which therefore has to be a directory: an
empty piece or `.` stays there, `..` goes up (the root is its own parent), and any other
piece names an entry, which need not exist if the path ends with it.
-/
import ErrorTable.FileSystem.Basic
import ErrorTable.FileSystem.Error
import ErrorTable.Path

namespace ErrorTable.FileSystem

/-- The most bytes that a name can have. -/
def maxNameSize : Nat := 255

/-- The most bytes that a path can have. -/
def maxPathSize : Nat := 4095

/-- Refuses the paths that name nothing in any file system. -/
def checkPath (path : Path) : Except FileError Unit :=
  if path.text.toList.contains '\x00' then .error .nulInPath
  else if path.text = "" then .error .notFound
  else if path.text.utf8ByteSize > maxPathSize then .error .nameTooLong
  else .ok ()

/-- Refuses a place that is not a directory. -/
def expectDirectory (fs : FileSystem) (place : Location) : Except FileError Unit :=
  match fs.node? place with
  | none => .error .notFound
  | some (.file _) => .error .notDirectory
  | some .directory => .ok ()

/-- The location of the entry with the given name. -/
def entryAt (place : Location) (name : String) : Except FileError Location :=
  if name.utf8ByteSize > maxNameSize then .error .nameTooLong else .ok (name :: place)

/-- Where one piece of a path leads from a place. -/
def step (fs : FileSystem) (place : Location) (piece : String) : Except FileError Location := do
  fs.expectDirectory place
  if Path.isIdle piece then .ok place
  else if piece = ".." then .ok place.tail
  else entryAt place piece

/-- Where the pieces of a path lead from a place. -/
def walk (fs : FileSystem) (place : Location) (pieces : List String) : Except FileError Location :=
  pieces.foldlM fs.step place

/-- Where a path starts. -/
def origin (fs : FileSystem) (path : Path) : Location :=
  if path.isAbsolute then [] else fs.cwd

/-- The location that a path names. Something need not be there. -/
def resolve (fs : FileSystem) (path : Path) : Except FileError Location := do
  checkPath path
  fs.walk (fs.origin path) path.pieces

/-- The location of the file that a write to a path creates or replaces. The place that
the last name stands in has to be a directory, and what stands at the location has to be
a file or nothing. A path that ends in a slash or in a dot can only name a directory. -/
def destination (fs : FileSystem) (path : Path) : Except FileError Location := do
  checkPath path
  match path.pieces.reverse.dropWhile (· = "") with
  | [] => .error .isDirectory
  | name :: above =>
    let place ← fs.walk (fs.origin path) above.reverse
    fs.expectDirectory place
    if path.endsInSlash || name = "." || name = ".." then .error .isDirectory
    else
      let target ← entryAt place name
      match fs.node? target with
      | some .directory => .error .isDirectory
      | _ => .ok target

/-- Following one list of pieces and then another. -/
theorem walk_append (fs : FileSystem) (place : Location) (before after : List String) :
    fs.walk place (before ++ after) = fs.walk place before >>= fun p => fs.walk p after := by
  simp [walk, List.foldlM_append]

@[simp] theorem walk_nil (fs : FileSystem) (place : Location) : fs.walk place [] = .ok place := rfl

end ErrorTable.FileSystem
