/-
What can go wrong when a file is read or written.
-/

namespace ErrorTable

/-- Why a file cannot be read or written. -/
inductive FileError where
  /-- Nothing is there, or the path is empty. -/
  | notFound
  /-- The path goes on behind something that is not a directory. -/
  | notDirectory
  /-- A directory is there, or could only be there. -/
  | isDirectory
  /-- A name, or the whole path, is too long. -/
  | nameTooLong
  /-- The content is not UTF-8 text. -/
  | notUtf8
  /-- The path holds a NUL character. -/
  | nulInPath
  /-- Any other refusal of the system, with its number and description. -/
  | system (number : Nat) (description : String)
  deriving DecidableEq, Repr

namespace FileError

/-- The number and description under which the system reports an error. -/
def systemText (number : Nat) (description : String) : String :=
  description ++ " (os error " ++ toString number ++ ")"

/-- The text of an error. -/
def message : FileError → String
  | notFound => systemText 2 "No such file or directory"
  | notDirectory => systemText 20 "Not a directory"
  | isDirectory => systemText 21 "Is a directory"
  | nameTooLong => systemText 36 "File name too long"
  | notUtf8 => "stream did not contain valid UTF-8"
  | nulInPath => "file name contained an unexpected NUL byte"
  | system number description => systemText number description

/-- The error that the system reports under a number and a description. -/
def ofSystem (number : Nat) (description : String) : FileError :=
  match number with
  | 2 => notFound
  | 20 => notDirectory
  | 21 => isDirectory
  | 36 => nameTooLong
  | _ => system number description

end FileError

end ErrorTable
