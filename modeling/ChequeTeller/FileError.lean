/-!
Why a file cannot be read.
-/

namespace ChequeTeller

inductive FileError
  | missing
  | isDirectory
  /-- A part of the path that is no directory. -/
  | notDirectory
  /-- The path, or a name in it, is too long. -/
  | tooLong
  /-- The path holds a character that no path holds. -/
  | badName
  /-- Read as text, it is not UTF-8. -/
  | notText
  deriving DecidableEq, Repr

def FileError.message : FileError → String
  | missing => "No such file or directory (os error 2)"
  | isDirectory => "Is a directory (os error 21)"
  | notDirectory => "Not a directory (os error 20)"
  | tooLong => "File name too long (os error 36)"
  | badName => "file name contained an unexpected NUL byte"
  | notText => "stream did not contain valid UTF-8"

/-- Reading files by their paths, in any monad that can. -/
abbrev ReadFile (m : Type → Type) := String → m (Except FileError (List UInt8))

end ChequeTeller
