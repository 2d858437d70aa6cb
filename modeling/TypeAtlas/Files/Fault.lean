/-!
Why a file cannot be read.
-/

set_option autoImplicit false

namespace TypeAtlas.Files

/-- Why a file cannot be read. -/
inductive Fault where
  /-- Nothing is there. -/
  | notFound
  /-- The path goes on below something that is no directory. -/
  | notDirectory
  /-- A directory is there. -/
  | isDirectory
  /-- The path, or a name on the way, is too long. -/
  | tooLong
  /-- What is there is not text. -/
  | notText
  /-- Any other reason, in the words of the system. -/
  | other (reason : String)
deriving DecidableEq, Repr

/-- The wording of a fault. -/
def Fault.message : Fault → String
  | .notFound => "No such file or directory (os error 2)"
  | .notDirectory => "Not a directory (os error 20)"
  | .isDirectory => "Is a directory (os error 21)"
  | .tooLong => "File name too long (os error 36)"
  | .notText => "stream did not contain valid UTF-8"
  | .other reason => reason

end TypeAtlas.Files
