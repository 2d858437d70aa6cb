import TypeAtlas.Files.Fault
import TypeAtlas.Path

/-!
What can go wrong with watching, and whether watching can go on.
-/

set_option autoImplicit false

namespace TypeAtlas.Watch

/-- What went wrong. -/
inductive Error where
  | pathNotFound (path : Path)
  /-- The file to watch is in no directory. -/
  | noParent (path : Path)
  /-- No more changes can arrive. -/
  | channelClosed
  /-- The name of a changed file is no text. -/
  | nonUtf8Path (path : Path)
  | io (fault : Files.Fault)
deriving DecidableEq, Repr

namespace Error

/-- The wording of an error. -/
def message : Error → String
  | .pathNotFound path => "path does not exist: " ++ path.text
  | .noParent path => "path has no parent directory: " ++ path.text
  | .channelClosed => "event channel closed unexpectedly"
  | .nonUtf8Path path => "path is not valid UTF-8: " ++ path.text
  | .io fault => "I/O error: " ++ fault.message

/-- Whether watching can go on. -/
def isRecoverable : Error → Bool
  | .nonUtf8Path _ => true
  | _ => false

/-- The path that watching was asked for. -/
def path? : Error → Option Path
  | .pathNotFound path | .noParent path => some path
  | _ => none

end Error

end TypeAtlas.Watch
