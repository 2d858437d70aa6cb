import TypeAtlas.Files.Host
import TypeAtlas.Watch.Error
import TypeAtlas.Watch.Filter

/-!
What is watched when watching starts.

A directory is watched itself. A file is watched through its directory, because many editors save
by putting a new file in the place of the old one.
-/

set_option autoImplicit false

namespace TypeAtlas.Watch

open Files (Host Place)

/-- The directory or file whose changes arrive, and which of them count. -/
structure Watched where
  path : Path
  filter : Filter

namespace Watched

variable {m : Type → Type} [Monad m]

/-- The place of a path that has to exist. -/
def locate (host : Host m) (path : Path) : m (Except Error Place) := do
  match ← host.resolve path with
  | .ok place => return .ok place
  | .error _ => return .error (.pathNotFound path)

/-- Watches what a path leads to, be it a directory or a file. -/
def whole (host : Host m) (path : Path) (filter : Filter) : m (Except Error Watched) := do
  match ← locate host path with
  | .ok place => return .ok ⟨.ofNames place, filter⟩
  | .error error => return .error error

/-- Watches one file through its directory. -/
def file (host : Host m) (path : Path) : m (Except Error Watched) := do
  match ← locate host path with
  | .error error => return .error error
  | .ok [] => return .error (.noParent (.ofNames []))
  | .ok (name :: names) =>
    return .ok ⟨.ofNames (name :: names).dropLast, .target (.ofNames (name :: names))⟩

end Watched

end TypeAtlas.Watch
