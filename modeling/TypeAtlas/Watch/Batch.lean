import TypeAtlas.Path

/-!
Files that changed within a short time.

A batch holds each path once, as it was spelled first, in the order of arrival.
-/

set_option autoImplicit false

namespace TypeAtlas.Watch

/-- Paths of files that changed. -/
structure Batch where
  paths : List Path
deriving DecidableEq, Repr

namespace Batch

/-- No file. -/
def empty : Batch := ⟨[]⟩

/-- Whether a path is in a batch, however it is spelled. -/
def contains (batch : Batch) (path : Path) : Bool := batch.paths.any path.same

/-- Adds a path at the end unless it is there. -/
def push (batch : Batch) (path : Path) : Batch :=
  if batch.contains path then batch else ⟨batch.paths ++ [path]⟩

/-- The batch of all given paths. -/
def ofList (paths : List Path) : Batch := paths.foldl push empty

def size (batch : Batch) : Nat := batch.paths.length

def isEmpty (batch : Batch) : Bool := batch.paths.isEmpty

end Batch

end TypeAtlas.Watch
