import TypeAtlas.Files.Fault
import TypeAtlas.Path

/-!
Directories and files at one moment.

A place is the list of names on the way to it from the root. A path is followed name by name, and
only a directory can be followed further, even if all that follows is a slash.
-/

set_option autoImplicit false

namespace TypeAtlas.Files

/-- What is at a place. -/
inductive Entry where
  | file (text : String)
  | directory
deriving DecidableEq, Repr

/-- The names on the way from the root. -/
abbrev Place := List String

/-- Everything below the root. The first entry of a place counts. -/
structure Snapshot where
  entries : List (Place × Entry)

namespace Snapshot

/-- Nothing but the root. -/
def empty : Snapshot := ⟨[]⟩

/-- What is at a place. -/
def entry? (files : Snapshot) (place : Place) : Option Entry :=
  if place = [] then some .directory else files.entries.lookup place

/-- Puts a directory at a place, unless something is there. -/
def addDirectory (files : Snapshot) (place : Place) : Snapshot :=
  match files.entry? place with
  | some _ => files
  | none => ⟨(place, .directory) :: files.entries⟩

/-- Writes a file, with the directories on the way. -/
def write (files : Snapshot) (place : Place) (text : String) : Snapshot :=
  let withParents := ((List.range place.length).map place.take).foldl addDirectory files
  ⟨(place, .file text) :: withParents.entries⟩

/-- Removes the file at a place. The directories on the way stay. -/
def erase (files : Snapshot) (place : Place) : Snapshot :=
  ⟨files.entries.filter fun entry => entry.1 != place⟩

/-- How many bytes a name has at most. -/
def maxName : Nat := 255

/-- How many bytes a path has at most. -/
def maxPath : Nat := 4095

/-- Follows one stretch of a path. -/
def step (files : Snapshot) (place : Place) (segment : List Char) : Except Fault Place :=
  match files.entry? place with
  | none => .error .notFound
  | some (.file _) => .error .notDirectory
  | some .directory =>
    match Path.Part.ofSegment? segment with
    | some .up => .ok place.dropLast
    | some (.name name) =>
      let next := place ++ [name]
      if maxName < name.utf8ByteSize then .error .tooLong
      else if (files.entry? next).isSome then .ok next
      else .error .notFound
    | _ => .ok place

/-- The place that a path leads to, seen from the given place. -/
def resolve (files : Snapshot) (start : Place) (path : Path) : Except Fault Place :=
  match path.text.toList with
  | [] => .error .notFound
  | chars =>
    if maxPath < path.text.utf8ByteSize then .error .tooLong
    else (Path.segments chars).foldlM (files.step) (if path.isAbsolute then [] else start)

/-- The text of a file. -/
def read (files : Snapshot) (start : Place) (path : Path) : Except Fault String := do
  let place ← files.resolve start path
  match files.entry? place with
  | some (.file text) => .ok text
  | some .directory => .error .isDirectory
  | none => .error .notFound

end Snapshot

end TypeAtlas.Files
