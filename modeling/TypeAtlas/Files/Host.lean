import TypeAtlas.Files.Snapshot

/-!
What a program can ask about the files around it. The answers come from the system, or from a
snapshot.
-/

set_option autoImplicit false

namespace TypeAtlas.Files

/-- Answers about files, and the text that the program is given to read. -/
structure Host (m : Type → Type) where
  /-- The text of a file. -/
  read : Path → m (Except Fault String)
  /-- The place that a path leads to. -/
  resolve : Path → m (Except Fault Place)
  /-- Whether a path leads to a directory. -/
  isDirectory : Path → m Bool
  /-- The text that is given besides all files. -/
  input : m (Except Fault String)

/-- Answers from a snapshot, for a program that is at a place. -/
def Snapshot.host (files : Snapshot) (start : Place) (input : String) : Host Id where
  read path := files.read start path
  resolve path := files.resolve start path
  isDirectory path := ((files.resolve start path).toOption.bind files.entry?) == some .directory
  input := .ok input

end TypeAtlas.Files
