/-!
Paths of files.

Two spellings of a path are the same path if they have the same parts. Repeated slashes, a slash at
the end and single points make no parts, except for a single point at the very beginning. Two
points stand for the directory above and are kept, since what is above depends on the files.
-/

set_option autoImplicit false

namespace TypeAtlas

/-- A path as it is spelled. -/
structure Path where
  text : String
deriving DecidableEq, Repr, Inhabited

namespace Path

/-- A part of a path. -/
inductive Part where
  /-- The slash at the beginning. -/
  | root
  /-- The point at the beginning. -/
  | here
  /-- Two points. -/
  | up
  | name (name : String)
deriving DecidableEq, Repr

/-- The stretches between slashes. -/
def segments : List Char → List (List Char)
  | [] => [[]]
  | c :: rest =>
    if c = '/' then [] :: segments rest
    else
      match segments rest with
      | [] => [[c]]
      | first :: more => (c :: first) :: more

/-- The part that a stretch makes, unless it is at the beginning of the path. -/
def Part.ofSegment? (segment : List Char) : Option Part :=
  if segment = [] || segment = ['.'] then none
  else if segment = ['.', '.'] then some .up
  else some (.name (String.ofList segment))

/-- The part that the first stretch makes. -/
def Part.first? (segment : List Char) : Option Part :=
  if segment = ['.'] then some .here else Part.ofSegment? segment

/-- The parts of a path. -/
def parts (path : Path) : List Part :=
  match path.text.toList with
  | '/' :: rest => .root :: (segments rest).filterMap Part.ofSegment?
  | chars =>
    match segments chars with
    | [] => []
    | first :: rest => (Part.first? first).toList ++ rest.filterMap Part.ofSegment?

/-- Whether two spellings are the same path. -/
def same (a b : Path) : Bool := a.parts == b.parts

/-- Two paths are the same if they have the same parts, whatever their texts are. -/
theorem same_iff {a b : Path} : a.same b = true ↔ a.parts = b.parts := by simp [same]

/-- Every path is the same as itself. -/
theorem same_refl (a : Path) : a.same a = true := by simp [same]

/-- It does not matter which of two paths is compared with which. -/
theorem same_comm (a b : Path) : a.same b = b.same a := by
  simp only [same]
  exact BEq.comm

/-- The name at the end of a path. A path that ends in two points has none. -/
def fileName? (path : Path) : Option String :=
  match path.parts.getLast? with
  | some (.name name) => some name
  | _ => none

/-- What comes after the last point of a name, unless that is where the name starts. -/
def extensionOf? (name : String) : Option String :=
  let (last, rest) := name.toList.reverse.span (· != '.')
  match rest with
  | [] | ['.'] => none
  | _ => some (String.ofList last.reverse)

/-- The extension of a path. -/
def extension? (path : Path) : Option String := path.fileName?.bind extensionOf?

/-- Whether a path starts at the root. -/
def isAbsolute (path : Path) : Bool := path.text.toList.head? == some '/'

/-- A path as seen from a directory. -/
def join (directory path : Path) : Path :=
  if path.isAbsolute then path
  else if directory.text.isEmpty || directory.text.toList.getLast? == some '/' then
    ⟨directory.text ++ path.text⟩
  else ⟨directory.text ++ "/" ++ path.text⟩

/-- The path from the root through directories of the given names. -/
def ofNames (names : List String) : Path := ⟨"/" ++ "/".intercalate names⟩

end Path

end TypeAtlas
