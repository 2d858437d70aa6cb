import TypeAtlas.Text.Location

/-!
Places in a text together with what follows them.
-/

set_option autoImplicit false

namespace TypeAtlas.Text

/-- A place in a text and the characters from there on. -/
structure Cursor where
  place : Location
  rest : List Char

namespace Cursor

/-- The cursor before the first character of a text. -/
def ofString (text : String) : Cursor := ⟨.start, text.toList⟩

/-- The cursor some characters further on. -/
def advance : Nat → Cursor → Cursor
  | n + 1, ⟨place, c :: rest⟩ => advance n ⟨place.step c, rest⟩
  | _, cursor => cursor

/-- The cursor after the characters of a kind. -/
def skipWhile (skipped : Char → Bool) : Cursor → Cursor
  | ⟨place, []⟩ => ⟨place, []⟩
  | ⟨place, c :: rest⟩ =>
    if skipped c then skipWhile skipped ⟨place.step c, rest⟩ else ⟨place, c :: rest⟩
termination_by cursor => cursor.rest.length

/-- The cursor at a byte offset, or at the end if the text stops before it. -/
def seek (offset : Nat) : Cursor → Cursor
  | ⟨place, []⟩ => ⟨place, []⟩
  | ⟨place, c :: rest⟩ =>
    if place.byte < offset then seek offset ⟨place.step c, rest⟩ else ⟨place, c :: rest⟩
termination_by cursor => cursor.rest.length

end Cursor

end TypeAtlas.Text
