/-!
Places in a source text and the stretches between two of them.
-/

set_option autoImplicit false

namespace TypeAtlas.Text

/-- A place in a source text. Lines count from 1, columns from 0, and columns and offsets count
bytes of the UTF-8 form. -/
structure Location where
  /-- The line, the first one being 1. -/
  line : Nat
  /-- The number of bytes before the place on its line. -/
  column : Nat
  /-- The number of bytes before the place in the text. -/
  byte : Nat
deriving DecidableEq, Repr, Inhabited

namespace Location

/-- The place before the first character. -/
def start : Location := ⟨1, 0, 0⟩

/-- The place after one more character. -/
def step (place : Location) (c : Char) : Location :=
  if c = '\n' then ⟨place.line + 1, 0, place.byte + 1⟩
  else ⟨place.line, place.column + c.utf8Size, place.byte + c.utf8Size⟩

/-- Places are compared by line, then by column, then by offset. -/
def order (a b : Location) : Ordering :=
  (compare a.line b.line).then <| (compare a.column b.column).then (compare a.byte b.byte)

/-- A place is written as its line and column. -/
def text (place : Location) : String := s!"{place.line}:{place.column}"

end Location

/-- A stretch of a source text, without its stop. -/
structure Span where
  /-- The place of the first byte. -/
  start : Location
  /-- The place after the last byte. -/
  stop : Location
deriving DecidableEq, Repr, Inhabited

namespace Span

/-- The number of bytes, zero for a stretch that stops before it starts. -/
def length (span : Span) : Nat := span.stop.byte - span.start.byte

/-- Whether the stretch holds no byte. -/
def isEmpty (span : Span) : Bool := span.length == 0

/-- Whether the byte at an offset lies in the stretch. -/
def contains (span : Span) (offset : Nat) : Bool :=
  span.start.byte ≤ offset && offset < span.stop.byte

/-- A stretch is written as its two places. -/
def text (span : Span) : String := span.start.text ++ "-" ++ span.stop.text

end Span

end TypeAtlas.Text
