/-!
The single edit that turns one text into another.

The texts are compared byte by byte, first from the start and then from the end, there only as far
as the start they have in common leaves room in both. A comparison that stops inside of a character
goes back until it is between two characters in both texts. Offsets count bytes of the UTF-8 form.
-/

set_option autoImplicit false

namespace TypeAtlas.Text

/-- The UTF-8 form of a text. -/
def bytes (text : String) : List UInt8 := text.toByteArray.data.toList

/-- The byte that breaks a line. -/
def lineBreak : UInt8 := 10

/-- A place as a pair of counts: the line breaks before it and the bytes after the last one. -/
structure Point where
  /-- The number of line breaks before the place. -/
  row : Nat
  /-- The number of bytes since the last line break. -/
  column : Nat
deriving DecidableEq, Repr, Inhabited

namespace Point

/-- The point after the given bytes. Its column is found by going back to the last line break. -/
def after (bytes : List UInt8) : Point :=
  ⟨bytes.count lineBreak, (bytes.reverse.takeWhile (· != lineBreak)).length⟩

/-- The point at a byte offset of a text. -/
def ofOffset (text : String) (offset : Nat) : Point := after ((bytes text).take offset)

end Point

/-- Whether an offset is between two characters of a text, or at one of its ends. -/
def isBetween (text : String) (offset : Nat) : Bool := String.Pos.Raw.isValid text ⟨offset⟩

/-- How many bytes two lists have in common before they differ. -/
def agreement (as bs : List UInt8) : Nat :=
  ((as.zip bs).takeWhile fun pair => pair.1 == pair.2).length

/-- The first number that passes a test, going down from a given one. There is none if not even 0
passes it. -/
def downTo? (test : Nat → Bool) : Nat → Option Nat
  | 0 => if test 0 then some 0 else none
  | n + 1 => if test (n + 1) then some (n + 1) else downTo? test n

/-- An edit of a text: the bytes from `startByte` to `oldEndByte` are replaced, and in the new
text the replacement reaches to `newEndByte`. -/
structure Edit where
  startByte : Nat
  oldEndByte : Nat
  newEndByte : Nat
  start : Point
  oldEnd : Point
  newEnd : Point
deriving DecidableEq, Repr

namespace Edit

/-- How many bytes at the start and at the end of both texts an edit leaves as they are. There is no
answer if going back never comes to a place between characters. -/
def kept? (old new : String) : Option (Nat × Nat) := do
  let first ← downTo? (fun n => isBetween old n && isBetween new n)
    (agreement (bytes old) (bytes new))
  let room := min old.utf8ByteSize new.utf8ByteSize - first
  let last ← downTo?
    (fun n => isBetween old (old.utf8ByteSize - n) && isBetween new (new.utf8ByteSize - n))
    (agreement ((bytes old).reverse.take room) ((bytes new).reverse.take room))
  return (first, last)

/-- The edit that turns `old` into `new`, or nothing if they are equal. -/
def between? (old new : String) : Option Edit :=
  if old = new then none
  else
    (kept? old new).map fun (first, last) =>
      let oldLast := old.utf8ByteSize - last
      let newLast := new.utf8ByteSize - last
      ⟨first, oldLast, newLast, Point.ofOffset old first, Point.ofOffset old oldLast,
        Point.ofOffset new newLast⟩

end Edit

end TypeAtlas.Text
