/-!
Blank characters and the one-line form of a text.

A text is shown on one line: its words, the runs without blank characters, joined by single
spaces.
-/

set_option autoImplicit false

namespace TypeAtlas.Text

/-- The characters with the Unicode property `White_Space`. -/
def isBlank (c : Char) : Bool :=
  let n := c.toNat
  (9 ≤ n && n ≤ 13) || n = 32 || n = 0x85 || n = 0xA0 || n = 0x1680 ||
    (0x2000 ≤ n && n ≤ 0x200A) || n = 0x2028 || n = 0x2029 || n = 0x202F || n = 0x205F ||
    n = 0x3000

/-- Splits a text into its words, given the letters of the word being read in reverse. -/
def wordsFrom : List Char → List Char → List (List Char)
  | word, [] => if word.isEmpty then [] else [word.reverse]
  | word, c :: rest =>
    if isBlank c then
      if word.isEmpty then wordsFrom [] rest else word.reverse :: wordsFrom [] rest
    else wordsFrom (c :: word) rest

/-- The words of a text, in order. -/
def words (text : List Char) : List (List Char) := wordsFrom [] text

/-- The text on one line: its words with one space between neighbours. -/
def oneLine (text : String) : String :=
  String.ofList ([' '].intercalate (words text.toList))

end TypeAtlas.Text
