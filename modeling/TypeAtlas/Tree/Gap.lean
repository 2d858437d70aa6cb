import TypeAtlas.Text.Cursor
import TypeAtlas.Tree.Lexeme
import TypeAtlas.Tree.Token

/-!
Tokens that only what stands around a place decides on.

A statement may end without a semicolon, a question mark may begin the second part of a conditional
expression or be something else, and so on. Which of these tokens are looked for depends on what may
come next. Here a zero character counts as the end of the source.
-/

set_option autoImplicit false

namespace TypeAtlas

open Text (Cursor)

/-- What may come next, as far as the tokens without words of their own are concerned. -/
structure Outlook where
  templateText : Bool
  silentEnd : Bool
  silentSignatureEnd : Bool
  questionMark : Bool
  /-- An operator could go on with an expression. -/
  operator : Bool
  /-- Comments in the manner of markup are looked for. -/
  markup : Bool
deriving DecidableEq, Repr, Inhabited

/-- A token that has been found: where it starts, after blanks, and where it stops. -/
structure Sighting where
  token : Token
  start : Cursor
  stop : Cursor

namespace Gap

open Lexeme (isPlainSpace isZero)

/-- What comes next, the end included. -/
def next (cursor : Cursor) : Option Char := cursor.rest.head?.filter (!isZero ·)

/-! ### Templates and comments -/

/-- The text of a template. -/
def templateText (cursor : Cursor) : Option Sighting :=
  match Lexeme.templateText cursor.rest with
  | some 0 | none => none
  | some length => some ⟨.templateText, cursor, cursor.advance length⟩

/-- A comment in the manner of markup. -/
def markupComment (cursor : Cursor) : Option Sighting :=
  let isBreak (c : Char) : Bool := c.toNat = 0x2028 || c.toNat = 0x2029
  let start := cursor.skipWhile fun c => isPlainSpace c || isBreak c
  if "<!--".toList.isPrefixOf start.rest || "-->".toList.isPrefixOf start.rest then
    some ⟨.markupComment, start, start.skipWhile fun c => !(c = '\n' || isZero c || isBreak c)⟩
  else none

/-! ### Question marks -/

/-- The question mark of a conditional expression. No operator of two marks and no mark of what is
optional is one. -/
def questionMark (cursor : Cursor) : Option Sighting :=
  let start := cursor.skipWhile isPlainSpace
  let stop := start.advance 1
  let after := stop.skipWhile isPlainSpace
  if next start ≠ some '?' || next stop = some '?' then none
  else
    match next after with
    | some ':' | some ')' | some ',' => none
    | some '.' =>
      if (next (after.advance 1)).any Char.isDigit then some ⟨.questionMark, start, stop⟩ else none
    | _ => some ⟨.questionMark, start, stop⟩

/-! ### Ends of statements -/

/-- Which text is being passed over. -/
inductive Passing where
  | blanks | line | block
  /-- The second character of the mark at either end of a block comment. -/
  | mark (opens : Bool)

/-- What follows some blanks and comments. -/
structure Passed where
  cursor : Cursor
  /-- Whether one of the comments was one to the end of its line. -/
  metLine : Bool
  /-- Whether a slash was passed that starts no comment. -/
  metSlash : Bool

/-- Passes blanks and comments. -/
def passBlanks : (passing : Passing) → (metLine : Bool) → Cursor → Passed
  | _, metLine, ⟨place, []⟩ => ⟨⟨place, []⟩, metLine, false⟩
  | passing, metLine, ⟨place, c :: rest⟩ =>
    if isZero c then ⟨⟨place, c :: rest⟩, metLine, false⟩
    else
      let onward (passing : Passing) (metLine : Bool) : Passed :=
        passBlanks passing metLine ⟨place.step c, rest⟩
      match passing with
      | .blanks =>
        if isPlainSpace c then onward .blanks metLine
        else if c = '/' then
          match rest with
          | '/' :: _ => onward .line true
          | '*' :: _ => onward (.mark true) metLine
          | _ => ⟨⟨place.step c, rest⟩, metLine, true⟩
        else ⟨⟨place, c :: rest⟩, metLine, false⟩
      | .line => onward (if c = '\n' then .blanks else .line) metLine
      | .block => onward (if c = '*' && rest.head? = some '/' then .mark false else .block) metLine
      | .mark opens => onward (if opens then .block else .blanks) metLine
termination_by _ _ cursor => cursor.rest.length

/-- Whether a statement ends at a line break, given what follows the break. The answer is `none` if
it does, and else the place where it turns out to go on. -/
def continuation (outlook : Outlook) (cursor : Cursor) : Option Cursor :=
  let isLetter (cursor : Cursor) : Bool := (next cursor).any Char.isAlpha
  match next cursor with
  | none => none
  | some '+' => if next (cursor.advance 1) = some '+' then none else some (cursor.advance 1)
  | some '-' => if next (cursor.advance 1) = some '-' then none else some (cursor.advance 1)
  | some '!' => if next (cursor.advance 1) = some '=' then some (cursor.advance 1) else none
  | some '\x7b' => if outlook.silentSignatureEnd then some cursor else none
  | some '(' | some '[' => if outlook.operator then some cursor else none
  | some 'i' =>
    if next (cursor.advance 1) ≠ some 'n' then none
    else if !isLetter (cursor.advance 2) then some (cursor.advance 2)
    else if "instanceof".toList.isPrefixOf cursor.rest && !isLetter (cursor.advance 10) then
      some (cursor.advance 10)
    else none
  | some c => if "\x60,.;*%><=?^|&/:".toList.contains c then some cursor else none

/-- Whether a statement ends here without a semicolon: at the end of the source, before a closing
brace, or at a line break. The answer is `none` if it does, and else the place where it turns out to
go on. A brace before a colon does not count, unless an operator could follow. -/
def goesOn (outlook : Outlook) : Cursor → Option Passed
  | ⟨_, []⟩ => none
  | ⟨place, c :: rest⟩ =>
    let after : Cursor := ⟨place.step c, rest⟩
    if isZero c then none
    else if c = '\x7d' then
      let following := after.skipWhile isPlainSpace
      if next following = some ':' && !outlook.operator then some ⟨following, false, false⟩
      else none
    else if !isPlainSpace c then some ⟨⟨place, c :: rest⟩, false, false⟩
    else if c = '\n' then
      let passed := passBlanks .blanks false after
      if passed.metSlash then some passed
      else (continuation outlook passed.cursor).map fun cursor => { passed with cursor }
    else goesOn outlook after
termination_by cursor => cursor.rest.length

/-- The end of a statement, or a question mark that was met in looking for it. -/
def silentEnd (outlook : Outlook) (cursor : Cursor) : Option Sighting :=
  match goesOn outlook cursor with
  | none => some ⟨.silentEnd, cursor, cursor⟩
  | some passed =>
    if !passed.metLine && outlook.questionMark && next passed.cursor = some '?' then
      questionMark passed.cursor
    else none

/-- The token at a place that what stands around it decides on. Where texts of templates and ends of
statements are both looked for nothing is known, and so there is none. -/
def sighting (outlook : Outlook) (cursor : Cursor) : Option Sighting :=
  if outlook.templateText then
    if outlook.silentEnd then none else templateText cursor
  else if outlook.silentEnd || outlook.silentSignatureEnd then silentEnd outlook cursor
  else if outlook.questionMark then questionMark cursor
  else if outlook.markup then markupComment cursor
  else none

end Gap

end TypeAtlas
