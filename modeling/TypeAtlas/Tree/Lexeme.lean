/-!
The words of the language: how far a name, a number, a piece of a literal or a comment reaches.

Each reader takes the text from some place on and answers how many characters the word there has,
zero or `none` if there is no such word.
-/

set_option autoImplicit false

namespace TypeAtlas.Lexeme

/-! ### Characters -/

/-- The white space of ASCII. -/
def isPlainSpace (c : Char) : Bool := c.toNat = 32 || (9 ≤ c.toNat && c.toNat ≤ 13)

/-- The character with the number zero. No literal and no comment holds it. -/
def isZero (c : Char) : Bool := c.toNat = 0

/-- The characters that may stand between any two words. -/
def isSpace (c : Char) : Bool :=
  let n := c.toNat
  isPlainSpace c || n = 0xA0 || n = 0x1680 || (0x2000 ≤ n && n ≤ 0x200B) || n = 0x2028 ||
    n = 0x2029 || n = 0x202F || n = 0x205F || n = 0x2060 || n = 0x3000 || n = 0xFEFF

/-- The characters that belong to no name: controls, white space and the punctuation of ASCII
other than the dollar sign and the underscore. -/
def isSeparator (c : Char) : Bool :=
  c.toNat < 32 || isSpace c ||
    ":;\x60\"\x27@#.,|^&<=>+-*/\\%?!~()[]\x7b\x7d".toList.contains c

/-- The characters a name may start with. -/
def isNameStart (c : Char) : Bool := !isSeparator c && !c.isDigit

def isHexDigit (c : Char) : Bool :=
  c.isDigit || ('a' ≤ c && c ≤ 'f') || ('A' ≤ c && c ≤ 'F')

/-- Whether what follows a backslash and a `u` names a character by its number: four digits, or
digits in braces. -/
def isCodePoint : List Char → Bool
  | '\x7b' :: rest =>
    match rest.dropWhile isHexDigit with
    | '\x7d' :: _ => rest.head?.any isHexDigit
    | _ => false
  | rest => (rest.take 4).length = 4 && (rest.take 4).all isHexDigit

/-! ### Names -/

/-- How many characters the rest of a name has. Inside the braces of an escape every character
up to the closing one belongs to it. -/
def nameTail : (braced : Bool) → List Char → Nat
  | _, [] => 0
  | true, c :: rest => 1 + nameTail (c != '\x7d') rest
  | false, c :: rest =>
    if c = '\\' then
      match rest with
      | 'u' :: tail => if isCodePoint tail then 2 + nameEscape tail else 0
      | _ => 0
    else if isSeparator c then 0
    else 1 + nameTail false rest
where
  /-- The rest of a name after a backslash and a `u`. -/
  nameEscape : List Char → Nat
    | '\x7b' :: tail => 1 + nameTail true tail
    | tail => nameTail false tail

/-- How many characters the name at the start of a text has. -/
def name : List Char → Nat
  | [] => 0
  | c :: rest => if isNameStart c || c = '\\' then nameTail false (c :: rest) else 0

/-- How many characters a name with a leading number sign has. -/
def privateName : List Char → Nat
  | '#' :: rest => if name rest = 0 then 0 else 1 + name rest
  | _ => 0

/-! ### Numbers -/

/-- How many characters further digits have, with single underscores between them. -/
def moreDigits (isDigit : Char → Bool) : List Char → Nat
  | [] => 0
  | c :: rest =>
    if isDigit c then 1 + moreDigits isDigit rest
    else if c = '_' then
      match rest with
      | d :: tail => if isDigit d then 2 + moreDigits isDigit tail else 0
      | [] => 0
    else 0

/-- How many characters a run of digits has. -/
def digits (isDigit : Char → Bool) : List Char → Nat
  | c :: rest => if isDigit c then 1 + moreDigits isDigit rest else 0
  | [] => 0

/-- How many characters an exponent has. -/
def exponent : List Char → Nat
  | e :: rest =>
    if e = 'e' || e = 'E' then
      match rest with
      | sign :: tail =>
        if sign = '+' || sign = '-' then
          if digits Char.isDigit tail = 0 then 0 else 2 + digits Char.isDigit tail
        else if digits Char.isDigit rest = 0 then 0
        else 1 + digits Char.isDigit rest
      | [] => 0
    else 0
  | [] => 0

/-- How many characters a whole number has, which may have one leading zero. -/
def whole : List Char → Nat
  | '0' :: rest =>
    match rest with
    | c :: _ => if c.isDigit && c ≠ '0' then 1 + digits Char.isDigit rest else 1
    | [] => 1
  | rest => digits Char.isDigit rest

/-- How many characters a number with a base has, given the letters that announce the base. -/
def based (lower upper : Char) (isDigit : Char → Bool) : List Char → Nat
  | '0' :: mark :: rest =>
    if (mark = lower || mark = upper) && digits isDigit rest ≠ 0 then 2 + digits isDigit rest else 0
  | _ => 0

/-- How many characters a decimal number has. -/
def decimal (text : List Char) : Nat :=
  let first := whole text
  let rest := text.drop first
  let point := match rest with
    | '.' :: tail =>
      let fraction := digits Char.isDigit tail
      if first = 0 && fraction = 0 then 0
      else first + 1 + fraction + exponent (tail.drop fraction)
    | _ => 0
  let scaled := if first ≠ 0 && exponent rest ≠ 0 then first + exponent rest else 0
  max point (max scaled (digits Char.isDigit text))

/-- How many characters the number at the start of a text has: the longest of its readings. A
number without a point may end with an `n`. -/
def number (text : List Char) : Nat :=
  let hex := based 'x' 'X' isHexDigit text
  let binary := based 'b' 'B' (fun c => c = '0' || c = '1') text
  let octal := based 'o' 'O' (fun c => '0' ≤ c && c ≤ '7') text
  let integer := max (max hex binary) (max octal (digits Char.isDigit text))
  let big := if integer ≠ 0 && (text.drop integer).head? = some 'n' then integer + 1 else 0
  max big (max integer (decimal text))

/-! ### Literals -/

/-- How many characters an escape has: a backslash with the character or the number after it. -/
def escape : List Char → Nat
  | '\\' :: 'x' :: rest =>
    if (rest.take 2).length = 2 && (rest.take 2).all isHexDigit then 4 else 0
  | '\\' :: 'u' :: '\x7b' :: rest =>
    let hex := (rest.takeWhile isHexDigit).length
    if isCodePoint ('\x7b' :: rest) then 4 + hex else 0
  | '\\' :: 'u' :: rest => if isCodePoint rest then 6 else 0
  | '\\' :: c :: rest =>
    let isOctal (c : Char) : Bool := '0' ≤ c && c ≤ '7'
    if isZero c then 0
    else if isOctal c then 2 + ((rest.take 2).takeWhile isOctal).length
    else if c = '\r' || c = '?' then
      match rest with
      | d :: _ => if d = '\n' || d.toNat = 0x2028 || d.toNat = 0x2029 then 3 else 2
      | [] => 2
    else 2
  | _ => 0

/-- How many characters of a string come before its end, an escape or the end of the line. -/
def fragment (quote : Char) (text : List Char) : Nat :=
  let stops (c : Char) : Bool := c = quote || c = '\\' || c = '\r' || c = '\n' || isZero c
  (text.takeWhile (!stops ·)).length

/-- How many characters of a template come before its end, an escape or a substitution, or `none`
if the text ends first. -/
def templateText : List Char → Option Nat
  | [] => none
  | c :: rest =>
    if c = '\x60' || c = '\\' || (c = '$' && rest.head? = some '\x7b') then some 0
    else if isZero c then none
    else (templateText rest).map (1 + ·)

/-- How many characters a list of alternatives in a regular expression has, up to and with its
closing bracket, or `none` if it is not closed. -/
def patternClass : (escaped : Bool) → List Char → Option Nat
  | _, [] => none
  | escaped, c :: rest =>
    if c = '\n' || isZero c then none
    else if escaped then (patternClass false rest).map (1 + ·)
    else if c = ']' then some 1
    else (patternClass (c = '\\') rest).map (1 + ·)

/-- How many characters of a regular expression come before its closing slash, or before what it
cannot hold, given how many characters are known to belong to it. -/
def pattern : (known : Nat) → List Char → Nat
  | _, [] => 0
  | known + 1, _ :: rest => 1 + pattern known rest
  | 0, c :: rest =>
    if c = '/' || c = '\n' || isZero c then 0
    else if c = '\\' then
      match rest with
      | d :: _ => if d = '\n' || isZero d then 0 else 1 + pattern 1 rest
      | [] => 0
    else if c = '[' then
      match patternClass false rest with
      | some length => 1 + pattern length rest
      | none => 0
    else 1 + pattern 0 rest

/-- How many characters the flags of a regular expression have. -/
def flags (text : List Char) : Nat := (text.takeWhile Char.isLower).length

/-! ### Comments -/

/-- Whether a comment up to the end of its line stops before a character. -/
def endsLine (c : Char) : Bool :=
  c = '\n' || c = '\r' || c.toNat = 0x2028 || c.toNat = 0x2029 || isZero c

/-- How many characters of a block comment remain up to and with its end. -/
def blockTail : List Char → Option Nat
  | [] => none
  | c :: rest =>
    if isZero c then none
    else if c = '*' && rest.head? = some '/' then some 2
    else (blockTail rest).map (1 + ·)

/-- How many characters the comment at the start of a text has. -/
def comment : List Char → Nat
  | '/' :: '/' :: rest => 2 + (rest.takeWhile (!endsLine ·)).length
  | '/' :: '*' :: rest => ((blockTail rest).map (2 + ·)).getD 0
  | _ => 0

/-- How many characters a line that names an interpreter has. -/
def hashBang : List Char → Nat
  | '#' :: '!' :: rest => 2 + (rest.takeWhile fun c => !(c = '\n' || isZero c)).length
  | _ => 0

/-! ### Words that are cut short -/

/-- How many characters of an escape that names a character by its number can be read before it
turns out to be none. -/
def brokenCodePoint : List Char → Nat
  | '\\' :: 'u' :: '\x7b' :: rest => 3 + (rest.takeWhile isHexDigit).length
  | '\\' :: 'u' :: rest => 2 + ((rest.take 3).takeWhile isHexDigit).length
  | '\\' :: _ => 1
  | _ => 0

/-- How many characters can be read, as if of a word, at a place where there is no word. After
blanks an escape must be one that a name can begin with. -/
def broken (blanks : Bool) : List Char → Nat
  | '#' :: rest => 1 + brokenCodePoint rest
  | '\\' :: 'x' :: rest => if blanks then 1 else 2 + ((rest.take 1).takeWhile isHexDigit).length
  | text => brokenCodePoint text

end TypeAtlas.Lexeme
