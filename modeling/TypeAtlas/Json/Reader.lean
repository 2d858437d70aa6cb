import TypeAtlas.Json.Error
import TypeAtlas.Json.Value
import TypeAtlas.Text.Cursor

/-!
Reading JSON from left to right.

A reader moves a cursor over the text and stops at the first thing that is wrong, be it a character
or a value of a kind that is not wanted. It says where that is. A failure that concerns a whole
value has no place of its own and gets the place where the innermost list or object around it ends.
-/

set_option autoImplicit false

namespace TypeAtlas.Json

open Text (Cursor)

/-- Why reading stopped, and the line and column if they are known. -/
structure Failure where
  cause : Cause
  place : Option (Nat × Nat)

/-- A way to read something from the text at a cursor. Where the cursor stands is known after a
failure too. -/
abbrev Reader (α : Type) := ExceptT Failure (StateM Cursor) α

/-- A value of any kind, as it is kept for later. -/
inductive Content where
  | null
  | bool (value : Bool)
  | number (value : Numeral)
  | string (value : String)
  | array (items : List Content)
  | object (members : List (String × Content))

/-- What a value is, for messages. -/
def Content.found : Content → Found
  | .null => .null
  | .bool value => .bool value
  | .number value => .number value
  | .string value => .string value
  | .array _ => .array
  | .object _ => .object

namespace Reader

/-! ### Failures -/

/-- Fails at the cursor. -/
def failHere {α : Type} (cause : Cause) : Reader α := do
  let here ← get
  throw ⟨cause, some (here.place.line, here.place.column)⟩

/-- Fails at the character after the cursor. -/
def failNext {α : Type} (cause : Cause) : Reader α := do
  let here ← get
  throw ⟨cause, some (match here.rest with
    | [] => (here.place.line, here.place.column)
    | '\n' :: _ => (here.place.line + 1, 0)
    | _ :: _ => (here.place.line, here.place.column + 1))⟩

/-- Fails at a place that is not yet known. -/
def failSomewhere {α : Type} (cause : Cause) : Reader α := throw ⟨cause, none⟩

/-- A failure without a place gets the one where the reader stops. -/
def placed {α : Type} (reader : Reader α) : Reader α :=
  tryCatch reader fun failure => do
    let here ← get
    throw { failure with
      place := failure.place <|> some (here.place.line, here.place.column) }

/-- Reads on after a reader whether it failed or not. Its failure counts before a later one. -/
def finallyRead {α : Type} (reader : Reader α) (last : Reader Unit) : Reader α := fun here =>
  match reader here with
  | (.ok value, next) =>
    match last next with
    | (.ok (), stop) => (.ok value, stop)
    | (.error failure, stop) => (.error failure, stop)
  | (.error failure, next) => (.error failure, (last next).2)

/-! ### Characters -/

/-- The next character, which stays. -/
def peek : Reader (Option Char) := do return (← get).rest.head?

/-- Passes over some characters. -/
def skip (n : Nat) : Reader Unit := modify (Cursor.advance n)

/-- The white space of JSON. -/
def isSpace (c : Char) : Bool := c = ' ' || c = '\n' || c = '\t' || c = '\r'

/-- The next character that is no white space, which stays. -/
def peekToken : Reader (Option Char) := do
  modify (Cursor.skipWhile isSpace)
  peek

/-- Reads the rest of a word. -/
def word : List Char → Reader Unit
  | [] => pure ()
  | c :: rest => do
    match ← peek with
    | none => failNext (.unfinished "a value")
    | some d =>
      if d = c then
        skip 1
        word rest
      else failNext (.expected "ident")

/-! ### Strings -/

/-- The value of a digit to the base of sixteen. -/
def hexValue? (c : Char) : Option Nat :=
  if c.isDigit then some (c.toNat - '0'.toNat)
  else if 'a' ≤ c && c ≤ 'f' then some (c.toNat - 'a'.toNat + 10)
  else if 'A' ≤ c && c ≤ 'F' then some (c.toNat - 'A'.toNat + 10)
  else none

/-- The characters that some bytes at the start of a text belong to, and how many more bytes these
characters have. A text that is too short has none. -/
def takeBytes : Nat → List Char → Option (List Char × Nat)
  | 0, _ => some ([], 0)
  | _, [] => none
  | bytes, c :: rest =>
    if c.utf8Size ≤ bytes then
      (takeBytes (bytes - c.utf8Size) rest).map fun (taken, excess) => (c :: taken, excess)
    else some ([c], c.utf8Size - bytes)
termination_by _ text => text.length

/-- The value of four digits to the base of sixteen. Bytes are counted, whatever they belong to. -/
def hexEscape : Reader Nat := do
  let here ← get
  match takeBytes 4 here.rest with
  | none =>
    skip 4
    failHere (.unfinished "a string")
  | some (digits, excess) =>
    skip digits.length
    match digits.mapM hexValue? with
    | some values => return values.foldl (fun n value => n * 16 + value) 0
    | none =>
      let stop ← get
      throw ⟨.invalidEscape, some (stop.place.line, stop.place.column - excess)⟩

/-- Reads a character that must follow the first half of a pair. -/
def pairMark (mark : Char) : Reader Unit := do
  match ← peek with
  | none => failNext (.unfinished "a string")
  | some c => if c = mark then skip 1 else failNext .unfinishedEscape

/-- The character that an escape with a number stands for. One beyond the first 65536 is written as
a pair of numbers. -/
def numberedEscape : Reader Char := do
  let first ← hexEscape
  if 0xDC00 ≤ first && first ≤ 0xDFFF then failHere .loneSurrogate
  else if first < 0xD800 || 0xDBFF < first then return Char.ofNat first
  else
    pairMark '\\'
    pairMark 'u'
    let second ← hexEscape
    if second < 0xDC00 || 0xDFFF < second then failHere .loneSurrogate
    else return Char.ofNat ((first - 0xD800) * 1024 + (second - 0xDC00) + 0x10000)

/-- What a letter after a backslash stands for. -/
def escapedLetter? (c : Char) : Option Char :=
  if c = '"' || c = '\\' || c = '/' then some c
  else if c = 'b' then some '\x08'
  else if c = 'f' then some '\x0c'
  else if c = 'n' then some '\n'
  else if c = 'r' then some '\r'
  else if c = 't' then some '\t'
  else none

/-- The character that an escape stands for, after its backslash. -/
def escaped : Reader Char := do
  match ← peek with
  | none => failNext (.unfinished "a string")
  | some c =>
    if c = 'u' then
      skip 1
      numberedEscape
    else
      match escapedLetter? c with
      | some d =>
        skip 1
        return d
      | none => failNext .invalidEscape

/-- The rest of a string up to its closing quote, given what was read of it in reverse. -/
def stringTail : Nat → List Char → Reader String
  | 0, _ => failNext (.unfinished "a string")
  | fuel + 1, read => do
    match ← peek with
    | none => failNext (.unfinished "a string")
    | some c =>
      if c = '"' then
        skip 1
        return String.ofList read.reverse
      else if c = '\\' then
        skip 1
        let d ← escaped
        stringTail fuel (d :: read)
      else if c.toNat < 32 then failNext .controlCharacter
      else
        skip 1
        stringTail fuel (c :: read)

/-- A string, after its opening quote. -/
def stringRest : Reader String := do
  let here ← get
  stringTail (here.rest.length + 1) []

/-! ### Numbers -/

/-- The digits at the cursor, which are passed over. -/
def digits : Reader (List Char) := do
  let here ← get
  let found := here.rest.takeWhile Char.isDigit
  skip found.length
  return found

/-- Appends digits to a number as long as it fits into 64 bits, and counts the ones left over. -/
def appendDigits (n : Nat) : List Char → Nat × Nat
  | [] => (n, 0)
  | d :: rest =>
    let more := n * 10 + (d.toNat - '0'.toNat)
    if more < Nat.pow 2 64 then appendDigits more rest else (n, rest.length + 1)

/-- A power of ten. -/
def powerOfTen (n : Nat) : Float := Float.ofScientific 1 false n

/-- A number divided by a power of ten, in steps of at most 308 places. -/
def dividedBy (value : Float) : Nat → Nat → Float
  | 0, _ => value
  | fuel + 1, places =>
    if places ≤ 308 then value / powerOfTen places
    else if value == 0.0 then value
    else dividedBy (value / powerOfTen 308) fuel (places - 308)

/-- The number with the given digits and exponent, unless it is too large. -/
def floating (positive : Bool) (significand : Nat) (exponent : Int) : Reader Numeral :=
  let value := significand.toUInt64.toFloat
  let sign (value : Float) : Numeral := .floating (if positive then value else -value)
  if exponent < 0 then return sign (dividedBy value (exponent.natAbs + 1) exponent.natAbs)
  else if exponent ≤ 308 then
    let scaled := value * powerOfTen exponent.natAbs
    if scaled.isInf then failHere .numberOutOfRange else return sign scaled
  else if value == 0.0 then return sign value
  else failHere .numberOutOfRange

/-- How many of some digits make a number too large for an exponent when they are appended, if they
do. -/
def digitsUntilLarge (n : Nat) : List Char → Option Nat
  | [] => none
  | d :: rest =>
    let more := n * 10 + (d.toNat - '0'.toNat)
    if more < Nat.pow 2 31 then (digitsUntilLarge more rest).map (· + 1) else some 1

/-- The number after its exponent, which starts at the cursor. -/
def withExponent (positive : Bool) (significand : Nat) (exponent : Int) : Reader Numeral := do
  skip 1
  let up ← do
    match ← peek with
    | some '+' => skip 1; pure true
    | some '-' => skip 1; pure false
    | _ => pure true
  match ← peek with
  | none => failNext (.unfinished "a value")
  | some c =>
    if !c.isDigit then failNext .invalidNumber
    else
      skip 1
      let before ← get
      let more ← digits
      match digitsUntilLarge (c.toNat - '0'.toNat) more with
      | none =>
        let value := (c :: more).foldl (fun n d => n * 10 + (d.toNat - '0'.toNat)) 0
        floating positive significand (if up then exponent + value else exponent - value)
      | some count =>
        if significand ≠ 0 && up then
          set before
          skip count
          failHere .numberOutOfRange
        else floating positive 0 0

/-- The number after its exponent, if it has one. -/
def maybeExponent (positive : Bool) (significand : Nat) (exponent : Int) : Reader Numeral := do
  match ← peek with
  | some 'e' | some 'E' => withExponent positive significand exponent
  | _ => floating positive significand exponent

/-- The number after its point, which is at the cursor. -/
def withFraction (positive : Bool) (significand : Nat) (exponent : Int) : Reader Numeral := do
  skip 1
  let found ← digits
  if found.isEmpty then
    match ← peek with
    | some _ => failNext .invalidNumber
    | none => failNext (.unfinished "a value")
  else
    let (value, dropped) := appendDigits significand found
    maybeExponent positive value (exponent - ((found.length - dropped : Nat) : Int))

/-- Fails if a zero is the first of several digits. -/
def leadingZero (c : Char) : Reader Unit := do
  if c = '0' && (← peek).any Char.isDigit then failNext .invalidNumber

/-- A number, after its sign. -/
def numberRest (positive : Bool) : Reader Numeral := do
  match ← peek with
  | none => failNext (.unfinished "a value")
  | some c =>
    if !c.isDigit then failNext .invalidNumber
    else
      skip 1
      leadingZero c
      let more ← digits
      let (value, dropped) := appendDigits 0 (c :: more)
      match ← peek with
      | some '.' => withFraction positive value dropped
      | some 'e' | some 'E' => withExponent positive value dropped
      | _ =>
        if dropped > 0 then floating positive value dropped
        else if positive then return .natural value
        else if value = 0 || Nat.pow 2 63 < value then return .floating (-(value.toUInt64.toFloat))
        else return .negative value

/-- A number at the cursor. -/
def numeral : Reader Numeral := do
  match ← peek with
  | some '-' => skip 1; numberRest false
  | _ => numberRest true

/-! ### Lists and objects -/

/-- Whether a list goes on; the cursor is then at its next item. -/
def hasItem (first : Bool) : Reader Bool := do
  match ← peekToken with
  | none => failNext (.unfinished "a list")
  | some c =>
    if c = ']' then return false
    else if first then return true
    else if c = ',' then
      skip 1
      match ← peekToken with
      | some ']' => failNext .trailingComma
      | some _ => return true
      | none => failNext (.unfinished "a value")
    else failNext (.expected "`,` or `]`")

/-- Whether an object goes on; the cursor is then at its next key. -/
def hasKey (first : Bool) : Reader Bool := do
  match ← peekToken with
  | none => failNext (.unfinished "an object")
  | some c =>
    if c = '\x7d' then return false
    else if first then
      if c = '"' then return true else failNext .keyNotString
    else if c = ',' then
      skip 1
      match ← peekToken with
      | some '"' => return true
      | some '\x7d' => failNext .trailingComma
      | some _ => failNext .keyNotString
      | none => failNext (.unfinished "a value")
    else failNext (.expected "`,` or `\x7d`")

/-- Reads the end of a list. -/
def endList : Reader Unit := do
  match ← peekToken with
  | some ']' => skip 1
  | some ',' =>
    skip 1
    match ← peekToken with
    | some ']' => failNext .trailingComma
    | _ => failNext .trailingCharacters
  | some _ => failNext .trailingCharacters
  | none => failNext (.unfinished "a list")

/-- Reads the end of an object. -/
def endObject : Reader Unit := do
  match ← peekToken with
  | some '\x7d' => skip 1
  | some ',' => failNext .trailingComma
  | some _ => failNext .trailingCharacters
  | none => failNext (.unfinished "an object")

/-- Reads the colon after a key. -/
def colon : Reader Unit := do
  match ← peekToken with
  | some ':' => skip 1
  | some _ => failNext (.expected "`:`")
  | none => failNext (.unfinished "an object")

/-- A key, after the reader found that there is one. -/
def key : Reader String := do
  skip 1
  stringRest

/-- The items of a list up to its end. -/
def itemsFrom {α : Type} (item : Reader α) : Nat → Bool → Reader (List α)
  | 0, _ => return []
  | fuel + 1, first => do
    if ← hasItem first then
      let value ← item
      return value :: (← itemsFrom item fuel false)
    else return []

/-- The items of a list up to its end. -/
def items {α : Type} (item : Reader α) : Reader (List α) := do
  let here ← get
  itemsFrom item (here.rest.length + 1) true

/-- The members of an object up to its end. Each is given to `member` with what came before. -/
def membersFrom {σ : Type} (member : String → σ → Reader σ) : Nat → Bool → σ → Reader σ
  | 0, _, state => return state
  | fuel + 1, first, state => do
    if ← hasKey first then
      let name ← key
      let state ← member name state
      membersFrom member fuel false state
    else return state

/-- The members of an object up to its end. -/
def members {σ : Type} (member : String → σ → Reader σ) (start : σ) : Reader σ := do
  let here ← get
  membersFrom member (here.rest.length + 1) true start

/-! ### Values of any kind -/

/-- How deeply lists and objects may be nested, and one more. -/
def depthLimit : Nat := 128

/-- Runs a reader one level deeper. -/
def deeper {α : Type} (depth : Nat) (reader : Nat → Reader α) : Reader α :=
  if depth ≤ 1 then failNext .tooDeep else reader (depth - 1)

/-- A value of any kind. -/
def content : Nat → Reader Content
  | 0 => failNext .tooDeep
  | depth + 1 => placed do
    match ← peekToken with
    | none => failNext (.unfinished "a value")
    | some c =>
      if c = 'n' then
        skip 1
        word "ull".toList
        return .null
      else if c = 't' then
        skip 1
        word "rue".toList
        return .bool true
      else if c = 'f' then
        skip 1
        word "alse".toList
        return .bool false
      else if c = '"' then
        skip 1
        return .string (← stringRest)
      else if c = '-' || c.isDigit then return .number (← numeral)
      else if c = '[' then
        if depth = 0 then failNext .tooDeep
        else
          skip 1
          return .array (← finallyRead (items (content depth)) endList)
      else if c = '\x7b' then
        if depth = 0 then failNext .tooDeep
        else
          skip 1
          let member (name : String) (read : List (String × Content)) :
              Reader (List (String × Content)) := do
            colon
            let value ← content depth
            return (name, value) :: read
          return .object (← finallyRead (members member []) endObject).reverse
      else failNext (.expected "value")

/-- Fails because the value at the cursor is not of the wanted kind. -/
def wrongType {α : Type} (wanted : String) : Reader α := do
  match ← peek with
  | some 'n' =>
    skip 1
    word "ull".toList
    failSomewhere (.invalidType .null wanted)
  | some 't' =>
    skip 1
    word "rue".toList
    failSomewhere (.invalidType (.bool true) wanted)
  | some 'f' =>
    skip 1
    word "alse".toList
    failSomewhere (.invalidType (.bool false) wanted)
  | some '"' =>
    skip 1
    let value ← stringRest
    failSomewhere (.invalidType (.string value) wanted)
  | some '[' => failSomewhere (.invalidType .array wanted)
  | some '\x7b' => failSomewhere (.invalidType .object wanted)
  | some c =>
    if c = '-' || c.isDigit then
      let value ← numeral
      failSomewhere (.invalidType (.number value) wanted)
    else failNext (.expected "value")
  | none => failNext (.expected "value")

/-- Passes over an escape, after its backslash. A number need not stand for a character. -/
def ignoreEscape : Reader Unit := do
  match ← peek with
  | none => failNext (.unfinished "a string")
  | some c =>
    if c = 'u' then
      skip 1
      discard hexEscape
    else if (escapedLetter? c).isSome then skip 1
    else failNext .invalidEscape

/-- Passes over the rest of a string up to its closing quote. -/
def ignoreTail : Nat → Reader Unit
  | 0 => failNext (.unfinished "a string")
  | fuel + 1 => do
    match ← peek with
    | none => failNext (.unfinished "a string")
    | some c =>
      if c = '"' then skip 1
      else if c = '\\' then
        skip 1
        ignoreEscape
        ignoreTail fuel
      else if c.toNat < 32 then failHere .controlCharacter
      else
        skip 1
        ignoreTail fuel

/-- Passes over a string, after its opening quote. -/
def ignoreString : Reader Unit := do
  let here ← get
  ignoreTail (here.rest.length + 1)

/-- Passes over the point of a number and the digits after it, if it has one. -/
def ignoreFraction : Reader Unit := do
  if (← peek) = some '.' then
    skip 1
    if (← digits).isEmpty then failNext .invalidNumber

/-- Passes over the exponent of a number, if it has one. -/
def ignoreExponent : Reader Unit := do
  if (← peek) = some 'e' || (← peek) = some 'E' then
    skip 1
    if (← peek) = some '+' || (← peek) = some '-' then skip 1
    if (← digits).isEmpty then failNext .invalidNumber

/-- Passes over a number, after its sign. -/
def ignoreNumberRest : Reader Unit := do
  match ← peek with
  | none => failNext .invalidNumber
  | some c =>
    if !c.isDigit then failNext .invalidNumber
    else
      skip 1
      leadingZero c
      discard digits
      ignoreFraction
      ignoreExponent

/-- Passes over a number, however large it is. -/
def ignoreNumber : Reader Unit := do
  if (← peek) = some '-' then skip 1
  ignoreNumberRest

/-- Passes over a value that is no list and no object, given its first character. -/
def ignoreSimple (c : Char) : Reader Unit := do
  if c = 'n' then
    skip 1
    word "ull".toList
  else if c = 't' then
    skip 1
    word "rue".toList
  else if c = 'f' then
    skip 1
    word "alse".toList
  else if c = '"' then
    skip 1
    ignoreString
  else if c = '-' || c.isDigit then ignoreNumber
  else failNext (.expected "value")

/-- Passes over a key and its colon. -/
def ignoreKey : Reader Unit := do
  match ← peekToken with
  | some '"' =>
    skip 1
    ignoreString
  | some _ => failNext .keyNotString
  | none => failNext (.unfinished "an object")
  colon

/-- Passes over a value of any kind. Inside it, nesting has no limit and a comma has to be followed
by a value. The stack holds the brackets that are open. -/
def ignoreFrom : Nat → List Char → Reader Unit
  | 0, _ => return ()
  | fuel + 1, stack => do
    match ← peekToken with
    | none => failNext (.unfinished "a value")
    | some c =>
      if c = '[' || c = '\x7b' then
        skip 1
        open_ fuel (c :: stack) false
      else
        ignoreSimple c
        if stack.isEmpty then return () else open_ fuel stack true
where
  /-- Goes on within the innermost open bracket, after an item or at the start. -/
  open_ : Nat → List Char → Bool → Reader Unit
    | _, [], _ => return ()
    | 0, _ :: _, _ => return ()
    | fuel + 1, bracket :: stack, afterItem => do
      let isList := bracket = '['
      match ← peekToken with
      | none => failNext (.unfinished (if isList then "a list" else "an object"))
      | some c =>
        if c = (if isList then ']' else '\x7d') then
          skip 1
          open_ fuel stack true
        else if afterItem && c ≠ ',' then
          failNext (.expected (if isList then "`,` or `]`" else "`,` or `\x7d`"))
        else
          if afterItem then skip 1
          if !isList then ignoreKey
          ignoreFrom fuel (bracket :: stack)

/-- Passes over a value of any kind. -/
def ignore : Reader Unit := do
  let here ← get
  ignoreFrom (2 * here.rest.length + 2) []

/-! ### Values of a kind -/

/-- Reads a value, given what to do with its first character. -/
def value {α : Type} (first : Char → Reader α) : Reader α := placed do
  match ← peekToken with
  | none => failNext (.unfinished "a value")
  | some c => first c

/-- A truth value. -/
def bool : Reader Bool := value fun c =>
  if c = 't' then do
    skip 1
    word "rue".toList
    return true
  else if c = 'f' then do
    skip 1
    word "alse".toList
    return false
  else wrongType "a boolean"

/-- A natural number of 64 bits, given the name of its type. -/
def natural (wanted : String) : Reader Nat := value fun c =>
  if c = '-' || c.isDigit then do
    match ← numeral with
    | .natural n => return n
    | .negative n => failSomewhere (.invalidValue (.number (.negative n)) wanted)
    | .floating f => failSomewhere (.invalidType (.number (.floating f)) wanted)
  else wrongType wanted

/-- A string. -/
def string : Reader String := value fun c =>
  if c = '"' then do
    skip 1
    stringRest
  else wrongType "a string"

/-- A value, or nothing where null is written. -/
def optional {α : Type} (reader : Reader α) : Reader (Option α) := do
  match ← peekToken with
  | some 'n' => placed do
    skip 1
    word "ull".toList
    return none
  | _ => return some (← reader)

/-- A list, given how to read its items one level deeper. -/
def list {α : Type} (depth : Nat) (item : Nat → Reader α) : Reader (List α) := value fun c =>
  if c = '[' then
    deeper depth fun depth => do
      skip 1
      finallyRead (items (item depth)) endList
  else wrongType "a sequence"

/-- An object, given how to read its members one level deeper. -/
def object {α : Type} (wanted : String) (depth : Nat) (members : Nat → Reader α) : Reader α :=
  value fun c =>
    if c = '\x7b' then
      deeper depth fun depth => do
        skip 1
        finallyRead (members depth) endObject
    else wrongType wanted

/-- An object, or a list of the values of its members in order. -/
def record {α : Type} (wanted : String) (depth : Nat) (members items : Nat → Reader α) :
    Reader α :=
  value fun c =>
    if c = '\x7b' then
      deeper depth fun depth => do
        skip 1
        finallyRead (members depth) endObject
    else if c = '[' then
      deeper depth fun depth => do
        skip 1
        finallyRead (items depth) endList
    else wrongType wanted

/-- The value of a member that must not come twice, after its key. -/
def once {α : Type} (name : String) (earlier : Option α) (reader : Reader α) : Reader α := do
  if earlier.isSome then failSomewhere (.duplicateField name)
  else
    colon
    reader

/-- The value of a member that must not be missing. -/
def required {α : Type} (name : String) : Option α → Reader α
  | some value => pure value
  | none => failSomewhere (.missingField name)

/-- The next item of a list, if it has one. -/
def nextItem {α : Type} (first : Bool) (item : Reader α) : Reader (Option α) := do
  if ← hasItem first then return some (← item) else return none

/-- A value with nothing but white space after it. -/
def alone {α : Type} (reader : Reader α) : Reader α := do
  let value ← reader
  match ← peekToken with
  | some _ => failNext .trailingCharacters
  | none => return value

/-- Reads a whole text. -/
def run {α : Type} (reader : Reader α) (text : String) : Except ReadError α :=
  match alone reader (Cursor.ofString text) with
  | (.ok value, _) => .ok value
  | (.error failure, stop) =>
    let (line, column) := failure.place.getD (stop.place.line, stop.place.column)
    .error ⟨failure.cause, line, column⟩

end Reader

end TypeAtlas.Json
