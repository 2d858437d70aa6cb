import Mathlib.Data.List.Forall2
import TypeAtlas.Json.Reader

/-!
# The texts of JSON

What a text has to look like to be a value (`IsValue`), or an object with given members
(`IsObject`), whoever wrote it: white space stands wherever it may, each character of a string is
written in any of the ways that it has (`WritesChar`), and members stand in the order they happen to
stand in. Nothing here says how such a text is read.
-/

set_option autoImplicit false

namespace TypeAtlas.Json

/-- All characters are white space. -/
def Reader.Blank (text : List Char) : Prop := ∀ c ∈ text, isSpace c = true

/-- Nothing at all counts as white space. -/
theorem Reader.blank_nil : Blank [] := List.forall_mem_nil _

open Reader (Blank)

/-! ### Strings -/

/-- A digit to the base of sixteen, as a small or a capital letter if it is one. -/
def IsHexDigit (n : Nat) (c : Char) : Prop := n < 16 ∧ (c = hexDigit n ∨ c = (hexDigit n).toUpper)

/-- Four digits to the base of sixteen and their number. -/
inductive FourDigits : Nat → List Char → Prop
  | mk {a b c d : Nat} {first second third fourth : Char} (h₁ : IsHexDigit a first)
      (h₂ : IsHexDigit b second) (h₃ : IsHexDigit c third) (h₄ : IsHexDigit d fourth) :
      FourDigits (((a * 16 + b) * 16 + c) * 16 + d) [first, second, third, fourth]

/-- The letters that may follow a backslash, each with what it stands for. -/
def escapes : List (Char × Char) :=
  [('"', '"'), ('\\', '\\'), ('/', '/'), ('b', '\x08'), ('f', '\x0c'), ('n', '\n'), ('r', '\r'),
    ('t', '\t')]

/-- The character may stand between quotes as it is. -/
structure IsPlain (c : Char) : Prop where
  noQuote : c ≠ '"'
  noBackslash : c ≠ '\\'
  noControl : ¬ c.toNat < 32

/-- The ways to write a character between quotes. -/
inductive WritesChar : Char → List Char → Prop
  | plain {c : Char} (h : IsPlain c) : WritesChar c [c]
  | letter {letter c : Char} (h : (letter, c) ∈ escapes) : WritesChar c ['\\', letter]
  | number {c : Char} {digits : List Char} (h : FourDigits c.toNat digits) :
      WritesChar c ('\\' :: 'u' :: digits)
  | pair {c : Char} {high low : Nat} {first second : List Char} (small : low < 1024)
      (value : c.toNat = 0x10000 + high * 1024 + low) (h₁ : FourDigits (0xD800 + high) first)
      (h₂ : FourDigits (0xDC00 + low) second) :
      WritesChar c ('\\' :: 'u' :: (first ++ '\\' :: 'u' :: second))

/-- The ways to write characters between quotes. -/
inductive Writes : List Char → List Char → Prop
  | nil : Writes [] []
  | cons {c : Char} {chars marks text : List Char} (first : WritesChar c marks)
      (rest : Writes chars text) : Writes (c :: chars) (marks ++ text)

/-- What may stand between quotes. The number of an escape need not be the one of a character. -/
inductive IsInside : List Char → Prop
  | nil : IsInside []
  | plain {c : Char} {rest : List Char} (h : IsPlain c) (hr : IsInside rest) : IsInside (c :: rest)
  | letter {letter c : Char} {rest : List Char} (h : (letter, c) ∈ escapes) (hr : IsInside rest) :
      IsInside ('\\' :: letter :: rest)
  | number {n : Nat} {digits rest : List Char} (h : FourDigits n digits) (hr : IsInside rest) :
      IsInside ('\\' :: 'u' :: (digits ++ rest))

/-! ### Numbers -/

/-- One decimal digit or more. -/
structure IsDigits (text : List Char) : Prop where
  nonempty : text ≠ []
  digits : ∀ c ∈ text, c.isDigit = true

/-- The digits before the point: a zero is the first one only if it is the only one. -/
inductive IsWhole : List Char → Prop
  | zero : IsWhole ['0']
  | digits {text : List Char} (h : IsDigits text) (noZero : text.head? ≠ '0') : IsWhole text

/-- The point and the digits after it, if there are any. -/
inductive IsFraction : List Char → Prop
  | none : IsFraction []
  | digits {text : List Char} (h : IsDigits text) : IsFraction ('.' :: text)

/-- The exponent, if there is one. -/
inductive IsExponent : List Char → Prop
  | none : IsExponent []
  | digits {letter : Char} {sign text : List Char} (hl : letter = 'e' ∨ letter = 'E')
      (hs : sign = [] ∨ sign = ['+'] ∨ sign = ['-']) (h : IsDigits text) :
      IsExponent (letter :: (sign ++ text))

/-- A number of any kind. -/
inductive IsNumber : List Char → Prop
  | mk {sign whole fraction exponent : List Char} (hs : sign = [] ∨ sign = ['-'])
      (hw : IsWhole whole) (hf : IsFraction fraction) (he : IsExponent exponent) :
      IsNumber (sign ++ (whole ++ (fraction ++ exponent)))

/-! ### Values -/

/-- What stands in front of an item or a member: white space, and a comma unless it is the first. -/
inductive Leads : Bool → List Char → Prop
  | first {gap : List Char} (h : Blank gap) : Leads true gap
  | next {before after : List Char} (hb : Blank before) (ha : Blank after) :
      Leads false (before ++ ',' :: after)

/-- The items or members between brackets, or what is left of them after the first. -/
inductive Separated : Bool → List (List Char) → List Char → Prop
  | nil {first : Bool} {gap : List Char} (blank : Blank gap) : Separated first [] gap
  | cons {first : Bool} {lead text others : List Char} {texts : List (List Char)}
      (hl : Leads first lead) (ho : Separated false texts others) :
      Separated first (text :: texts) (lead ++ (text ++ others))

/-- A member with what stands between the quotes of its key and with the text of its value. -/
inductive IsMember : List Char × List Char → List Char → Prop
  | mk {key before after value : List Char} (hb : Blank before) (ha : Blank after) :
      IsMember (key, value) ('"' :: (key ++ '"' :: (before ++ ':' :: (after ++ value))))

/-- The text of a value of any kind. -/
inductive IsValue : List Char → Prop
  | null : IsValue ['n', 'u', 'l', 'l']
  | bool_true : IsValue ['t', 'r', 'u', 'e']
  | bool_false : IsValue ['f', 'a', 'l', 's', 'e']
  | number {text : List Char} (h : IsNumber text) : IsValue text
  | string {inside : List Char} (h : IsInside inside) : IsValue ('"' :: (inside ++ ['"']))
  | array {texts : List (List Char)} {inside : List Char} (h : Separated true texts inside)
      (values : ∀ text ∈ texts, IsValue text) : IsValue ('[' :: (inside ++ [']']))
  | object {members : List (List Char × List Char)} {texts : List (List Char)}
      {inside : List Char} (h : Separated true texts inside)
      (written : List.Forall₂ IsMember members texts)
      (keys : ∀ member ∈ members, IsInside member.1)
      (values : ∀ member ∈ members, IsValue member.2) : IsValue ('\x7b' :: (inside ++ ['\x7d']))

/-! ### Values of a kind -/

/-- The text of a truth value. -/
def IsBool (value : Bool) (text : List Char) : Prop :=
  text = if value then "true".toList else "false".toList

/-- The text of a natural number of 64 bits. -/
def IsNatural (n : Nat) (text : List Char) : Prop := n < UInt64.size ∧ text = (toString n).toList

/-- A member with its key, which is a string of characters, and with the text of its value. -/
inductive IsKeyed : String × List Char → List Char → Prop
  | mk {key : String} {inside value text : List Char} (hk : Writes key.toList inside)
      (h : IsMember (inside, value) text) : IsKeyed (key, value) text

/-- The text of an object with the given members: the key of each, and the text of its value. -/
inductive IsObject : List (String × List Char) → List Char → Prop
  | mk {members : List (String × List Char)} {texts : List (List Char)} {inside : List Char}
      (h : Separated true texts inside) (written : List.Forall₂ IsKeyed members texts) :
      IsObject members ('\x7b' :: (inside ++ ['\x7d']))

end TypeAtlas.Json
