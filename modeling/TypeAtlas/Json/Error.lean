import TypeAtlas.Decimal.Shortest
import TypeAtlas.Text.Shown

/-!
Why a text is not the JSON that is wanted.
-/

set_option autoImplicit false

namespace TypeAtlas.Json

/-- A number as it is read: whole numbers of 64 bits are exact, all others are approximate. -/
inductive Numeral where
  | natural (value : Nat)
  /-- The number below zero with the given distance from it. -/
  | negative (distance : Nat)
  | floating (value : Float)
deriving Repr

/-- What was found in place of something else. -/
inductive Found where
  | null
  | bool (value : Bool)
  | number (value : Numeral)
  | string (value : String)
  | array
  | object
deriving Repr

/-- What was found, in words. -/
def Found.words : Found → String
  | .null => "null"
  | .bool value => "boolean `" ++ (if value then "true" else "false") ++ "`"
  | .number (.natural value) => "integer `" ++ toString value ++ "`"
  | .number (.negative distance) => "integer `-" ++ toString distance ++ "`"
  | .number (.floating value) => "floating point `" ++ Decimal.text value ++ "`"
  | .string value => "string " ++ Text.shown value
  | .array => "sequence"
  | .object => "map"

/-- Why reading fails. -/
inductive Cause where
  /-- The text ends within the named thing. -/
  | unfinished (thing : String)
  /-- The named thing does not come next. -/
  | expected (thing : String)
  | invalidEscape
  | unfinishedEscape
  | loneSurrogate
  | controlCharacter
  | invalidNumber
  | numberOutOfRange
  | keyNotString
  | trailingComma
  | trailingCharacters
  | tooDeep
  | invalidType (found : Found) (wanted : String)
  | invalidValue (found : Found) (wanted : String)
  | invalidLength (length : Nat) (wanted : String)
  | unknownVariant (found : String) (known : List String)
  | noVariant (type : String)
  | missingField (name : String)
  | duplicateField (name : String)
deriving Repr

/-- Names as one of them is asked for. -/
def oneOf : List String → String
  | [a] => "`" ++ a ++ "`"
  | [a, b] => "`" ++ a ++ "` or `" ++ b ++ "`"
  | names => "one of " ++ ", ".intercalate (names.map fun name => "`" ++ name ++ "`")

/-- The wording of a cause. -/
def Cause.message : Cause → String
  | .unfinished thing => "EOF while parsing " ++ thing
  | .expected thing => "expected " ++ thing
  | .invalidEscape => "invalid escape"
  | .unfinishedEscape => "unexpected end of hex escape"
  | .loneSurrogate => "lone leading surrogate in hex escape"
  | .controlCharacter => "control character (\\u0000-\\u001F) found while parsing a string"
  | .invalidNumber => "invalid number"
  | .numberOutOfRange => "number out of range"
  | .keyNotString => "key must be a string"
  | .trailingComma => "trailing comma"
  | .trailingCharacters => "trailing characters"
  | .tooDeep => "recursion limit exceeded"
  | .invalidType found wanted => "invalid type: " ++ found.words ++ ", expected " ++ wanted
  | .invalidValue found wanted => "invalid value: " ++ found.words ++ ", expected " ++ wanted
  | .invalidLength length wanted =>
    "invalid length " ++ toString length ++ ", expected " ++ wanted
  | .unknownVariant found known =>
    "unknown variant `" ++ found ++ "`, expected " ++ oneOf known
  | .noVariant type => "data did not match any variant of untagged enum " ++ type
  | .missingField name => "missing field `" ++ name ++ "`"
  | .duplicateField name => "duplicate field `" ++ name ++ "`"

/-- Why and where a text cannot be read. Lines count from 1, columns are bytes. -/
structure ReadError where
  cause : Cause
  line : Nat
  column : Nat
deriving Repr

/-- The wording of an error. -/
def ReadError.message (error : ReadError) : String :=
  error.cause.message ++ " at line " ++ toString error.line ++ " column " ++ toString error.column

end TypeAtlas.Json
