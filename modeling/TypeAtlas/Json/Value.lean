/-!
JSON values and their text.

An object keeps its members in the order they are written in.
-/

set_option autoImplicit false

namespace TypeAtlas

/-- A JSON value whose numbers are natural. -/
inductive Json where
  | null
  | bool (value : Bool)
  | number (value : Nat)
  | string (value : String)
  | array (items : List Json)
  | object (members : List (String × Json))
deriving Inhabited

namespace Json

/-! ### Strings -/

/-- The digits of a number below sixteen. -/
def hexDigit (n : Nat) : Char := "0123456789abcdef".toList.getD n '0'

/-- A character of a string as it is written between quotes. -/
def escape (c : Char) : List Char :=
  if c = '"' then ['\\', '"']
  else if c = '\\' then ['\\', '\\']
  else if c = '\n' then ['\\', 'n']
  else if c = '\r' then ['\\', 'r']
  else if c = '\t' then ['\\', 't']
  else if c.toNat = 8 then ['\\', 'b']
  else if c.toNat = 12 then ['\\', 'f']
  else if c.toNat < 32 then
    ['\\', 'u', '0', '0', hexDigit (c.toNat / 16), hexDigit (c.toNat % 16)]
  else [c]

/-- A string in quotes. -/
def quoted (value : String) : String :=
  String.ofList ('"' :: value.toList.flatMap escape ++ ['"'])

/-! ### Values -/

mutual

/-- The text of a value without any space. -/
def compact : Json → String
  | .null => "null"
  | .bool value => if value then "true" else "false"
  | .number value => toString value
  | .string value => quoted value
  | .array items => "[" ++ ",".intercalate (compactItems items) ++ "]"
  | .object members => "\x7b" ++ ",".intercalate (compactMembers members) ++ "\x7d"

def compactItems : List Json → List String
  | [] => []
  | item :: rest => item.compact :: compactItems rest

def compactMembers : List (String × Json) → List String
  | [] => []
  | (key, value) :: rest => (quoted key ++ ":" ++ value.compact) :: compactMembers rest

end

/-- A line break and two spaces for each level. -/
def newline (level : Nat) : String := String.ofList ('\n' :: List.replicate (2 * level) ' ')

/-- Items between brackets, each on a line of its own. -/
def lines (first last : String) (level : Nat) : List String → String
  | [] => first ++ last
  | items =>
    first ++ newline (level + 1) ++ ("," ++ newline (level + 1)).intercalate items ++
      newline level ++ last

mutual

/-- The text of a value with one item or member a line, at the given level. -/
def indented (level : Nat) : Json → String
  | .array items => lines "[" "]" level (indentedItems (level + 1) items)
  | .object members => lines "\x7b" "\x7d" level (indentedMembers (level + 1) members)
  | .null => "null"
  | .bool value => if value then "true" else "false"
  | .number value => toString value
  | .string value => quoted value

def indentedItems (level : Nat) : List Json → List String
  | [] => []
  | item :: rest => item.indented level :: indentedItems level rest

def indentedMembers (level : Nat) : List (String × Json) → List String
  | [] => []
  | (key, value) :: rest =>
    (quoted key ++ ": " ++ value.indented level) :: indentedMembers level rest

end

/-- The text of a value, indented or without any space. -/
def print (pretty : Bool) (value : Json) : String :=
  if pretty then value.indented 0 else value.compact

/-! ### Members that may be absent -/

/-- A member that is left out if there is no value. -/
def member? (key : String) : Option Json → List (String × Json)
  | some value => [(key, value)]
  | none => []

/-- A value that may be null. -/
def orNull : Option Json → Json
  | some value => value
  | none => .null

/-- An array of strings. -/
def strings (values : List String) : Json := .array (values.map .string)

end Json

end TypeAtlas
