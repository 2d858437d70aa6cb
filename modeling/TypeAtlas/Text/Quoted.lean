/-!
Quoted texts: their contents, and their form in double quotes.
-/

set_option autoImplicit false

namespace TypeAtlas.Text

/-- Whether a character is a quote of either style. -/
def isQuote (c : Char) : Bool := c = '"' || c = '\x27'

/-- What lies between two quotes of either style; a text that has no quotes at its ends stays as
it is. -/
def unquoted (text : String) : String :=
  match text.toList with
  | first :: rest =>
    match rest.getLast? with
    | some last => if isQuote first && isQuote last then String.ofList rest.dropLast else text
    | none => text
  | [] => text

/-- The text without the backslashes before single quotes. -/
def plainSingle : List Char → List Char
  | [] => []
  | c :: rest =>
    if c = '\\' && rest.head? = some '\x27' then plainSingle rest else c :: plainSingle rest

/-- Double quotes with a backslash before them. -/
def escapedDouble (text : List Char) : List Char :=
  text.flatMap fun c => if c = '"' then ['\\', '"'] else [c]

/-- A literal in single quotes as one in double quotes; every other literal stays as it is. -/
def doubleQuoted (literal : String) : String :=
  match literal.toList with
  | '\x27' :: rest =>
    if rest.getLast? = some '\x27' then
      String.ofList ('"' :: escapedDouble (plainSingle rest.dropLast) ++ ['"'])
    else literal
  | _ => literal

end TypeAtlas.Text
