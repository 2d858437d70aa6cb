import TypeAtlas.Text.Quoted
import TypeAtlas.Types.Basic

/-!
Types as text.

The text depends on the shape alone, except for the forms of which only the text is known. It has
one space after each comma and around each operator, and double quotes around literals.
-/

set_option autoImplicit false

namespace TypeAtlas

/-- Whether the type needs parentheses before brackets. -/
def TypeShape.loose : TypeShape → Bool
  | .union _ | .intersection _ | .function _ => true
  | _ => false

/-- A text in parentheses if need be. -/
def enclosed (needed : Bool) (text : String) : String := if needed then "(" ++ text ++ ")" else text

mutual

/-- The text of a type, in the same form for everyone who writes it. -/
def TypeExpr.print : TypeExpr → String
  | ⟨.unsupported, text⟩ => text
  | ⟨.keyword word, _⟩ => word
  | ⟨.literal spelling, _⟩ => Text.doubleQuoted spelling
  | ⟨.reference name arguments, _⟩ =>
    match arguments with
    | [] => name
    | _ :: _ => name ++ "<" ++ ", ".intercalate (printTypes arguments) ++ ">"
  | ⟨.array element, _⟩ => enclosed element.shape.loose element.print ++ "[]"
  | ⟨.tuple items, _⟩ => "[" ++ ", ".intercalate (printTypes items) ++ "]"
  | ⟨.union items, _⟩ => " | ".intercalate (printOperands items)
  | ⟨.intersection items, _⟩ => " & ".intercalate (printOperands items)
  | ⟨.function signature, _⟩ => signature.print " => "
  | ⟨.object members signatures, _⟩ =>
    match members, signatures with
    | [], [] => "\x7b\x7d"
    | _, _ =>
      "\x7b " ++ String.join (printCalls signatures) ++ String.join (printMembers members) ++ "\x7d"
  | ⟨.indexedAccess object index, _⟩ => object.print ++ "[" ++ index.print ++ "]"
  | ⟨.this, _⟩ => "this"

def printTypes : List TypeExpr → List String
  | [] => []
  | type :: types => type.print :: printTypes types

/-- Operands of a union or intersection. A function needs parentheses there. -/
def printOperands : List TypeExpr → List String
  | [] => []
  | type :: types => enclosed (type.shape matches .function _) type.print :: printOperands types

/-- A type that may have been left out, and then is any. -/
def printType? : Option TypeExpr → String
  | none => "any"
  | some type => type.print

def Parameter.print : Parameter → String
  | ⟨name, optional, rest, type⟩ =>
    (if rest then "..." else "") ++ name ++ (if optional then "?" else "") ++ ": " ++
      printType? type

def printParameters : List Parameter → List String
  | [] => []
  | parameter :: rest => parameter.print :: printParameters rest

/-- Parameters and what is returned, with the given text between them. -/
def Signature.print (separator : String) : Signature → String
  | ⟨_, parameters, returnType, _, _⟩ =>
    "(" ++ ", ".intercalate (printParameters parameters) ++ ")" ++ separator ++
      printType? returnType

def printCalls : List Signature → List String
  | [] => []
  | signature :: rest => (signature.print ": " ++ "; ") :: printCalls rest

/-- The overloads of a method, given what comes before the parameters. -/
def printOverloads (head : String) : List Signature → List String
  | [] => []
  | signature :: rest => (head ++ signature.print ": " ++ ";") :: printOverloads head rest

/-- The text of a member. -/
def Member.print : Member → String
  | ⟨name, optional, readonly, form, _, _⟩ =>
    let mark := if optional then "?" else ""
    match form with
    | .property type =>
      (if readonly then "readonly " else "") ++ name ++ mark ++ ": " ++ printType? type ++ ";"
    | .method signatures => " ".intercalate (printOverloads (name ++ mark) signatures)
    | .getter type => "get " ++ name ++ "(): " ++ printType? type ++ ";"
    | .setter none => "set " ++ name ++ "();"
    | .setter (some ⟨parameter, _, _, none⟩) => "set " ++ name ++ "(" ++ parameter ++ ");"
    | .setter (some ⟨parameter, _, _, some type⟩) =>
      "set " ++ name ++ "(" ++ parameter ++ ": " ++ type.print ++ ");"

def printMembers : List Member → List String
  | [] => []
  | member :: rest => (member.print ++ " ") :: printMembers rest

end

end TypeAtlas
