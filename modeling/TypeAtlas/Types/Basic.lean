import TypeAtlas.Text.Blank
import TypeAtlas.Text.Location

/-!
Types, and the members and signatures they are made of.

A type has a shape and the text its author wrote, on one line. The shape decides what a type
is; the text is how it is named where it was written. A type that was not written, because it
was inferred, substituted or looked up, has the empty text.
-/

set_option autoImplicit false

namespace TypeAtlas

open Text (Span)

/-- Where a member of a declaration comes from. -/
inductive Origin where
  /-- The first declaration of the name. -/
  | own
  /-- A later declaration of the same name. -/
  | merged
  /-- A supertype. -/
  | inherited (owner : String)
deriving DecidableEq, Repr, Inhabited

mutual

/-- A type: what it is, and the text it was written as. -/
structure TypeExpr where
  shape : TypeShape
  text : String

/-- What a type is. -/
inductive TypeShape where
  /-- A type that is part of the language, such as `string` or `null`. -/
  | keyword (word : String)
  /-- A literal, as it is spelled. -/
  | literal (spelling : String)
  /-- A named type, perhaps with arguments. -/
  | reference (name : String) (arguments : List TypeExpr)
  | array (element : TypeExpr)
  | tuple (items : List TypeExpr)
  | union (items : List TypeExpr)
  | intersection (items : List TypeExpr)
  | function (signature : Signature)
  | object (members : List Member) (callSignatures : List Signature)
  | indexedAccess (object index : TypeExpr)
  | this
  /-- Every other form of type. Only its text is known. -/
  | unsupported

/-- A type parameter with its bound and its default. -/
structure TypeParameter where
  name : String
  constraint : Option TypeExpr
  fallback : Option TypeExpr

/-- A parameter of a function. -/
structure Parameter where
  /-- Its name, or the pattern that takes the value apart. -/
  name : String
  /-- It may be left out, or has a default value. -/
  optional : Bool
  /-- It takes all further values. -/
  rest : Bool
  type : Option TypeExpr

/-- How something can be called. -/
structure Signature where
  typeParameters : List TypeParameter
  parameters : List Parameter
  /-- What is returned; `none` means anything. -/
  returnType : Option TypeExpr
  hasBody : Bool
  /-- It belongs to the first declaration of a member. -/
  ofMember : Bool

/-- The forms of members. -/
inductive MemberForm where
  | property (type : Option TypeExpr)
  /-- The signatures are the overloads in the order of their declarations. -/
  | method (signatures : List Signature)
  | getter (type : Option TypeExpr)
  | setter (parameter : Option Parameter)

/-- A member of an interface, a class or an object type. -/
structure Member where
  name : String
  optional : Bool
  readonly : Bool
  form : MemberForm
  span : Span
  origin : Origin

end

instance : Inhabited TypeExpr := ⟨⟨.unsupported, ""⟩⟩
instance : Inhabited Signature := ⟨⟨[], [], none, false, false⟩⟩

namespace TypeExpr

/-- A type with the text its author wrote. -/
def written (shape : TypeShape) (text : String) : TypeExpr := ⟨shape, Text.oneLine text⟩

/-- A type that was not written. -/
def unwritten (shape : TypeShape) : TypeExpr := ⟨shape, ""⟩

/-- A type of the language that was not written. -/
def keyword (word : String) : TypeExpr := unwritten (.keyword word)

/-- A named type that was not written. -/
def reference (name : String) (arguments : List TypeExpr) : TypeExpr :=
  unwritten (.reference name arguments)

/-- The text the author wrote, if there is one. -/
def declaredText? (type : TypeExpr) : Option String :=
  if type.text.isEmpty then none else some type.text

/-- The name a named type refers to. -/
def referenceName? (type : TypeExpr) : Option String :=
  match type.shape with
  | .reference name _ => some name
  | _ => none

/-- The arguments of a named type. -/
def typeArguments (type : TypeExpr) : List TypeExpr :=
  match type.shape with
  | .reference _ arguments => arguments
  | _ => []

/-- Whether a type is part of the language or a literal. -/
def isPrimitive (type : TypeExpr) : Bool :=
  match type.shape with
  | .keyword _ | .literal _ => true
  | _ => false

/-- How a value of the type can be called. -/
def callSignatures (type : TypeExpr) : List Signature :=
  match type.shape with
  | .function signature => [signature]
  | .object _ signatures => signatures
  | _ => []

/-- The type of the elements of an array type. -/
def element? (type : TypeExpr) : Option TypeExpr :=
  match type.shape with
  | .array element => some element
  | _ => none

/-- The operands of a union. -/
def operands? (type : TypeExpr) : Option (List TypeExpr) :=
  match type.shape with
  | .union items => some items
  | _ => none

end TypeExpr

namespace Member

/-- The type of a property or getter. -/
def type? (member : Member) : Option TypeExpr :=
  match member.form with
  | .property type | .getter type => type
  | _ => none

/-- Whether the member comes from a supertype. -/
def isInherited (member : Member) : Bool :=
  match member.origin with
  | .inherited _ => true
  | _ => false

def isProperty (member : Member) : Bool := member.form matches .property _

def isMethod (member : Member) : Bool := member.form matches .method _

/-- The member with the given name. -/
def named? (members : List Member) (name : String) : Option Member :=
  members.find? fun member => member.name == name

/-- The type of the member's value. A method is a function of its first signature. -/
def valueType? (member : Member) : Option TypeExpr :=
  match member.form with
  | .property type | .getter type => type
  | .setter parameter => parameter.bind (·.type)
  | .method signatures => signatures.head?.map fun signature => .unwritten (.function signature)

end Member

end TypeAtlas
