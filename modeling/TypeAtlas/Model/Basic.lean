/-!
Models: what is known of a declared name, and how it refers to other models.

A model is known by its id. Types in a model are either the id of a model or the text of a type.
-/

set_option autoImplicit false

namespace TypeAtlas

/-- A type in a model: another model, or the text of a type that is none. -/
inductive TypeRef where
  | model (id : String)
  | text (text : String)
deriving DecidableEq, Repr, Inhabited

namespace TypeRef

/-- The id of the model. -/
def model? : TypeRef → Option String
  | .model id => some id
  | .text _ => none

/-- A reference is shown as its id or its text. -/
def render : TypeRef → String
  | .model id => id
  | .text words => words

end TypeRef

/-- A parameter of a function field. -/
structure FunctionArgument where
  name : String
  type : TypeRef
deriving DecidableEq, Repr

/-- What a function field returns. -/
inductive FunctionReturn where
  /-- An array of a model. -/
  | models (id : String)
  | type (type : TypeRef)
deriving DecidableEq, Repr

namespace FunctionReturn

/-- The id of the model that is returned, alone or in an array. -/
def model? : FunctionReturn → Option String
  | .models id => some id
  | .type ref => ref.model?

def render : FunctionReturn → String
  | .models id => id ++ "[]"
  | .type ref => ref.render

end FunctionReturn

/-- The shape of a field's type. -/
inductive FieldShape where
  /-- One type. -/
  | scalar (type : TypeRef)
  /-- An array of one type. -/
  | array (element : TypeRef)
  /-- A named type with arguments. -/
  | generic (name : String) (arguments : List TypeRef)
  | function (arguments : List FunctionArgument) (returned : FunctionReturn)
  | union (types : List TypeRef)
deriving DecidableEq, Repr

namespace FieldShape

/-- The name of the shape. -/
def kind : FieldShape → String
  | .scalar _ => "default"
  | .array _ => "array"
  | .generic _ _ => "generic"
  | .function _ _ => "function"
  | .union _ => "union"

/-- The ids of the models that the shape names, in order. -/
def models : FieldShape → List String
  | .scalar type | .array type => type.model?.toList
  | .generic _ arguments => arguments.filterMap (·.model?)
  | .function arguments returned =>
    (arguments.filterMap fun argument => argument.type.model?) ++ returned.model?.toList
  | .union types => types.filterMap (·.model?)

/-- A shape is shown like the type it stands for. -/
def render : FieldShape → String
  | .scalar type => type.render
  | .array element => element.render ++ "[]"
  | .generic name arguments => name ++ "<" ++ ", ".intercalate (arguments.map (·.render)) ++ ">"
  | .function arguments returned =>
    let parameters := arguments.map fun argument => argument.name ++ ": " ++ argument.type.render
    "(" ++ ", ".intercalate parameters ++ ") => " ++ returned.render
  | .union types => " | ".intercalate (types.map (·.render))

end FieldShape

/-- A field of a model. -/
structure SchemaField where
  name : String
  optional : Bool
  shape : FieldShape
deriving DecidableEq, Repr

namespace SchemaField

/-- The name of the one field that stands for the value of an alias. -/
def aliasValue : String := "==>"

/-- Whether the field stands for the value of an alias. -/
def isAliasValue (field : SchemaField) : Bool := field.name == aliasValue

/-- A field is shown as its name and its shape. -/
def render (field : SchemaField) : String :=
  field.name ++ (if field.optional then "?" else "") ++ ": " ++ field.shape.render

end SchemaField

/-- A type parameter of a model with the text of its bound. -/
structure ModelParameter where
  name : String
  bound : Option String
deriving DecidableEq, Repr

/-- What a model was declared as, with its supertypes. -/
inductive ModelKind where
  | interface (bases : List TypeRef)
  | typeAlias
  | class (base : Option TypeRef) (interfaces : List TypeRef)
deriving DecidableEq, Repr

namespace ModelKind

/-- The word for the kind. -/
def word : ModelKind → String
  | .interface _ => "interface"
  | .typeAlias => "typeAlias"
  | .class _ _ => "class"

/-- The supertypes that are extended. -/
def extended : ModelKind → List TypeRef
  | .interface bases => bases
  | .typeAlias => []
  | .class base _ => base.toList

/-- The supertypes that are implemented. -/
def implemented : ModelKind → List TypeRef
  | .class _ interfaces => interfaces
  | _ => []

/-- All supertypes. -/
def supertypes (kind : ModelKind) : List TypeRef := kind.extended ++ kind.implemented

end ModelKind

/-- A model of a declared name. -/
structure Model where
  id : String
  name : String
  kind : ModelKind
  parameters : List ModelParameter
  schema : List SchemaField
  /-- The ids of the models it refers to, each once in the order of first reference. -/
  dependencies : List String
  /-- The ids of the models that refer to it. -/
  dependants : List String
deriving DecidableEq, Repr

namespace Model

def dependsOn (model : Model) (id : String) : Bool := model.dependencies.contains id

def isDependedOnBy (model : Model) (id : String) : Bool := model.dependants.contains id

/-- The field of a name. -/
def field? (model : Model) (name : String) : Option SchemaField :=
  model.schema.find? fun field => field.name == name

/-- The model of an id. -/
def find? (models : List Model) (id : String) : Option Model :=
  models.find? fun model => model.id == id

end Model

end TypeAtlas
