import TypeAtlas.Graph.Basic
import TypeAtlas.Json.Reader

/-!
Models, fields and graphs as JSON, and models and fields read from it.

The members that depend on the kind of a model or field stand in the same object as all others, and
one member says which kind it is. A type is a string, or an object with the id of a model. What is
absent is left out.
-/

set_option autoImplicit false

namespace TypeAtlas

/-! ### Writing -/

namespace TypeRef

def toJson : TypeRef → Json
  | .model id => .object [("model", .string id)]
  | .text words => .string words

/-- References as a list. -/
def toJsons (refs : List TypeRef) : Json := .array (refs.map (·.toJson))

end TypeRef

namespace FunctionReturn

def toJson : FunctionReturn → Json
  | .models id => Json.strings [id]
  | .type ref => ref.toJson

end FunctionReturn

namespace FunctionArgument

def toJson (argument : FunctionArgument) : Json :=
  .object [("name", .string argument.name), ("type", argument.type.toJson)]

end FunctionArgument

namespace FieldShape

/-- The members that describe a shape. -/
def members : FieldShape → List (String × Json)
  | .scalar type => [("type", type.toJson)]
  | .array element => [("elementType", element.toJson)]
  | .generic name arguments =>
    [("genericName", .string name), ("arguments", TypeRef.toJsons arguments)]
  | .function arguments returned =>
    [("arguments", .array (arguments.map (·.toJson))), ("returnType", returned.toJson)]
  | .union types => [("types", TypeRef.toJsons types)]

end FieldShape

namespace SchemaField

def toJson (field : SchemaField) : Json :=
  .object <|
    [("name", .string field.name), ("optional", .bool field.optional),
      ("kind", .string field.shape.kind)] ++ field.shape.members

end SchemaField

namespace ModelParameter

def toJson (parameter : ModelParameter) : Json :=
  .object <| ("name", .string parameter.name) ::
    Json.member? "extends" (parameter.bound.map .string)

end ModelParameter

namespace ModelKind

/-- The members that describe a kind. -/
def members : ModelKind → List (String × Json)
  | .interface bases => [("extends", TypeRef.toJsons bases)]
  | .typeAlias => []
  | .class base interfaces =>
    Json.member? "extends" (base.map (·.toJson)) ++ [("implements", TypeRef.toJsons interfaces)]

end ModelKind

namespace Model

def toJson (model : Model) : Json :=
  .object <|
    [("id", .string model.id), ("name", .string model.name), ("type", .string model.kind.word)] ++
      model.kind.members ++
      [("arguments", .array (model.parameters.map (·.toJson))),
        ("schema", .array (model.schema.map (·.toJson))),
        ("dependencies", Json.strings model.dependencies),
        ("dependants", Json.strings model.dependants)]

/-- Models as a list. -/
def toJsons (models : List Model) : Json := .array (models.map (·.toJson))

end Model

namespace Graph

def toJson (graph : Graph) : Json :=
  .object [
    ("nodes", .array (graph.nodes.map fun node => .object [
      ("id", .string node.id), ("modelType", .string node.modelType),
      ("handles", Json.strings node.handles)])),
    ("edges", .array (graph.edges.map fun edge => .object <|
      [("id", .string edge.id), ("source", .string edge.source), ("target", .string edge.target)] ++
        Json.member? "sourceHandle" (edge.sourceHandle.map .string) ++
        [("kind", .string edge.kind.word)]))]

end Graph

/-! ### Values that were kept -/

namespace Json.Content

/-- What a kept value is read as, or why it cannot be. -/
abbrev Decoded (α : Type) := Except Cause α

def toString (content : Content) : Decoded String :=
  match content with
  | .string value => .ok value
  | other => .error (.invalidType other.found "a string")

/-- The items of a list, each read by a function. -/
def toList {α : Type} (item : Content → Decoded α) (content : Content) : Decoded (List α) :=
  match content with
  | .array items => items.mapM item
  | other => .error (.invalidType other.found "a sequence")

/-- The value of a member that comes once or not at all. -/
def member? (name : String) (members : List (String × Content)) : Decoded (Option Content) :=
  match members.filter fun member => member.1 == name with
  | [] => .ok none
  | [(_, value)] => .ok (some value)
  | _ => .error (.duplicateField name)

/-- The value of a member that comes once. -/
def member (name : String) (members : List (String × Content)) : Decoded Content := do
  match ← member? name members with
  | some value => .ok value
  | none => .error (.missingField name)

/-- Whether a value can be read. -/
def check {α : Type} (reader : Content → Decoded α) (content : Content) : Decoded Unit :=
  (reader content).map fun _ => ()

/-- Goes through members in order and fails at the first that comes twice or cannot be read. -/
def inOrder (readers : List (String × (Content → Decoded Unit))) :
    List String → List (String × Content) → Decoded Unit
  | _, [] => .ok ()
  | seen, (name, value) :: rest =>
    match readers.lookup name with
    | none => inOrder readers seen rest
    | some reader =>
      if seen.contains name then .error (.duplicateField name)
      else do
        reader value
        inOrder readers (name :: seen) rest

/-- Which of the known variants is named, be it by its name or its number. -/
def variant (known : List String) (content : Content) : Decoded String :=
  match content with
  | .string name => if known.contains name then .ok name else .error (.unknownVariant name known)
  | .number (.natural n) =>
    match known[n]? with
    | some name => .ok name
    | none =>
      .error (.invalidValue (.number (.natural n))
        ("variant index 0 <= i < " ++ ToString.toString known.length))
  | other => .error (.invalidType other.found "variant identifier")

/-- The variant that a member names, and all other members. -/
def tagged (tag : String) (known : List String) (members : List (String × Content)) :
    Decoded (String × List (String × Content)) := do
  inOrder [(tag, check (variant known))] [] members
  let name ← variant known (← member tag members)
  return (name, members.filter fun member => member.1 != tag)

/-- The only member that counts, read by a function. -/
def only {α : Type} (name : String) (reader : Content → Decoded α)
    (members : List (String × Content)) : Decoded α := do
  inOrder [(name, check reader)] [] members
  reader (← member name members)

/-- A model in an object, or else the text of a type. -/
def toTypeRef (content : Content) : Decoded TypeRef :=
  match content with
  | .string words => .ok (.text words)
  | .object members =>
    match member "model" members with
    | .ok (.string id) => .ok (.model id)
    | _ => .error (.noVariant "TypeRef")
  | _ => .error (.noVariant "TypeRef")

/-- A model alone in a list, or else a type. -/
def toReturn (content : Content) : Decoded FunctionReturn :=
  match content with
  | .array [.string id] => .ok (.models id)
  | other =>
    match other.toTypeRef with
    | .ok ref => .ok (.type ref)
    | .error _ => .error (.noVariant "FunctionReturn")

/-- A parameter of a function, as an object or as a list of its members. -/
def toArgument (content : Content) : Decoded FunctionArgument :=
  match content with
  | .object members => do
    inOrder [("name", check toString), ("type", check toTypeRef)] [] members
    return ⟨← (← member "name" members).toString, ← (← member "type" members).toTypeRef⟩
  | .array items =>
    let wanted := "struct FunctionArgument with 2 elements"
    match items with
    | [] => .error (.invalidLength 0 wanted)
    | name :: rest => do
      let name ← name.toString
      match rest with
      | [] => .error (.invalidLength 1 wanted)
      | type :: rest =>
        let type ← type.toTypeRef
        if rest.isEmpty then .ok ⟨name, type⟩
        else .error (.invalidLength items.length "2 elements in sequence")
  | other => .error (.invalidType other.found "struct FunctionArgument")

/-- The kinds of shapes. -/
def shapeKinds : List String := ["default", "array", "generic", "function", "union"]

/-- The shape that members describe. -/
def toShape (members : List (String × Content)) : Decoded FieldShape := do
  let (kind, members) ← tagged "kind" shapeKinds members
  if kind = "default" then return .scalar (← only "type" toTypeRef members)
  else if kind = "array" then return .array (← only "elementType" toTypeRef members)
  else if kind = "generic" then
    inOrder [("genericName", check toString), ("arguments", check (toList toTypeRef))] [] members
    return .generic (← (← member "genericName" members).toString)
      (← toList toTypeRef (← member "arguments" members))
  else if kind = "function" then
    inOrder [("arguments", check (toList toArgument)), ("returnType", check toReturn)] [] members
    return .function (← toList toArgument (← member "arguments" members))
      (← (← member "returnType" members).toReturn)
  else return .union (← only "types" (toList toTypeRef) members)

/-- A type, or nothing where null stands. -/
def toBase (content : Content) : Decoded (Option TypeRef) :=
  match content with
  | .null => .ok none
  | other => other.toTypeRef.map some

/-- The kinds of models. -/
def modelKinds : List String := ["interface", "typeAlias", "class"]

/-- The kind of model that members describe. -/
def toKind (members : List (String × Content)) : Decoded ModelKind := do
  let (kind, members) ← tagged "type" modelKinds members
  if kind = "interface" then return .interface (← only "extends" (toList toTypeRef) members)
  else if kind = "typeAlias" then return .typeAlias
  else
    inOrder [("extends", check toBase), ("implements", check (toList toTypeRef))] [] members
    let base ← match ← member? "extends" members with
      | none => pure none
      | some content => toBase content
    return .class base (← toList toTypeRef (← member "implements" members))

end Json.Content

/-! ### Reading -/

open Json (Content Reader)
open Json.Reader (colon required once failSomewhere)

/-- What kept members are read as. -/
def decoded {α : Type} : Content.Decoded α → Reader α
  | .ok value => pure value
  | .error cause => failSomewhere cause

namespace ModelParameter

/-- What is known of a parameter while it is read. -/
structure Partial where
  name : Option String := none
  bound : Option (Option String) := none

/-- Reads a member of a parameter, after its key. -/
def readMember (key : String) (found : Partial) : Reader Partial :=
  if key = "name" then
    return { found with name := some (← once key found.name Json.Reader.string) }
  else if key = "extends" then do
    let bound ← once key found.bound (Json.Reader.optional Json.Reader.string)
    return { found with bound := some bound }
  else do
    colon
    Json.Reader.ignore
    return found

def read (depth : Nat) : Reader ModelParameter :=
  Json.Reader.record "struct TypeParameter" depth
    (fun _ => do
      let found ← Json.Reader.members readMember {}
      return ⟨← required "name" found.name, found.bound.join⟩)
    (fun _ => do
      match ← Json.Reader.nextItem true Json.Reader.string with
      | none => failSomewhere (.invalidLength 0 "struct TypeParameter with 2 elements")
      | some name =>
        let bound ← Json.Reader.nextItem false (Json.Reader.optional Json.Reader.string)
        return ⟨name, bound.join⟩)

end ModelParameter

namespace SchemaField

/-- What is known of a field while it is read. -/
structure Partial where
  name : Option String := none
  optional : Option Bool := none
  /-- All other members, the last one first. -/
  others : List (String × Content) := []

/-- Reads a member of a field, after its key. -/
def readMember (depth : Nat) (key : String) (found : Partial) : Reader Partial :=
  if key = "name" then
    return { found with name := some (← once key found.name Json.Reader.string) }
  else if key = "optional" then
    return { found with optional := some (← once key found.optional Json.Reader.bool) }
  else do
    colon
    let value ← Json.Reader.content depth
    return { found with others := (key, value) :: found.others }

def read (depth : Nat) : Reader SchemaField :=
  Json.Reader.object "struct SchemaField" depth fun depth => do
    let found ← Json.Reader.members (readMember depth) {}
    let name ← required "name" found.name
    let optional ← required "optional" found.optional
    return ⟨name, optional, ← decoded (Content.toShape found.others.reverse)⟩

/-- Reads the text of a field. -/
def ofText (text : String) : Except Json.ReadError SchemaField :=
  (read Json.Reader.depthLimit).run text

end SchemaField

namespace Model

/-- What is known of a model while it is read. -/
structure Partial where
  id : Option String := none
  name : Option String := none
  parameters : Option (List ModelParameter) := none
  schema : Option (List SchemaField) := none
  dependencies : Option (List String) := none
  dependants : Option (List String) := none
  /-- All other members, the last one first. -/
  others : List (String × Content) := []

/-- A list of strings. -/
def readIds (depth : Nat) : Reader (List String) :=
  Json.Reader.list depth fun _ => Json.Reader.string

/-- Reads a member of a model, after its key. -/
def readMember (depth : Nat) (key : String) (found : Partial) : Reader Partial :=
  if key = "id" then return { found with id := some (← once key found.id Json.Reader.string) }
  else if key = "name" then
    return { found with name := some (← once key found.name Json.Reader.string) }
  else if key = "arguments" then do
    let parameters ← once key found.parameters (Json.Reader.list depth ModelParameter.read)
    return { found with parameters := some parameters }
  else if key = "schema" then do
    let schema ← once key found.schema (Json.Reader.list depth SchemaField.read)
    return { found with schema := some schema }
  else if key = "dependencies" then
    return { found with dependencies := some (← once key found.dependencies (readIds depth)) }
  else if key = "dependants" then
    return { found with dependants := some (← once key found.dependants (readIds depth)) }
  else do
    colon
    let value ← Json.Reader.content depth
    return { found with others := (key, value) :: found.others }

def read (depth : Nat) : Reader Model :=
  Json.Reader.object "struct Model" depth fun depth => do
    let found ← Json.Reader.members (readMember depth) {}
    let id ← required "id" found.id
    let name ← required "name" found.name
    let parameters ← required "arguments" found.parameters
    let schema ← required "schema" found.schema
    let dependencies ← required "dependencies" found.dependencies
    let dependants ← required "dependants" found.dependants
    let kind ← decoded (Content.toKind found.others.reverse)
    return ⟨id, name, kind, parameters, schema, dependencies, dependants⟩

/-- Reads the text of a list of models. -/
def listOfText (text : String) : Except Json.ReadError (List Model) :=
  (Json.Reader.list Json.Reader.depthLimit read).run text

end Model

end TypeAtlas
