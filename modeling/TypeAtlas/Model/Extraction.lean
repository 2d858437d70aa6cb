import TypeAtlas.Config.Basic
import TypeAtlas.Model.Basic
import TypeAtlas.Source
import TypeAtlas.Text.Qualifier

/-!
The models of a source.

Every declared name becomes one model: interfaces first, then aliases, then classes, each in the
order of the source; a name that is taken is passed over. The models are made in three passes. The
first one chooses the declarations, so that it is known which names have models. The second one
classifies the members of each declaration by the shape of their types, and while it does so it
notes the models that it comes across; what has been noted in the end are the dependencies of the
model. The third one tells every model who depends on it.
-/

set_option autoImplicit false

namespace TypeAtlas

/-! ### Notes -/

/-- The ids of the models that have been come across, each once in the order of first mention. -/
abbrev Notes := List String

namespace Notes

/-- Notes an id unless it has been noted before. -/
def add (notes : Notes) (id : String) : Notes :=
  if notes.contains id then notes else notes ++ [id]

/-- Notes ids in order. -/
def addAll (notes : Notes) (ids : List String) : Notes := ids.foldl add notes

end Notes

/-- An answer for which models are come across and noted. -/
abbrev Noting := StateM Notes

/-- Notes an id. -/
def note (id : String) : Noting Unit := modify (·.add id)

/-- What types are looked up in while models are extracted. -/
structure Extraction where
  scope : Scope
  config : ExtractConfig
  /-- The names that have models, in the order of the models. -/
  known : List String

namespace Extraction

/-! ### Names -/

/-- The name of a type without the module it is imported from. -/
def nameOf (extraction : Extraction) (type : TypeExpr) : String :=
  Text.unqualified (extraction.scope.nameOf type)

/-- The id of the model that a type names. -/
def model? (extraction : Extraction) (type : TypeExpr) : Option String :=
  let name := extraction.nameOf type
  if extraction.known.contains name then some name else none

/-- The id of the model that an array type holds. -/
def elementModel? (extraction : Extraction) (type : TypeExpr) : Option String :=
  type.element?.bind extraction.model?

/-- The model that a type names, which is noted, or else the text of the type. -/
def resolve (extraction : Extraction) (type : TypeExpr) : Noting TypeRef := do
  match extraction.model? type with
  | some id =>
    note id
    return .model id
  | none => return .text (extraction.nameOf type)

/-- A supertype names a model by its name alone, whatever its arguments are. -/
def supertype (extraction : Extraction) (type : TypeExpr) : TypeRef :=
  match type.referenceName?.map Text.unqualified with
  | some name =>
    if extraction.known.contains name then .model name else .text (extraction.nameOf type)
  | none => .text (extraction.nameOf type)

/-! ### Shapes -/

/-- Finds the shape of a type, or answers that it has another one. -/
abbrev Detector := Extraction → TypeExpr → Noting (Option FieldShape)

/-- The parameter of a function field. The elements of an array are noted although only the text of
the array is kept. -/
def argument (extraction : Extraction) (parameter : Parameter) : Noting FunctionArgument := do
  match parameter.type with
  | some type =>
    match extraction.elementModel? type with
    | some id => note id
    | none => pure ()
    return ⟨parameter.name, ← extraction.resolve type⟩
  | none => return ⟨parameter.name, .text "any"⟩

/-- What a function field returns. -/
def returned (extraction : Extraction) (type : TypeExpr) : Noting FunctionReturn := do
  match extraction.elementModel? type with
  | some id =>
    note id
    return .models id
  | none => return .type (← extraction.resolve type)

/-- A type that can be called in one way. -/
def function? : Detector := fun extraction type => do
  match type.callSignatures with
  | [signature] =>
    let arguments ← signature.parameters.mapM extraction.argument
    let returned ← extraction.returned (signature.returnType.getD (.keyword "any"))
    return some (.function arguments returned)
  | _ => return none

/-- An array type. -/
def array? : Detector := fun extraction type => do
  match type.element? with
  | some element => return some (.array (← extraction.resolve element))
  | none => return none

/-- A named type with arguments. -/
def generic? : Detector := fun extraction type => do
  match type.shape with
  | .reference name (first :: rest) =>
    return some (.generic (Text.unqualified name) (← (first :: rest).mapM extraction.resolve))
  | _ => return none

/-- A union with an operand that names a model. -/
def union? : Detector := fun extraction type => do
  match type.operands? with
  | some items =>
    if items.any fun item => (extraction.model? item).isSome then
      return some (.union (← items.mapM extraction.resolve))
    else return none
  | none => return none

/-- The shapes that are looked for, in this order. -/
def detectors : List Detector := [function?, array?, generic?, union?]

/-- The shape that the first of the detectors finds that finds one. -/
def firstShape (extraction : Extraction) (type : TypeExpr) :
    List Detector → Noting (Option FieldShape)
  | [] => return none
  | detector :: rest => do
    match ← detector extraction type with
    | some shape => return some shape
    | none => extraction.firstShape type rest

/-- The shape of a type: the first that is found, or else the type alone. -/
def classify (extraction : Extraction) (type : TypeExpr) : Noting FieldShape := do
  match ← extraction.firstShape type detectors with
  | some shape => return shape
  | none => return .scalar (← extraction.resolve type)

/-! ### Fields -/

/-- The signature that stands for an overloaded method: that of its own declaration, else one with
a body, else the last. -/
def representative (signatures : List Signature) : Signature :=
  let chosen := signatures.find? (·.ofMember) <|> signatures.find? (·.hasBody) <|>
    signatures.getLast?
  chosen.getD default

/-- The type of a member as a field. Methods and accessors are functions. -/
def fieldType (member : Member) : TypeExpr :=
  match member.form with
  | .property type => type.getD (.keyword "any")
  | .method signatures => .unwritten (.function (representative signatures))
  | .getter type =>
    .unwritten (.function
      { (default : Signature) with returnType := some (type.getD (.keyword "any")) })
  | .setter parameter =>
    .unwritten (.function
      { (default : Signature) with
        parameters := parameter.toList, returnType := some (.keyword "void") })

/-- The field with the given name and type. -/
def field (extraction : Extraction) (name : String) (optional : Bool) (type : TypeExpr) :
    Noting SchemaField := do
  return ⟨name, optional, ← extraction.classify type⟩

/-- The members that have a field. Inherited members have one only if the settings say so. -/
def shownMembers (extraction : Extraction) (members : List Member) : List Member :=
  members.filter fun member => extraction.config.inheritedFields || !member.isInherited

/-- The fields for members. -/
def memberFields (extraction : Extraction) (members : List Member) : Noting (List SchemaField) :=
  (extraction.shownMembers members).mapM fun member =>
    extraction.field member.name member.optional (fieldType member)

/-- The shape of the value of an alias: a union of its operands, a plain value, or whatever shape
its type has. -/
def aliasShape (extraction : Extraction) (type : TypeExpr) : Noting FieldShape := do
  match type.operands? with
  | some items => return .union (← items.mapM extraction.resolve)
  | none =>
    if extraction.scope.isValueLike type then return .scalar (← extraction.resolve type)
    else extraction.classify type

/-- The one field of an alias that stands for its value. -/
def aliasField (extraction : Extraction) (type : TypeExpr) : Noting (List SchemaField) := do
  return [⟨SchemaField.aliasValue, false, ← extraction.aliasShape type⟩]

/-- The fields of an alias. An object type has its members as fields, unless it can only be called;
of an indexed access, what is indexed is noted. -/
def aliasFields (extraction : Extraction) (declared : TypeExpr) : Noting (List SchemaField) := do
  match declared.shape with
  | .object members signatures =>
    if !members.isEmpty || signatures.isEmpty then extraction.memberFields members
    else extraction.aliasField declared
  | .indexedAccess object _ =>
    match extraction.model? object with
    | some id => note id
    | none => pure ()
    extraction.aliasField ((extraction.scope.access? declared).getD declared)
  | _ => extraction.aliasField declared

/-! ### Declarations -/

/-- A declaration that can become a model. -/
inductive Candidate where
  | interface (decl : InterfaceDecl)
  | typeAlias (decl : AliasDecl)
  | class (decl : ClassDecl)

namespace Candidate

/-- The name of a candidate. -/
def name : Candidate → String
  | .interface decl => decl.name
  | .typeAlias decl => decl.name
  | .class decl => decl.name

/-- The type parameters of a candidate. -/
def typeParameters : Candidate → List TypeParameter
  | .interface decl => decl.typeParameters
  | .typeAlias decl => decl.typeParameters
  | .class decl => decl.typeParameters

end Candidate

/-- The declarations that can become models, in the order of the models. -/
def candidates (declarations : Declarations) (config : ExtractConfig) : List Candidate :=
  declarations.interfaces.map .interface ++ declarations.aliases.map .typeAlias ++
    if config.includeClasses then declarations.classes.map .class else []

/-- Chooses candidates in order, each unless its name is taken by one that has been chosen. -/
def choose (candidates : List Candidate) : List Candidate :=
  candidates.foldl
    (fun chosen candidate =>
      if chosen.any fun other => other.name == candidate.name then chosen
      else chosen ++ [candidate]) []

/-- The extraction in which the chosen candidates are known. -/
def ofChosen (scope : Scope) (config : ExtractConfig) (chosen : List Candidate) : Extraction :=
  ⟨scope, config, chosen.map (·.name)⟩

/-! ### Models -/

/-- The parameters of a model. -/
def parametersOf (extraction : Extraction) (parameters : List TypeParameter) :
    List ModelParameter :=
  parameters.map fun parameter => ⟨parameter.name, parameter.constraint.map extraction.scope.nameOf⟩

/-- What a candidate is declared as, with its supertypes. -/
def kindOf (extraction : Extraction) : Candidate → ModelKind
  | .interface decl => .interface (decl.bases.map extraction.supertype)
  | .typeAlias _ => .typeAlias
  | .class decl =>
    .class (decl.base.map extraction.supertype) (decl.interfaces.map extraction.supertype)

/-- The fields of a candidate. -/
def fieldsOf (extraction : Extraction) : Candidate → Noting (List SchemaField)
  | .interface decl => extraction.memberFields decl.members
  | .typeAlias decl => extraction.aliasFields decl.declared
  | .class decl => extraction.memberFields decl.members

/-- The model of a candidate, not yet linked to its dependants. The models among its supertypes are
noted before those in its fields. -/
def modelOf (extraction : Extraction) (candidate : Candidate) : Model :=
  let kind := extraction.kindOf candidate
  let (schema, notes) :=
    (extraction.fieldsOf candidate).run (Notes.addAll [] (kind.supertypes.filterMap (·.model?)))
  { id := candidate.name, name := candidate.name, kind
    parameters := extraction.parametersOf candidate.typeParameters
    schema, dependencies := notes, dependants := [] }

end Extraction

namespace Model

/-- The model with one dependant more. -/
def addDependant (id : String) (model : Model) : Model :=
  { model with dependants := model.dependants ++ [id] }

/-- Tells the models that one model depends on that it does. A model is found at the place of its id
among the known names. -/
def linkOne (known : List String) (models : List Model) (model : Model) : List Model :=
  model.dependencies.foldl
    (fun models id => match known.idxOf? id with
      | some place => models.modify place (addDependant model.id)
      | none => models) models

/-- Tells every model who depends on it. -/
def link (known : List String) (models : List Model) : List Model :=
  models.foldl (linkOne known) models

/-- The models of declarations. -/
def ofScope (scope : Scope) (config : ExtractConfig) : List Model :=
  let chosen := Extraction.choose (Extraction.candidates scope.declarations config)
  let extraction := Extraction.ofChosen scope config chosen
  link extraction.known (chosen.map extraction.modelOf)

/-- The models of a source. -/
def ofSource (source : Source) (config : ExtractConfig) : List Model :=
  ofScope source.scope config

/-- The models of a text. A question that never ends is answered for them by the type itself or by
nothing (`Scope.apparent`, `Scope.access?`). -/
def ofText (text : String) (config : ExtractConfig) : List Model :=
  ofSource (Source.read text config.aliasDepthLimit) config

end Model

end TypeAtlas
