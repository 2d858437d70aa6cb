import Mathlib.Data.List.Basic
import TypeAtlas.Proofs.Model.Notes

/-!
# What the classification of a type answers and notes

For each action of an extraction this module names its answer by a function without notes, and
proves that the action yields that answer together with the models it refers to. A type is shown as
the model it names or as its text (`refOf`), and a field has the shape `shapeOf` of its type.

Which ids are noted can be read off a shape and the type it was found for (`references`): they are
the models that the shape names, and an array in a parameter adds the model of its elements, which
the shape does not show. Main statements: `Noting.Yields.classify` for one type, and
`Noting.Yields.memberFields` and `Noting.Yields.aliasFields` for the fields of a declaration.
-/

set_option autoImplicit false

namespace TypeAtlas

namespace Extraction

variable (extraction : Extraction)

/-! ### Answers -/

/-- How a type is shown: as the model it names, or as its text. -/
def refOf (type : TypeExpr) : TypeRef :=
  match extraction.model? type with
  | some id => .model id
  | none => .text (extraction.nameOf type)

/-- How a parameter is shown. -/
def argumentOf (parameter : Parameter) : FunctionArgument :=
  ⟨parameter.name, (parameter.type.map extraction.refOf).getD (.text "any")⟩

/-- How a returned type is shown. -/
def returnOf (type : TypeExpr) : FunctionReturn :=
  match extraction.elementModel? type with
  | some id => .models id
  | none => .type (extraction.refOf type)

/-- How a type is shown that can be called in one way. -/
def functionShape? (type : TypeExpr) : Option FieldShape :=
  match type.callSignatures with
  | [signature] =>
    some (.function (signature.parameters.map extraction.argumentOf)
      (extraction.returnOf (signature.returnType.getD (.keyword "any"))))
  | _ => none

/-- How an array type is shown. -/
def arrayShape? (type : TypeExpr) : Option FieldShape :=
  type.element?.map fun element => .array (extraction.refOf element)

/-- How a named type with arguments is shown. -/
def genericShape? (type : TypeExpr) : Option FieldShape :=
  match type.shape with
  | .reference name (first :: rest) =>
    some (.generic (Text.unqualified name) ((first :: rest).map extraction.refOf))
  | _ => none

/-- How a union is shown that has an operand which names a model. -/
def unionShape? (type : TypeExpr) : Option FieldShape :=
  (type.operands?.filter (·.any fun item => (extraction.model? item).isSome)).map fun items =>
    .union (items.map extraction.refOf)

/-- How a field of a type is shown. -/
def shapeOf (type : TypeExpr) : FieldShape :=
  ((extraction.functionShape? type).or <| (extraction.arrayShape? type).or <|
    (extraction.genericShape? type).or (extraction.unionShape? type)).getD
    (.scalar (extraction.refOf type))

/-- How the value of an alias is shown. -/
def aliasShapeOf (type : TypeExpr) : FieldShape :=
  match type.operands? with
  | some items => .union (items.map extraction.refOf)
  | none =>
    if extraction.scope.isValueLike type then .scalar (extraction.refOf type)
    else extraction.shapeOf type

/-- The types of the fields of members. -/
def memberTypes (members : List Member) : List TypeExpr :=
  (extraction.shownMembers members).map fieldType

/-- The fields of members. -/
def memberFieldsOf (members : List Member) : List SchemaField :=
  (extraction.shownMembers members).map fun member =>
    ⟨member.name, member.optional, extraction.shapeOf (fieldType member)⟩

/-- The types of the fields of an alias: those of its members, or the type of its value. -/
def aliasTypes (declared : TypeExpr) : List TypeExpr :=
  match declared.shape with
  | .object members signatures =>
    if !members.isEmpty || signatures.isEmpty then extraction.memberTypes members else [declared]
  | .indexedAccess _ _ => [(extraction.scope.access? declared).getD declared]
  | _ => [declared]

/-- The fields of an alias. -/
def aliasFieldsOf (declared : TypeExpr) : List SchemaField :=
  match declared.shape with
  | .object members signatures =>
    if !members.isEmpty || signatures.isEmpty then extraction.memberFieldsOf members
    else [⟨SchemaField.aliasValue, false, extraction.aliasShapeOf declared⟩]
  | _ =>
    (extraction.aliasTypes declared).map fun type =>
      ⟨SchemaField.aliasValue, false, extraction.aliasShapeOf type⟩

/-! ### References -/

/-- The models that a parameter refers to: that of its elements if it is an array, and the one that
it is shown as. -/
def argumentReferences (parameter : Parameter) (argument : FunctionArgument) : List String :=
  (parameter.type.bind extraction.elementModel?).toList ++ argument.type.model?.toList

/-- The models that a field of a type refers to, given the shape it is shown with: those that the
shape names, and with each parameter what it refers to. -/
def references (type : TypeExpr) : FieldShape → List String
  | .function arguments returned =>
    (List.zipWith extraction.argumentReferences (type.callSignatures.flatMap (·.parameters))
      arguments).flatten ++ returned.model?.toList
  | shape => shape.models

/-- A function refers to what its parameters refer to, and then to the model that it returns. -/
theorem references_function {type : TypeExpr} {signature : Signature}
    (callable : type.callSignatures = [signature]) (returned : FunctionReturn) :
    extraction.references type (.function (signature.parameters.map extraction.argumentOf) returned) =
      (signature.parameters.flatMap fun parameter =>
        extraction.argumentReferences parameter (extraction.argumentOf parameter)) ++
          returned.model?.toList := by
  simp [references, callable, List.zipWith_map_right, List.zipWith_self, List.flatMap_def]

/-- The models that fields of types refer to. -/
def fieldReferences (types : List TypeExpr) (schema : List SchemaField) : List String :=
  (List.zipWith (fun type field => extraction.references type field.shape) types schema).flatten

/-- One field refers to what its type and shape refer to. -/
@[simp]
theorem fieldReferences_singleton (type : TypeExpr) (field : SchemaField) :
    extraction.fieldReferences [type] [field] = extraction.references type field.shape := by
  simp [fieldReferences]

/-- The fields of members refer to what their types refer to, one after the other. -/
theorem fieldReferences_memberFieldsOf (members : List Member) :
    extraction.fieldReferences (extraction.memberTypes members)
        (extraction.memberFieldsOf members) =
      (extraction.shownMembers members).flatMap fun member =>
        extraction.references (fieldType member) (extraction.shapeOf (fieldType member)) := by
  simp [fieldReferences, memberTypes, memberFieldsOf, List.zipWith_map_left,
    List.zipWith_map_right, List.zipWith_self, List.flatMap_def]

/-- The model of what an indexed access indexes. -/
def indexedModel? (declared : TypeExpr) : Option String :=
  match declared.shape with
  | .indexedAccess object _ => extraction.model? object
  | _ => none

end Extraction

namespace Noting.Yields

open Extraction

variable (extraction : Extraction)

/-! ### Single types -/

/-- Resolving a type yields how it is shown and notes the model it is shown as. -/
theorem resolve (type : TypeExpr) :
    Yields (extraction.resolve type) (extraction.refOf type)
      (extraction.refOf type).model?.toList := by
  unfold Extraction.resolve Extraction.refOf
  cases extraction.model? type with
  | none => exact pure _
  | some id => exact (note id).bind_pure (pure _)

/-- Types that are resolved one by one are shown one by one. -/
theorem resolveAll (types : List TypeExpr) :
    Yields (types.mapM extraction.resolve) (types.map extraction.refOf)
      ((types.map extraction.refOf).filterMap (·.model?)) := by
  have each := mapM (resolve extraction) types
  rwa [← List.filterMap_eq_flatMap_toList (fun type => (extraction.refOf type).model?) types,
    ← Function.comp_def TypeRef.model?, ← List.filterMap_map] at each

/-- Reading a parameter yields how it is shown and notes what it refers to. -/
theorem argument (parameter : Parameter) :
    Yields (extraction.argument parameter) (extraction.argumentOf parameter)
      (extraction.argumentReferences parameter (extraction.argumentOf parameter)) := by
  unfold Extraction.argument Extraction.argumentReferences Extraction.argumentOf
  cases parameter.type with
  | none => exact pure _
  | some type =>
    simp only [Option.bind_some, Option.map_some, Option.getD_some]
    cases extraction.elementModel? type with
    | none => exact (resolve extraction type).bind_pure (pure _)
    | some id => exact (note id).bind ((resolve extraction type).bind_pure (pure _))

/-- Reading a returned type yields how it is shown and notes the model it is shown as. -/
theorem returned (type : TypeExpr) :
    Yields (extraction.returned type) (extraction.returnOf type)
      (extraction.returnOf type).model?.toList := by
  unfold Extraction.returned Extraction.returnOf
  cases extraction.elementModel? type with
  | none => exact (resolve extraction type).bind_pure (pure _)
  | some id => exact (note id).bind_pure (pure _)

/-! ### Detectors -/

/-- For a type, an action finds a shape or none. If it finds one it notes what a field of the type
with that shape refers to, and otherwise it notes nothing. -/
def Finds (type : TypeExpr) (action : Noting (Option FieldShape)) (found : Option FieldShape) :
    Prop :=
  Yields action found (found.elim [] (extraction.references type))

/-- The detector of functions finds the shape of a type that can be called in one way. -/
theorem function? (type : TypeExpr) :
    Finds extraction type (Extraction.function? extraction type)
      (extraction.functionShape? type) := by
  unfold Extraction.function? Extraction.functionShape?
  rcases h : type.callSignatures with _ | ⟨signature, _ | ⟨second, more⟩⟩
  · exact pure none
  · have parameters := mapM (argument extraction) signature.parameters
    have result := returned extraction (signature.returnType.getD (.keyword "any"))
    unfold Finds
    rw [Option.elim_some, references_function extraction h]
    exact parameters.bind (result.bind_pure (pure _))
  · exact pure none

/-- The detector of arrays finds the shape of an array type. -/
theorem array? (type : TypeExpr) :
    Finds extraction type (Extraction.array? extraction type) (extraction.arrayShape? type) := by
  unfold Extraction.array? Extraction.arrayShape?
  cases type.element? with
  | none => exact pure none
  | some element => exact (resolve extraction element).bind_pure (pure _)

/-- The detector of generic types finds the shape of a named type with arguments. -/
theorem generic? (type : TypeExpr) :
    Finds extraction type (Extraction.generic? extraction type)
      (extraction.genericShape? type) := by
  unfold Extraction.generic? Extraction.genericShape?
  rcases type.shape with _ | _ | ⟨name, _ | ⟨first, rest⟩⟩ | _
  case reference.cons => exact (resolveAll extraction (first :: rest)).bind_pure (pure _)
  all_goals exact pure none

/-- The detector of unions finds the shape of a union with an operand that names a model. -/
theorem union? (type : TypeExpr) :
    Finds extraction type (Extraction.union? extraction type) (extraction.unionShape? type) := by
  unfold Extraction.union? Extraction.unionShape?
  cases type.operands? with
  | none => exact pure none
  | some items =>
    simp only [Option.filter_some]
    split_ifs with named
    · exact (resolveAll extraction items).bind_pure (pure _)
    · exact pure none

/-- Of two searches after each other the second counts only if the first finds nothing. -/
theorem Finds.or {type : TypeExpr} {detector : Detector} {rest : List Detector}
    {first later : Option FieldShape}
    (h : Finds extraction type (detector extraction type) first)
    (hr : Finds extraction type (extraction.firstShape type rest) later) :
    Finds extraction type (extraction.firstShape type (detector :: rest)) (first.or later) := by
  unfold Extraction.firstShape
  cases first with
  | none => exact h.pure_bind hr
  | some shape => exact h.bind_pure (pure _)

/-- Without detectors no shape is found and nothing noted. -/
theorem firstShape_nil (type : TypeExpr) :
    Finds extraction type (extraction.firstShape type []) none := pure none

/-- A type is shown with its shape, and what is noted is what a field of that shape refers to. -/
theorem classify (type : TypeExpr) :
    Yields (extraction.classify type) (extraction.shapeOf type)
      (extraction.references type (extraction.shapeOf type)) := by
  have found := (function? extraction type).or extraction <|
    (array? extraction type).or extraction <| (generic? extraction type).or extraction <|
      (union? extraction type).or extraction (firstShape_nil extraction type)
  rw [Option.or_none] at found
  unfold Extraction.classify Extraction.shapeOf
  generalize (extraction.functionShape? type).or _ = shape at found ⊢
  cases shape with
  | none => exact found.pure_bind ((resolve extraction type).bind_pure (pure _))
  | some shape => exact found.bind_pure (pure _)

/-! ### Fields -/

/-- Making a field yields the shape of its type and notes what the field refers to. -/
theorem field (name : String) (optional : Bool) (type : TypeExpr) :
    Yields (extraction.field name optional type) ⟨name, optional, extraction.shapeOf type⟩
      (extraction.references type (extraction.shapeOf type)) :=
  (classify extraction type).bind_pure (pure _)

/-- The members of a declaration are shown as fields, and what these refer to is noted. -/
theorem memberFields (members : List Member) :
    Yields (extraction.memberFields members) (extraction.memberFieldsOf members)
      (extraction.fieldReferences (extraction.memberTypes members)
        (extraction.memberFieldsOf members)) := by
  have each := mapM (fun member : Member =>
    field extraction member.name member.optional (fieldType member))
    (extraction.shownMembers members)
  rw [fieldReferences_memberFieldsOf]
  exact each

/-- Showing the value of an alias yields its shape and notes what that refers to. -/
theorem aliasShape (type : TypeExpr) :
    Yields (extraction.aliasShape type) (extraction.aliasShapeOf type)
      (extraction.references type (extraction.aliasShapeOf type)) := by
  unfold Extraction.aliasShape Extraction.aliasShapeOf
  cases type.operands? with
  | some items => exact (resolveAll extraction items).bind_pure (pure _)
  | none =>
    simp only
    split_ifs with plain
    · exact (resolve extraction type).bind_pure (pure _)
    · exact classify extraction type

/-- An alias of no object type yields one field and notes what that refers to. -/
theorem aliasField (type : TypeExpr) :
    Yields (extraction.aliasField type)
      [⟨SchemaField.aliasValue, false, extraction.aliasShapeOf type⟩]
      (extraction.references type (extraction.aliasShapeOf type)) :=
  (aliasShape extraction type).bind_pure (pure _)

/-- An alias is shown as fields. The model that it indexes is noted first, and then what the fields
refer to. -/
theorem aliasFields (declared : TypeExpr) :
    Yields (extraction.aliasFields declared) (extraction.aliasFieldsOf declared)
      ((extraction.indexedModel? declared).toList ++
        extraction.fieldReferences (extraction.aliasTypes declared)
          (extraction.aliasFieldsOf declared)) := by
  unfold Extraction.aliasFields Extraction.aliasFieldsOf Extraction.indexedModel?
    Extraction.aliasTypes
  cases declared.shape
  case object members signatures =>
    simp only
    split_ifs with fields
    · exact memberFields extraction members
    · simpa using aliasField extraction declared
  case indexedAccess object index =>
    have value := aliasField extraction ((extraction.scope.access? declared).getD declared)
    simp only [List.map_cons, List.map_nil, fieldReferences_singleton]
    cases extraction.model? object with
    | none => exact value
    | some id => exact (note id).bind value
  all_goals simpa using aliasField extraction declared

end Noting.Yields

end TypeAtlas
