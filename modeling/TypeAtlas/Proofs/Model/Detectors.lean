import Mathlib.Data.List.Perm.Basic
import TypeAtlas.Proofs.Model.Classification

/-!
# The order of the detectors

The shape of a field is the first one that a detector finds. At most one detector finds one, because
no type can be called and be an array, a named type or a union as well, and a detector that finds
nothing notes nothing. So they can be asked in any order.

Main statement: `Extraction.classifiesAlike`. For every member and every value of an alias, and
whichever names have models, the field and what is noted for it are the same in every order, and the
kind of the shape tells the form of the type. The value of an alias comes to the detectors only if
it is neither a union nor a plain value; in which order they are asked makes no difference to the
field of the alias either.
-/

set_option autoImplicit false

namespace TypeAtlas

namespace Extraction

variable (extraction : Extraction)

/-! ### Fields in an order of the detectors -/

/-- What a field is made for. -/
inductive FieldSource where
  | member (decl : Member)
  /-- The type that an alias stands for. -/
  | value (type : TypeExpr)

namespace FieldSource

/-- The name of the field. -/
def name : FieldSource → String
  | .member decl => decl.name
  | .value _ => SchemaField.aliasValue

/-- Whether the field is optional. -/
def optional : FieldSource → Bool
  | .member decl => decl.optional
  | .value _ => false

/-- The type of the field. -/
def type : FieldSource → TypeExpr
  | .member decl => fieldType decl
  | .value type => type

end FieldSource

/-- The shape of a type if the detectors are asked in this order. -/
def classifyIn (order : List Detector) (type : TypeExpr) : Noting FieldShape := do
  match ← extraction.firstShape type order with
  | some shape => return shape
  | none => return .scalar (← extraction.resolve type)

/-- The field for a source if the detectors are asked in this order. -/
def fieldIn (order : List Detector) (source : FieldSource) : Noting SchemaField := do
  return ⟨source.name, source.optional, ← extraction.classifyIn order source.type⟩

/-- The shape of the value of an alias if the detectors are asked in this order. -/
def aliasShapeIn (order : List Detector) (type : TypeExpr) : Noting FieldShape := do
  match type.operands? with
  | some items => return .union (← items.mapM extraction.resolve)
  | none =>
    if extraction.scope.isValueLike type then return .scalar (← extraction.resolve type)
    else extraction.classifyIn order type

/-- The shape that a detector finds before anything has been noted. -/
def found (type : TypeExpr) (detector : Detector) : Option FieldShape :=
  ((detector extraction type).run []).1

/-! ### What each detector finds -/

section

variable {type : TypeExpr} {detector : Detector}

/-- What a detector finds before anything has been noted is the shape that it always finds. -/
theorem found_eq {shape : Option FieldShape}
    (h : Noting.Yields.Finds extraction type (detector extraction type) shape) :
    extraction.found type detector = shape := by
  rw [found, h]

/-- Whatever has been noted, a detector finds what it finds at first, and what it notes can be read
off the shape. -/
theorem finds_of_mem (type : TypeExpr) (mem : detector ∈ detectors) :
    Noting.Yields.Finds extraction type (detector extraction type) (extraction.found type detector) := by
  have own {shape : Option FieldShape}
      (h : Noting.Yields.Finds extraction type (detector extraction type) shape) :
      Noting.Yields.Finds extraction type (detector extraction type)
        (extraction.found type detector) := (extraction.found_eq h).symm ▸ h
  simp only [detectors, List.mem_cons, List.not_mem_nil, or_false] at mem
  rcases mem with rfl | rfl | rfl | rfl
  · exact own (Noting.Yields.function? extraction type)
  · exact own (Noting.Yields.array? extraction type)
  · exact own (Noting.Yields.generic? extraction type)
  · exact own (Noting.Yields.union? extraction type)

end

/-- Detectors that are asked one after the other find the first shape that one of them finds. -/
theorem finds_firstShape (type : TypeExpr) :
    {order : List Detector} → (∀ detector ∈ order, detector ∈ detectors) →
      Noting.Yields.Finds extraction type (extraction.firstShape type order)
        (order.filterMap (extraction.found type)).head?
  | [], _ => Noting.Yields.firstShape_nil extraction type
  | detector :: rest, known => by
    obtain ⟨first, later⟩ := List.forall_mem_cons.mp known
    have both := (extraction.finds_of_mem type first).or extraction
      (finds_firstShape type later)
    rw [List.filterMap_cons]
    cases one : extraction.found type detector with
    | none => rwa [one, Option.none_or] at both
    | some shape => rwa [one, Option.some_or] at both

/-- The shapes that the detectors find, in their own order. -/
theorem filterMap_found (type : TypeExpr) :
    detectors.filterMap (extraction.found type) =
      (extraction.functionShape? type).toList ++ (extraction.arrayShape? type).toList ++
        (extraction.genericShape? type).toList ++ (extraction.unionShape? type).toList := by
  have each (detector : Detector) (rest : List Detector) :
      (detector :: rest).filterMap (extraction.found type) =
        (extraction.found type detector).toList ++ rest.filterMap (extraction.found type) := by
    rw [List.filterMap_cons]
    cases extraction.found type detector <;> rfl
  rw [detectors, each, each, each, each,
    extraction.found_eq (Noting.Yields.function? extraction type),
    extraction.found_eq (Noting.Yields.array? extraction type),
    extraction.found_eq (Noting.Yields.generic? extraction type),
    extraction.found_eq (Noting.Yields.union? extraction type)]
  simp

/-- At most one detector finds a shape, because each looks for another form of types. -/
theorem length_filterMap_found_le (type : TypeExpr) :
    (detectors.filterMap (extraction.found type)).length ≤ 1 := by
  have atMost (shape : Option FieldShape) : shape.toList.length ≤ 1 := by
    cases shape <;> simp
  rw [filterMap_found]
  obtain ⟨shape, text⟩ := type
  cases shape
  case function | object =>
    simp [arrayShape?, genericShape?, unionShape?, TypeExpr.element?, TypeExpr.operands?, atMost]
  all_goals simp [functionShape?, arrayShape?, genericShape?, unionShape?, TypeExpr.callSignatures,
    TypeExpr.element?, TypeExpr.operands?, atMost]

/-! ### Kinds of shapes -/

/-- The kind of shape that the form of a type leads to. -/
def kindFor (type : TypeExpr) : String :=
  match type.shape with
  | .function _ | .object _ [_] => "function"
  | .array _ => "array"
  | .reference _ (_ :: _) => "generic"
  | .union items =>
    if items.any fun item => (extraction.model? item).isSome then "union" else "default"
  | _ => "default"

/-- A field has the kind of shape that the form of its type leads to. -/
theorem kind_shapeOf (type : TypeExpr) :
    (extraction.shapeOf type).kind = extraction.kindFor type := by
  obtain ⟨shape, text⟩ := type
  cases shape
  case object members signatures => rcases signatures with _ | ⟨first, _ | ⟨second, more⟩⟩ <;> rfl
  case reference name arguments => cases arguments <;> rfl
  case union items =>
    unfold shapeOf unionShape? kindFor
    simp only [TypeExpr.operands?, Option.filter_some]
    split_ifs <;> rfl
  all_goals rfl

/-- A kind belongs to one form of types. -/
theorem kindFor_eq_iff (type : TypeExpr) :
    (extraction.kindFor type = "function" ↔ ∃ signature, type.callSignatures = [signature]) ∧
      (extraction.kindFor type = "array" ↔ ∃ element, type.shape = .array element) ∧
      (extraction.kindFor type = "generic" ↔
        ∃ name arguments, type.shape = .reference name arguments ∧ arguments ≠ []) ∧
      (extraction.kindFor type = "union" ↔
        ∃ items, type.shape = .union items ∧ ∃ item ∈ items, (extraction.model? item).isSome) := by
  obtain ⟨shape, text⟩ := type
  cases shape
  case object members signatures =>
    rcases signatures with _ | ⟨first, _ | ⟨second, more⟩⟩ <;>
      simp [kindFor, TypeExpr.callSignatures]
  case reference name arguments => cases arguments <;> simp [kindFor, TypeExpr.callSignatures]
  case union items =>
    simp only [kindFor, List.any_eq_true]
    split_ifs <;> simp_all [TypeExpr.callSignatures]
  all_goals simp [kindFor, TypeExpr.callSignatures]

/-- A shape is one of the four that are looked for or that of a type alone. -/
theorem kind_cases (shape : FieldShape) :
    shape.kind = "default" ↔
      shape.kind ≠ "function" ∧ shape.kind ≠ "array" ∧ shape.kind ≠ "generic" ∧
        shape.kind ≠ "union" := by
  cases shape <;> simp [FieldShape.kind]

/-- Methods, getters and setters can be called in one way. -/
theorem exists_callSignatures_fieldType {decl : Member} (other : decl.isProperty = false) :
    ∃ signature, (fieldType decl).callSignatures = [signature] := by
  unfold Member.isProperty at other
  unfold fieldType
  cases form : decl.form with
  | property type => simp [form] at other
  | method | getter | setter => exact ⟨_, rfl⟩

/-! ### Every order -/

section

variable {order : List Detector} (any : order.Perm detectors)

include any

/-- In every order the detectors find the same. -/
theorem head?_filterMap_found (type : TypeExpr) :
    (order.filterMap (extraction.found type)).head? =
      (detectors.filterMap (extraction.found type)).head? := by
  have same := any.filterMap (extraction.found type)
  have few := extraction.length_filterMap_found_le type
  rcases one : detectors.filterMap (extraction.found type) with _ | ⟨shape, _ | ⟨second, more⟩⟩
  · rw [one] at same
    rw [same.eq_nil]
  · rw [one] at same
    rw [List.perm_singleton.mp same]
  · rw [one] at few
    simp at few

/-- In every order a type is classified in the same way, and the same is noted. -/
theorem classifyIn_eq (type : TypeExpr) :
    extraction.classifyIn order type = extraction.classify type := by
  have here := extraction.finds_firstShape type fun detector mem => any.mem_iff.mp mem
  have there := extraction.finds_firstShape type fun detector mem => mem
  rw [extraction.head?_filterMap_found any type] at here
  have same : extraction.firstShape type order = extraction.firstShape type detectors :=
    funext fun notes => (here notes).trans (there notes).symm
  rw [classifyIn, same]
  rfl

end

/-- The detectors find the form of the type of a source, whatever order they are asked in. The field
and what is noted are the same in every order, at most one detector finds a shape, and one that
finds none notes nothing. The kind of the shape tells the form of the type. -/
structure ClassifiesAlike (source : FieldSource) : Prop where
  field : ∀ order : List Detector, order.Perm detectors →
    extraction.fieldIn order source = extraction.field source.name source.optional source.type
  aliasShape : ∀ order : List Detector, order.Perm detectors →
    extraction.aliasShapeIn order source.type = extraction.aliasShape source.type
  one : ∀ notes : Notes,
    (detectors.filterMap fun detector => ((detector extraction source.type).run notes).1).length ≤ 1
  silent : ∀ detector ∈ detectors, ∀ notes : Notes,
    ((detector extraction source.type).run notes).1 = none →
      ((detector extraction source.type).run notes).2 = notes
  function : ∀ notes : Notes,
    ((extraction.classify source.type).run notes).1.kind = "function" ↔
      ∃ signature, source.type.callSignatures = [signature]
  callable : ∀ decl, source = .member decl → decl.isProperty = false →
    ∃ signature, source.type.callSignatures = [signature]
  array : ∀ notes : Notes,
    ((extraction.classify source.type).run notes).1.kind = "array" ↔
      ∃ element, source.type.shape = .array element
  generic : ∀ notes : Notes,
    ((extraction.classify source.type).run notes).1.kind = "generic" ↔
      ∃ name arguments, source.type.shape = .reference name arguments ∧ arguments ≠ []
  union : ∀ notes : Notes,
    ((extraction.classify source.type).run notes).1.kind = "union" ↔
      ∃ items, source.type.shape = .union items ∧
        ∃ item ∈ items, (extraction.model? item).isSome
  otherwise : ∀ notes : Notes,
    ((extraction.classify source.type).run notes).1.kind = "default" ↔
      (¬ ∃ signature, source.type.callSignatures = [signature]) ∧
        (¬ ∃ element, source.type.shape = .array element) ∧
        (¬ ∃ name arguments, source.type.shape = .reference name arguments ∧ arguments ≠ []) ∧
        ¬ ∃ items, source.type.shape = .union items ∧
          ∃ item ∈ items, (extraction.model? item).isSome

/-- Every member and every value of an alias is classified in the same way in every order of the
detectors, whichever names have models. -/
theorem classifiesAlike (source : FieldSource) : extraction.ClassifiesAlike source := by
  have kind (notes : Notes) :
      ((extraction.classify source.type).run notes).1.kind = extraction.kindFor source.type := by
    rw [Noting.Yields.classify extraction source.type notes, kind_shapeOf]
  obtain ⟨function, array, generic, union⟩ := extraction.kindFor_eq_iff source.type
  refine ⟨fun order any => ?_, fun order any => ?_, fun notes => ?_, fun detector mem notes none => ?_,
    fun notes => by rw [kind, function], ?_, fun notes => by rw [kind, array],
    fun notes => by rw [kind, generic], fun notes => by rw [kind, union], fun notes => ?_⟩
  · rw [fieldIn, extraction.classifyIn_eq any]
    rfl
  · rw [aliasShapeIn, extraction.classifyIn_eq any]
    rfl
  · have same : ∀ detector ∈ detectors,
        ((detector extraction source.type).run notes).1 = extraction.found source.type detector := by
      intro detector mem
      rw [extraction.finds_of_mem source.type mem notes]
    rw [List.filterMap_congr same]
    exact extraction.length_filterMap_found_le source.type
  · have finds := extraction.finds_of_mem source.type mem notes
    rw [finds] at none ⊢
    rw [show extraction.found source.type detector = Option.none from none]
    rfl
  · rintro decl rfl other
    exact exists_callSignatures_fieldType other
  · rw [kind_cases, ne_eq, ne_eq, ne_eq, ne_eq, kind, function, array, generic, union]

end Extraction

end TypeAtlas
