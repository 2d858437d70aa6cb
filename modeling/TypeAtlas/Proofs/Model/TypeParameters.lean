import TypeAtlas.Proofs.Declarations.Expansion
import TypeAtlas.Proofs.Declarations.Signatures
import TypeAtlas.Proofs.Model.Alternatives
import TypeAtlas.Proofs.Model.Candidates
import TypeAtlas.Proofs.Model.Classes
import TypeAtlas.Proofs.Text.Qualifiers

/-!
# How type parameters are shown

Where the type of a field is classified, types are looked up one by one: the type itself, the
elements of an array, the arguments of a named type, the operands of a union, and the parameters and
the result of a function (`Position`). What is noted for the field is what is noted at these
positions (`Extraction.references_eq_flatMap`). Each type is looked up by its name alone, whatever
declares the name where the type is written.

Main statement: `Model.showTypeParameters_ofTree`. A type parameter whose name no model has is shown
as this name at each of the positions, and nothing is noted there. In two cases no position is
looked at and the field shows the text of its whole type: for a union none of whose operands names a
model, and for an alias of a plain value (`Extraction.IsWhole`). What the text of a whole type or of
an array is shown as is told where no qualifier is cut out of it and no model has it for a name
(`Extraction.ReadsInFull`).

A type parameter that has its name in common with a model is taken for that model
(`Extraction.noted_of_known`), and then the declaration comes to depend on a model that it does not
mention, or even on itself (`Model.shown_as_namesakes`).
-/

set_option autoImplicit false

namespace TypeAtlas

/-! ### Names as types -/

/-- A type is a name: it has no arguments, and if it was written it was written as the name. -/
structure TypeExpr.IsName (name : String) (type : TypeExpr) : Prop where
  shape : type.shape = .reference name []
  written : type.text = name ∨ type.text = ""

/-- A text without parentheses has no qualifier. -/
theorem Text.unqualified_of_notMem {text : String} (plain : '(' ∉ text.toList) :
    unqualified text = text :=
  unqualified_of_not_infix fun start => plain (start.subset (by decide))

namespace Scope

variable (scope : Scope) {type : TypeExpr}

/-- A name is called by itself, also where it names an alias. -/
theorem nameOf_of_isName {name : String} (h : type.IsName name) : scope.nameOf type = name := by
  obtain ⟨shape, text⟩ := type
  obtain ⟨same, written⟩ := h
  obtain rfl : shape = .reference name [] := same
  by_cases empty : text = ""
  · -- an alias that the type names is the name itself
    have named : (scope.aliasName? ⟨.reference name [], text⟩).getD name = name := by
      simp only [aliasName?, TypeExpr.referenceName?, Option.filter_some]
      split_ifs <;> rfl
    simpa [nameOf, TypeExpr.declaredText?, empty, TypeExpr.print] using named
  · obtain rfl : text = name := written.resolve_right empty
    simp [nameOf, TypeExpr.declaredText?, empty]

/-- What is neither a named type nor an indexed access stands for itself. -/
theorem apparent_of_shape (named : ∀ name arguments, type.shape ≠ .reference name arguments)
    (accessed : ∀ owner index, type.shape ≠ .indexedAccess owner index) :
    scope.apparent type = type := by
  have settled : scope.declarations.Settled type :=
    ⟨fun ⟨name, arguments, shape, _⟩ => named name arguments shape, accessed⟩
  exact (standsFor_of_expands (.refl type) settled (Nat.zero_le scope.hops)).apparent

end Scope

/-! ### Positions -/

/-- Where in the type of a field a type can be looked up. -/
inductive Position where
  | itself
  | element
  /-- One of the arguments of a named type. -/
  | argument (place : Nat)
  /-- One of the operands of a union. -/
  | operand (place : Nat)
  /-- The type of one of the parameters of a function. -/
  | parameter (place : Nat)
  /-- What a function returns. -/
  | result
deriving DecidableEq

namespace TypeExpr

/-- The arguments of a named type. -/
def arguments (type : TypeExpr) : List TypeExpr :=
  match type.shape with
  | .reference _ arguments => arguments
  | _ => []

/-- The signature of a type that can be called in one way. -/
def signature? (type : TypeExpr) : Option Signature :=
  match type.callSignatures with
  | [signature] => some signature
  | _ => none

/-- The type at a position. -/
def typeAt? (type : TypeExpr) : Position → Option TypeExpr
  | .itself => some type
  | .element => type.element?
  | .argument place => type.arguments[place]?
  | .operand place => type.operands?.bind (·[place]?)
  | .parameter place =>
    type.signature?.bind fun signature => signature.parameters[place]?.bind (·.type)
  | .result => type.signature?.bind (·.returnType)

/-- The types at all positions other than that of the type itself. -/
def inner (type : TypeExpr) : List TypeExpr :=
  type.element?.toList ++ type.arguments ++ type.operands?.toList.flatten ++
    type.signature?.toList.flatMap fun signature =>
      signature.parameters.filterMap (·.type) ++ signature.returnType.toList

/-- Only at the position of the type itself is there another type. -/
theorem mem_inner_of_typeAt? {type part : TypeExpr} {position : Position}
    (found : type.typeAt? position = some part) (other : position ≠ .itself) :
    part ∈ type.inner := by
  simp only [inner, List.mem_append, List.mem_flatten, List.mem_flatMap, Option.mem_toList]
  cases position with
  | itself => exact absurd rfl other
  | element => exact .inl (.inl (.inl found))
  | argument place => exact .inl (.inl (.inr (List.mem_of_getElem? found)))
  | operand place =>
    obtain ⟨items, union, here⟩ := Option.bind_eq_some_iff.mp found
    exact .inl (.inr ⟨items, union, List.mem_of_getElem? here⟩)
  | parameter place =>
    obtain ⟨signature, callable, here⟩ := Option.bind_eq_some_iff.mp found
    obtain ⟨parameter, listed, typed⟩ := Option.bind_eq_some_iff.mp here
    exact .inr ⟨signature, callable,
      .inl (List.mem_filterMap.mpr ⟨parameter, List.mem_of_getElem? listed, typed⟩)⟩
  | result =>
    obtain ⟨signature, callable, here⟩ := Option.bind_eq_some_iff.mp found
    exact .inr ⟨signature, callable, .inr here⟩

end TypeExpr

namespace FieldShape

/-- What a shape shows at a position. Where a function returns an array of a model, this is none of
the types that it is given. -/
def shownAt? : FieldShape → Position → Option TypeRef
  | .scalar type, .itself => some type
  | .array element, .element => some element
  | .generic _ arguments, .argument place => arguments[place]?
  | .union types, .operand place => types[place]?
  | .function arguments _, .parameter place => arguments[place]?.map (·.type)
  | .function _ (.type type), .result => some type
  | _, _ => none

/-- The model that a shape names at a position. -/
def modelAt? : FieldShape → Position → Option String
  | .function _ returned, .result => returned.model?
  | shape, position => (shape.shownAt? position).bind (·.model?)

/-- The positions that a shape shows, in the order in which they are looked at. -/
def positions : FieldShape → List Position
  | .scalar _ => [.itself]
  | .array _ => [.element]
  | .generic _ arguments => (List.range arguments.length).map .argument
  | .union types => (List.range types.length).map .operand
  | .function arguments _ => (List.range arguments.length).map .parameter ++ [.result]

/-- A shape shows something at its positions only. -/
theorem mem_positions_of_shownAt? {shape : FieldShape} {position : Position} {shown : TypeRef}
    (h : shape.shownAt? position = some shown) : position ∈ shape.positions := by
  have inside {α : Type} {list : List α} {place : Nat} {a : α} (found : list[place]? = some a) :
      place ∈ List.range list.length :=
    List.mem_range.mpr (List.getElem?_eq_some_iff.mp found).1
  cases shape <;> cases position
  case scalar.itself | array.element => exact List.mem_singleton_self _
  case generic.argument | union.operand => exact List.mem_map_of_mem (inside h)
  case function.parameter =>
    obtain ⟨argument, found, -⟩ := Option.map_eq_some_iff.mp h
    exact List.mem_append_left _ (List.mem_map_of_mem (inside found))
  case function.result => exact List.mem_append_right _ (List.mem_singleton_self _)
  all_goals cases h

end FieldShape

namespace Extraction

variable (extraction : Extraction)

/-! ### What is noted -/

/-- What is noted for a field of a type at a position. For a parameter of an array type, this is the
model of its elements as well. -/
def notedAt (type : TypeExpr) (shape : FieldShape) (position : Position) : List String :=
  match position with
  | .parameter _ =>
    ((type.typeAt? position).bind extraction.elementModel?).toList ++ (shape.modelAt? position).toList
  | _ => (shape.modelAt? position).toList

/-- What is told for each item of a list can be told for each place of it. -/
theorem flatMap_range_length {α β : Type} {list : List α} {told : Nat → List β} {tell : α → List β}
    (same : ∀ place a, list[place]? = some a → told place = tell a) :
    (List.range list.length).flatMap told = list.flatMap tell := by
  rw [List.flatMap_def, List.flatMap_def]
  refine congrArg List.flatten (List.ext_getElem (by simp) fun place inside _ => ?_)
  rw [List.length_map, List.length_range] at inside
  simp [same place list[place] (List.getElem?_eq_getElem inside)]

/-- What is noted for a field is what is noted at the positions that it shows, in their order. -/
theorem references_eq_flatMap {type : TypeExpr} {shape : FieldShape}
    (h : extraction.ShownAs type shape) :
    extraction.references type shape = shape.positions.flatMap (extraction.notedAt type shape) := by
  cases h with
  | @function signature callable returned =>
    have only : type.signature? = some signature := by rw [TypeExpr.signature?, callable]
    rw [references_function _ callable, FieldShape.positions, List.flatMap_append, List.flatMap_map,
      List.length_map]
    congr 1
    · refine (flatMap_range_length fun place parameter listed => ?_).symm
      simp [notedAt, FieldShape.modelAt?, FieldShape.shownAt?, TypeExpr.typeAt?, only, listed,
        argumentReferences]
    · simp [notedAt, FieldShape.modelAt?]
  | array element => simp [references, FieldShape.models, FieldShape.positions, notedAt,
      FieldShape.modelAt?, FieldShape.shownAt?]
  | generic name arguments =>
    rw [references, FieldShape.models, FieldShape.positions, List.flatMap_map,
      List.filterMap_eq_flatMap_toList]
    · refine (flatMap_range_length fun place shown listed => ?_).symm
      simp [notedAt, FieldShape.modelAt?, FieldShape.shownAt?, listed]
    · simp
  | union items =>
    rw [references, FieldShape.models, FieldShape.positions, List.flatMap_map,
      List.filterMap_eq_flatMap_toList]
    · refine (flatMap_range_length fun place shown listed => ?_).symm
      simp [notedAt, FieldShape.modelAt?, FieldShape.shownAt?, listed]
    · simp
  | scalar => simp [references, FieldShape.models, FieldShape.positions, notedAt,
      FieldShape.modelAt?, FieldShape.shownAt?]

/-! ### What is shown -/

/-- What a name is taken for: the model of that name, or else a text. -/
def namedRef (name : String) : TypeRef :=
  if name ∈ extraction.known then .model name else .text name

/-- A name is shown as what it is taken for. -/
theorem refOf_of_isName {name : String} (plain : '(' ∉ name.toList) {type : TypeExpr}
    (h : type.IsName name) : extraction.refOf type = extraction.namedRef name := by
  have named : extraction.nameOf type = name := by
    rw [nameOf, extraction.scope.nameOf_of_isName h, Text.unqualified_of_notMem plain]
  unfold refOf model? namedRef
  simp only [named, List.contains_iff_mem]
  split_ifs <;> rfl

/-- A name is no array of a model. -/
theorem elementModel?_of_isName {name : String} {type : TypeExpr} (h : type.IsName name) :
    extraction.elementModel? type = none := by
  rw [elementModel?, TypeExpr.element?, h.shape]
  rfl

/-- The value of an alias that is an array or can be called is shown like any other type. -/
theorem aliasShapeOf_of_shape {type : TypeExpr}
    (structural : type.element?.isSome ∨ type.callSignatures ≠ []) :
    extraction.aliasShapeOf type = extraction.shapeOf type := by
  have noOperands : type.operands? = none := by
    obtain ⟨shape, text⟩ := type
    cases shape <;> first | rfl | simp [TypeExpr.element?, TypeExpr.callSignatures] at structural
  have noValue : extraction.scope.isValueLike type = false := by
    obtain ⟨shape, text⟩ := type
    cases shape
    case array | function | object =>
      rw [Scope.isValueLike, Scope.apparent_of_shape] <;> simp
    all_goals simp [TypeExpr.element?, TypeExpr.callSignatures] at structural
  rw [aliasShapeOf, noOperands]
  simp [noValue]

/-- A field shows the text of its whole type: that of a union none of whose operands names a model,
or of a named type with arguments that is an alias of a plain value. -/
def IsWhole (type : TypeExpr) : Prop :=
  (∃ items ∈ type.operands?, ∀ item ∈ items, extraction.model? item = none) ∨
    type.arguments ≠ [] ∧ extraction.scope.isValueLike type = true

instance (type : TypeExpr) : Decidable (extraction.IsWhole type) :=
  inferInstanceAs (Decidable (_ ∨ _))

section

variable {type : TypeExpr} {shape : FieldShape}

/-- An array shows its elements. -/
theorem shapeOf_of_element? {element : TypeExpr} (array : type.element? = some element) :
    extraction.shapeOf type = .array (extraction.refOf element) := by
  obtain ⟨shape, text⟩ := type
  cases shape <;> cases array
  rfl

/-- There is a single way to call a type that has one signature. -/
theorem callSignatures_of_signature? {signature : Signature}
    (callable : type.signature? = some signature) : type.callSignatures = [signature] := by
  unfold TypeExpr.signature? at callable
  split at callable
  · rename_i signatures
    rw [signatures, Option.some.inj callable]
  · cases callable

variable (made : shape = extraction.shapeOf type ∨ shape = extraction.aliasShapeOf type)

include made

/-- A field shows what its type has at least one form for. -/
theorem shownAs_of_made : extraction.ShownAs type shape := by
  rcases made with rfl | rfl
  · exact extraction.shownAs_shapeOf type
  · exact extraction.shownAs_aliasShapeOf type

/-- The field of a name shows the name. -/
theorem shape_of_reference_nil {name : String} (named : type.shape = .reference name []) :
    shape = .scalar (extraction.refOf type) := by
  obtain ⟨typeShape, text⟩ := type
  obtain rfl : typeShape = .reference name [] := named
  rcases made with rfl | rfl
  · rfl
  · rw [aliasShapeOf]
    simp only [TypeExpr.operands?]
    split_ifs <;> rfl

/-- The field of a named type with arguments shows these, unless it is an alias of a plain value. -/
theorem shape_of_arguments (some : type.arguments ≠ []) :
    extraction.scope.isValueLike type = true ∧ shape = .scalar (extraction.refOf type) ∨
      ∃ name, shape = .generic name (type.arguments.map extraction.refOf) := by
  obtain ⟨typeShape, text⟩ := type
  cases typeShape
  case reference name arguments =>
    obtain ⟨first, rest, rfl⟩ := List.exists_cons_of_ne_nil some
    rcases made with rfl | rfl
    · exact .inr ⟨_, rfl⟩
    · rw [aliasShapeOf]
      simp only [TypeExpr.operands?]
      split_ifs with plain
      · exact .inl ⟨plain, rfl⟩
      · exact .inr ⟨_, rfl⟩
  all_goals exact absurd rfl some

/-- A type that is found at a position is shown there and noted if it names a model, or the field
shows the whole type. The type itself has to be a name for this, and no type an array of a model. -/
theorem shownAt_of_typeAt? {position : Position} {part : TypeExpr}
    (found : type.typeAt? position = some part)
    (bare : position = .itself → ∃ name, type.shape = .reference name [])
    (noArray : extraction.elementModel? part = none) :
    shape.shownAt? position = some (extraction.refOf part) ∧
        extraction.notedAt type shape position = (extraction.refOf part).model?.toList ∨
      extraction.IsWhole type ∧ shape = .scalar (extraction.refOf type) := by
  -- an array and what can be called are shown in the same way as the value of an alias
  have structural (h : type.element?.isSome ∨ type.callSignatures ≠ []) :
      shape = extraction.shapeOf type :=
    made.elim id fun asValue => asValue.trans (extraction.aliasShapeOf_of_shape h)
  cases position with
  | itself =>
    obtain ⟨name, named⟩ := bare rfl
    obtain rfl : type = part := Option.some.inj found
    obtain rfl := extraction.shape_of_reference_nil made named
    exact .inl ⟨rfl, rfl⟩
  | element =>
    have array : type.element? = some part := found
    obtain rfl := (structural (.inl (Option.isSome_of_mem array))).trans
      (extraction.shapeOf_of_element? array)
    exact .inl ⟨rfl, rfl⟩
  | argument place =>
    have listed : type.arguments[place]? = some part := found
    have some : type.arguments ≠ [] := List.ne_nil_of_mem (List.mem_of_getElem? listed)
    rcases extraction.shape_of_arguments made some with ⟨plain, whole⟩ | ⟨name, rfl⟩
    · exact .inr ⟨.inr ⟨some, plain⟩, whole⟩
    · refine .inl ?_
      simp [notedAt, FieldShape.modelAt?, FieldShape.shownAt?, listed]
  | operand place =>
    obtain ⟨items, union, listed⟩ := Option.bind_eq_some_iff.mp found
    rcases extraction.shape_of_items made union with ⟨none, whole⟩ | rfl
    · exact .inr ⟨.inl ⟨items, union, none⟩, whole⟩
    · refine .inl ?_
      simp [notedAt, FieldShape.modelAt?, FieldShape.shownAt?, listed]
  | parameter place =>
    obtain ⟨signature, only, here⟩ := Option.bind_eq_some_iff.mp found
    obtain ⟨parameter, listed, typed⟩ := Option.bind_eq_some_iff.mp here
    have callable := callSignatures_of_signature? only
    obtain rfl := (structural (.inr (by simp [callable]))).trans
      (extraction.shapeOf_of_callSignatures callable)
    refine .inl ?_
    simp [notedAt, FieldShape.modelAt?, FieldShape.shownAt?, found, listed, argumentOf, typed, noArray]
  | result =>
    obtain ⟨signature, only, returns⟩ := Option.bind_eq_some_iff.mp found
    have callable := callSignatures_of_signature? only
    obtain rfl := (structural (.inr (by simp [callable]))).trans
      (extraction.shapeOf_of_callSignatures callable)
    refine .inl ?_
    simp [notedAt, FieldShape.modelAt?, FieldShape.shownAt?, returnOf, returns, noArray,
      FunctionReturn.model?]

/-- Where a model has the name, a name is taken for it wherever it is looked up. -/
theorem noted_of_known {name : String} (plain : '(' ∉ name.toList) (known : name ∈ extraction.known)
    {position : Position} {part : TypeExpr} (found : type.typeAt? position = some part)
    (named : part.IsName name) :
    shape.shownAt? position = some (.model name) ∧ name ∈ extraction.references type shape ∨
      extraction.IsWhole type ∧ shape = .scalar (extraction.refOf type) := by
  have model : extraction.refOf part = .model name := by
    rw [extraction.refOf_of_isName plain named, namedRef, if_pos known]
  refine (extraction.shownAt_of_typeAt? made found ?_
    (extraction.elementModel?_of_isName named)).imp_left fun ⟨shown, noted⟩ => ?_
  · rintro rfl
    exact ⟨name, Option.some.inj found ▸ named.shape⟩
  · rw [model] at shown noted
    refine ⟨shown, ?_⟩
    rw [extraction.references_eq_flatMap (extraction.shownAs_of_made made), List.mem_flatMap]
    exact ⟨position, FieldShape.mem_positions_of_shownAt? shown, noted ▸ List.mem_singleton_self _⟩

end

/-! ### Types without a model -/

/-- The text of a type is its name as it is shown: no qualifier is cut out of it, and it is the name
of no model. -/
structure KeepsText (type : TypeExpr) : Prop where
  uncut : extraction.nameOf type = extraction.scope.nameOf type
  unknown : extraction.scope.nameOf type ∉ extraction.known

instance (type : TypeExpr) : Decidable (extraction.KeepsText type) :=
  decidable_of_iff (extraction.nameOf type = extraction.scope.nameOf type ∧
    extraction.scope.nameOf type ∉ extraction.known) ⟨fun h => ⟨h.1, h.2⟩, fun h => ⟨h.1, h.2⟩⟩

/-- What is shown as a text in the field of a type is shown in full: the whole type, if the field
shows it so, and the arrays in it. -/
structure ReadsInFull (type : TypeExpr) : Prop where
  whole : extraction.IsWhole type → extraction.KeepsText type
  arrays : ∀ part ∈ type.inner, part.element?.isSome → extraction.KeepsText part

instance (type : TypeExpr) : Decidable (extraction.ReadsInFull type) :=
  decidable_of_iff ((extraction.IsWhole type → extraction.KeepsText type) ∧
      ∀ part ∈ type.inner, part.element?.isSome → extraction.KeepsText part)
    ⟨fun h => ⟨h.1, h.2⟩, fun h => ⟨h.whole, h.arrays⟩⟩

/-- A field shows the text of its whole type and refers to nothing. -/
structure ShowsWhole (type : TypeExpr) (shape : FieldShape) : Prop where
  whole : extraction.IsWhole type
  alone : shape = .scalar (.text (extraction.scope.nameOf type))
  references : extraction.references type shape = []

/-- In the field of a type a name is shown as a text at each position, and an array of it by the
text of the array. Nothing is noted there. -/
structure ShowsAsText (name : String) (type : TypeExpr) (shape : FieldShape) : Prop where
  names : ∀ position part, type.typeAt? position = some part → part.IsName name →
    shape.shownAt? position = some (.text name) ∧ extraction.notedAt type shape position = [] ∨
      extraction.ShowsWhole type shape
  arrays : ∀ position part element, position ≠ .itself → type.typeAt? position = some part →
    part.element? = some element → element.IsName name →
      shape.shownAt? position = some (.text (extraction.scope.nameOf part)) ∧
          extraction.notedAt type shape position = [] ∨
        extraction.ShowsWhole type shape
  references : extraction.references type shape =
    shape.positions.flatMap (extraction.notedAt type shape)

section

variable {extraction}

/-- A type that keeps its text is shown as this text. -/
theorem KeepsText.refOf_eq {type : TypeExpr} (h : extraction.KeepsText type) :
    extraction.refOf type = .text (extraction.scope.nameOf type) := by
  have none : extraction.model? type = none := by
    rw [model?_eq_none_iff, h.uncut]
    exact h.unknown
  rw [refOf, none, h.uncut]

variable {type : TypeExpr} {shape : FieldShape}

/-- Where no model has the name of a type and the texts of types are shown in full, the field of a
type shows a name as a text. -/
theorem ReadsInFull.showsAsText (full : extraction.ReadsInFull type)
    (made : shape = extraction.shapeOf type ∨ shape = extraction.aliasShapeOf type) {name : String}
    (plain : '(' ∉ name.toList) (unknown : name ∉ extraction.known) :
    extraction.ShowsAsText name type shape := by
  have whole (h : extraction.IsWhole type ∧ shape = .scalar (extraction.refOf type)) :
      extraction.ShowsWhole type shape := by
    obtain ⟨isWhole, rfl⟩ := h
    rw [(full.whole isWhole).refOf_eq]
    exact ⟨isWhole, rfl, rfl⟩
  have text {type : TypeExpr} (named : type.IsName name) : extraction.refOf type = .text name := by
    rw [extraction.refOf_of_isName plain named, namedRef, if_neg unknown]
  refine ⟨fun position part found named => ?_, fun position part element other found array named => ?_,
    extraction.references_eq_flatMap (extraction.shownAs_of_made made)⟩
  · have bare : position = .itself → ∃ name, type.shape = .reference name [] := by
      rintro rfl
      exact ⟨name, Option.some.inj found ▸ named.shape⟩
    have shown := extraction.shownAt_of_typeAt? made found bare
      (extraction.elementModel?_of_isName named)
    rw [text named] at shown
    exact shown.imp_right whole
  · have noModel : extraction.elementModel? part = none := by
      rw [elementModel?, array, Option.bind_some, ← model?_refOf, text named]
      rfl
    have keeps := full.arrays part (TypeExpr.mem_inner_of_typeAt? found other)
      (Option.isSome_of_mem array)
    have shown := extraction.shownAt_of_typeAt? made found (absurd · other) noModel
    rw [keeps.refOf_eq] at shown
    exact shown.imp_right whole

end

/-! ### Models -/

/-- Where texts are shown in full, the fields of a model show a name as a text. The dependencies of
the model are what is noted for its supertypes, for the type that an alias indexes and for its
fields, and the name is none of them. -/
structure ShowsInModel (candidate : Candidate) (model : Model) (name : String) : Prop where
  fields : List.Forall₂
    (fun type field => extraction.ReadsInFull type → extraction.ShowsAsText name type field.shape)
    (extraction.fieldTypes candidate) model.schema
  dependencies : model.dependencies =
    (extraction.referencesOf candidate model.kind.supertypes model.schema).eraseDups
  independent : name ∉ model.dependencies

/-- The model of a declaration shows a name as a text if no model has it. -/
theorem showsInModel_modelOf (candidate : Candidate) {name : String} (plain : '(' ∉ name.toList)
    (unknown : name ∉ extraction.known) :
    extraction.ShowsInModel candidate (extraction.modelOf candidate) name where
  fields := by
    rw [schema_modelOf]
    exact (extraction.forall₂_schemaOf candidate).imp fun _ _ made reads =>
      reads.showsAsText made plain unknown
  dependencies := (extraction.modelOf_spec candidate).2
  independent depends := unknown (extraction.dependencies_subset candidate depends)

/-- Where a model has the name, the model of a declaration depends on it as soon as the name is
looked up for one of its fields. -/
theorem mem_dependencies_of_known {candidate : Candidate} {type : TypeExpr} {field : SchemaField}
    (mem : (type, field) ∈ (extraction.fieldTypes candidate).zip (extraction.modelOf candidate).schema)
    (lookedUp : ¬ extraction.IsWhole type) {name : String} (plain : '(' ∉ name.toList)
    (known : name ∈ extraction.known) {position : Position} {part : TypeExpr}
    (found : type.typeAt? position = some part) (named : part.IsName name) :
    field.shape.shownAt? position = some (.model name) ∧
      name ∈ (extraction.modelOf candidate).dependencies := by
  have made := List.forall₂_zip (extraction.forall₂_schemaOf candidate)
    (extraction.schema_modelOf candidate ▸ mem)
  rcases extraction.noted_of_known made plain known found named with ⟨shown, noted⟩ | ⟨whole, -⟩
  · refine ⟨shown, ?_⟩
    rw [(extraction.modelOf_spec candidate).2, List.mem_eraseDups]
    refine List.mem_append_right _ (List.mem_flatten.mpr ⟨_, ?_, noted⟩)
    rw [← List.map_uncurry_zip_eq_zipWith]
    exact List.mem_map_of_mem mem
  · exact absurd whole lookedUp

end Extraction

/-! ### Type parameters of a tree -/

/-- The names of the type parameters with which a name is declared as one kind of thing.
Declarations that are merged may each name them differently. -/
def Node.typeParameterNames (tree : Node) (kind : DeclarationKind) (name : String) : List String :=
  (tree.declarations.filter (·.declares kind name)).flatMap fun new =>
    new.typeParameters.map (·.name)

namespace Declarations

/-- A declaration that is left of a list has the type parameters of one of those of its kind and
name. -/
theorem exists_declares_of_mem_typeParameters {list : List Declaration} {entry : Declaration}
    (has : (ofList list).Has entry) {parameter : TypeParameter}
    (mem : parameter ∈ entry.typeParameters) :
    ∃ new ∈ list.filter (·.declares entry.kind entry.name), parameter ∈ new.typeParameters := by
  cases entry with
  | interface decl =>
    obtain ⟨first, later, all, merged⟩ := (areMergedFrom_interfaces list).merged decl has
    have own : parameter ∈ first.typeParameters := by rwa [← merged.typeParameters]
    refine ⟨.interface first, ?_, own⟩
    rw [Declaration.kind, Declaration.name, ← filter_interfaces, all]
    exact List.mem_map_of_mem List.mem_cons_self
  | typeAlias decl =>
    obtain ⟨first, later, all, rfl⟩ := (areMergedFrom_aliases list).merged decl has
    refine ⟨.typeAlias decl, ?_, mem⟩
    rw [Declaration.kind, Declaration.name, ← filter_aliases, all]
    exact List.mem_map_of_mem List.mem_cons_self
  | «class» decl =>
    obtain ⟨first, later, all, merged⟩ := (areMergedFrom_classes list).merged decl has
    have own : parameter ∈ first.typeParameters := by rwa [← merged.typeParameters]
    refine ⟨.class first, ?_, own⟩
    rw [Declaration.kind, Declaration.name, ← filter_classes, all]
    exact List.mem_map_of_mem List.mem_cons_self
  | enum decl => cases mem

end Declarations

/-- The type parameters of a declaration are among those that it is written with. -/
theorem Source.mem_typeParameterNames {tree : Node} {hops : Nat} {entry : Declaration}
    (has : (declarationsOf tree hops).Has entry) {parameter : TypeParameter}
    (mem : parameter ∈ entry.typeParameters) :
    parameter.name ∈ tree.typeParameterNames entry.kind entry.name := by
  have among {own : Declaration} (has : (Declarations.ofList tree.declarations).Has own)
      (mem : parameter ∈ own.typeParameters) :
      parameter.name ∈ tree.typeParameterNames own.kind own.name := by
    obtain ⟨new, listed, inside⟩ := Declarations.exists_declares_of_mem_typeParameters has mem
    exact List.mem_flatMap.mpr ⟨new, listed, List.mem_map_of_mem inside⟩
  -- inheriting and expanding change neither names nor type parameters
  cases entry with
  | interface decl =>
    obtain ⟨own, listed, rfl⟩ := List.mem_map.mp has
    exact @among (.interface own) listed mem
  | typeAlias decl =>
    obtain ⟨own, listed, rfl⟩ := List.mem_map.mp has
    exact @among (.typeAlias own) listed mem
  | «class» decl =>
    obtain ⟨own, listed, rfl⟩ := List.mem_map.mp has
    exact @among (.class own) listed mem
  | enum decl => cases mem

namespace Model

/-- There is one model for each candidate, in order. Its parameters are type parameters that its
name is declared with in the tree, and each of these is shown in its fields as a text if it is the
name of no model. -/
def ShowTypeParameters (tree : Node) (extraction : Extraction)
    (candidates : List Extraction.Candidate) (models : List Model) : Prop :=
  List.Forall₂ (fun candidate model => model.id = candidate.name ∧
      (∀ parameter ∈ model.parameters,
        parameter.name ∈ tree.typeParameterNames candidate.declaration.kind candidate.name) ∧
      ∀ name ∈ tree.typeParameterNames candidate.declaration.kind candidate.name,
        '(' ∉ name.toList → name ∉ models.map (·.id) →
          extraction.ShowsInModel candidate model name)
    candidates models

/-- For every tree, be it that of a text or not, the models show each type parameter as its name,
where texts are shown in full, and note nothing for it, unless there is a model of this name. -/
theorem showTypeParameters_ofTree (tree : Node) (hops : Nat) (config : ExtractConfig) :
    ShowTypeParameters tree (extraction ⟨Source.declarationsOf tree hops, hops⟩ config)
      (chosen ⟨Source.declarationsOf tree hops, hops⟩ config)
      (ofScope ⟨Source.declarationsOf tree hops, hops⟩ config) := by
  rw [ShowTypeParameters, map_id_ofScope, ofScope_eq, extracted, List.map_map,
    List.forall₂_map_right_iff, List.forall₂_same]
  refine fun candidate mem => ⟨rfl, fun parameter listed => ?_, fun name _ plain unknown => ?_⟩
  · obtain ⟨own, declared, rfl⟩ := List.mem_map.mp listed
    have has := has_of_mem_chosen mem
    cases candidate <;> exact Source.mem_typeParameterNames has declared
  · obtain ⟨fields, dependencies, independent⟩ :=
      Extraction.showsInModel_modelOf _ candidate plain unknown
    exact ⟨fields, dependencies, independent⟩

end Model

namespace Node

/-- The node of a union of two types. -/
def unionOf (text : String) (first second : Node) : Node :=
  group .unionType none text [first, second]

/-- The interface `Box<P> { value: P; either: P | null }`, which goes on as
`Box<Q> { items: Q[]; all: Map<Q, Q> }`. -/
def generic : Node :=
  group .program none ""
    [interfaceOf "Box" [typeParameter "P"]
        [propertyOf "value" (typeWord "P"),
          propertyOf "either" (unionOf "P | null" (typeWord "P")
            (group .literalType none "null" [word .null none "null"]))],
      interfaceOf "Box" [typeParameter "Q"]
        [propertyOf "items" (group .arrayType none "Q[]" [typeWord "Q"]),
          propertyOf "all" (group .genericType none "Map<Q, Q>"
            [word .typeIdentifier (some .name) "Map",
              group .typeArguments (some .typeArguments) "" [typeWord "Q", typeWord "Q"]])]]

/-- What `generic` declares. -/
def genericDeclarations : Declarations :=
  .ofList
    [.interface ⟨"Box", default, [⟨"P", none, none⟩], [],
        [⟨"value", false, false, .property (some ⟨.reference "P" [], "P"⟩), default, .own⟩,
          ⟨"either", false, false, .property (some ⟨.union
            [⟨.reference "P" [], "P"⟩, ⟨.keyword "null", "null"⟩], "P | null"⟩), default, .own⟩]⟩,
      .interface ⟨"Box", default, [⟨"Q", none, none⟩], [],
        [⟨"items", false, false, .property (some ⟨.array ⟨.reference "Q" [], "Q"⟩, "Q[]"⟩),
            default, .own⟩,
          ⟨"all", false, false, .property (some ⟨.reference "Map"
            [⟨.reference "Q" [], "Q"⟩, ⟨.reference "Q" [], "Q"⟩], "Map<Q, Q>"⟩), default, .own⟩]⟩]

/-- The source with a merged generic interface declares this one. -/
theorem declarationsOf_generic : Source.declarationsOf generic 32 = genericDeclarations := by
  have read : Declarations.ofList generic.declarations = genericDeclarations :=
    congrArg Declarations.ofList (by cbv)
  rw [Source.declarationsOf_of_read 32 read (by cbv) rfl]
  exact Declarations.ext_entries rfl rfl rfl rfl

end Node

namespace Model

/-- All texts in the merged interface are shown in full, so both of its type parameters are shown as
their names. -/
theorem showTypeParameters_generic :
    (∀ candidate ∈ chosen ⟨Source.declarationsOf Node.generic 32, 32⟩ {},
        ∀ type ∈ (extraction ⟨Source.declarationsOf Node.generic 32, 32⟩ {}).fieldTypes candidate,
          (extraction ⟨Source.declarationsOf Node.generic 32, 32⟩ {}).ReadsInFull type) ∧
      Node.generic.typeParameterNames .interfaceDecl "Box" = ["P", "Q"] ∧
        ShowTypeParameters Node.generic
          (extraction ⟨Source.declarationsOf Node.generic 32, 32⟩ {})
          (chosen ⟨Source.declarationsOf Node.generic 32, 32⟩ {})
          (ofScope ⟨Source.declarationsOf Node.generic 32, 32⟩ {}) := by
  have full : ∀ candidate ∈ chosen ⟨Source.declarationsOf Node.generic 32, 32⟩ {},
      ∀ type ∈ (extraction ⟨Source.declarationsOf Node.generic 32, 32⟩ {}).fieldTypes candidate,
        (extraction ⟨Source.declarationsOf Node.generic 32, 32⟩ {}).ReadsInFull type := by
    rw [Node.declarationsOf_generic]
    decide +kernel
  exact ⟨full, by cbv, showTypeParameters_ofTree _ _ _⟩

end Model

/-! ### Models with the names of type parameters -/

namespace Node

/-- The interfaces `P`, `Box<P> { value: P }` and `T<T> { x: T }`. -/
def namesakes : Node :=
  group .program none ""
    [interfaceOf "P" [] [],
      interfaceOf "Box" [typeParameter "P"] [propertyOf "value" (typeWord "P")],
      interfaceOf "T" [typeParameter "T"] [propertyOf "x" (typeWord "T")]]

/-- What `namesakes` declares. -/
def namesakesDeclarations : Declarations :=
  .ofList
    [.interface ⟨"P", default, [], [], []⟩,
      .interface ⟨"Box", default, [⟨"P", none, none⟩], [],
        [⟨"value", false, false, .property (some ⟨.reference "P" [], "P"⟩), default, .own⟩]⟩,
      .interface ⟨"T", default, [⟨"T", none, none⟩], [],
        [⟨"x", false, false, .property (some ⟨.reference "T" [], "T"⟩), default, .own⟩]⟩]

/-- The source with type parameters that are named as models declares these interfaces. -/
theorem declarationsOf_namesakes : Source.declarationsOf namesakes 32 = namesakesDeclarations := by
  have read : Declarations.ofList namesakes.declarations = namesakesDeclarations :=
    congrArg Declarations.ofList (by cbv)
  rw [Source.declarationsOf_of_read 32 read (by cbv) rfl]
  exact Declarations.ext_entries rfl rfl rfl rfl

end Node

/-- The type of each property is taken for a model, though it is a type parameter. One interface
depends on another one that it does not mention, and one depends on itself. -/
theorem Model.shown_as_namesakes :
    Node.namesakes.typeParameterNames .interfaceDecl "Box" = ["P"] ∧
      Node.namesakes.typeParameterNames .interfaceDecl "T" = ["T"] ∧
        (ofScope ⟨Source.declarationsOf Node.namesakes 32, 32⟩ {}).map (fun model =>
            (model.id, model.schema.map (·.shape), model.dependencies, model.dependants)) =
          [("P", [], [], ["Box"]), ("Box", [.scalar (.model "P")], ["P"], []),
            ("T", [.scalar (.model "T")], ["T"], ["T"])] := by
  rw [Node.declarationsOf_namesakes]
  exact ⟨by cbv, by cbv, by decide +kernel⟩

end TypeAtlas
