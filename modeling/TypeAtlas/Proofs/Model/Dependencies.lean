import Mathlib.Data.List.Forall2
import TypeAtlas.Proofs.Model.Classification

/-!
# The dependencies of a model

A shape that a field is given refers to types by the models they name, or by texts that name none
(`Extraction.ShownAs`). Whatever is noted for a field is therefore the id of a model
(`Extraction.ShownAs.references_subset`), and no text that stands for a whole type is one
(`Extraction.ShownAs.text_not_mem`).

The dependencies of a model are read off its supertypes and its fields: first occurrences of the
models among the supertypes, of the model that an alias indexes, and of what the fields refer to
(`Extraction.modelOf_spec`).
-/

set_option autoImplicit false

namespace TypeAtlas

/-- The types that a shape consists of, other than those in the signature of a function. -/
def FieldShape.types : FieldShape → List TypeRef
  | .scalar type | .array type => [type]
  | .generic _ arguments => arguments
  | .function _ _ => []
  | .union types => types

/-- The text of an array type ends with a bracket. -/
theorem TypeExpr.getLast?_print_of_element? {type element : TypeExpr}
    (h : type.element? = some element) : type.print.toList.getLast? = some ']' := by
  obtain ⟨shape, text⟩ := type
  cases shape <;> cases h
  simp [TypeExpr.print]

namespace Extraction

variable (extraction : Extraction)

/-! ### Single types -/

variable {extraction} in
/-- A model that a type names is known. -/
theorem mem_known_of_model? {type : TypeExpr} {id : String}
    (h : extraction.model? type = some id) : id ∈ extraction.known := by
  unfold model? at h
  simp only [Option.ite_none_right_eq_some, Option.some.injEq, List.contains_iff_mem] at h
  exact h.2 ▸ h.1

variable {extraction} in
/-- A model that the elements of an array name is known. -/
theorem mem_known_of_elementModel? {type : TypeExpr} {id : String}
    (h : extraction.elementModel? type = some id) : id ∈ extraction.known := by
  obtain ⟨element, _, named⟩ := Option.bind_eq_some_iff.mp h
  exact mem_known_of_model? named

variable {extraction} in
/-- A model that a type is shown as is known. -/
theorem mem_known_of_refOf {type : TypeExpr} {id : String}
    (h : (extraction.refOf type).model? = some id) : id ∈ extraction.known := by
  unfold refOf at h
  cases named : extraction.model? type with
  | none => simp [named, TypeRef.model?] at h
  | some known =>
    obtain rfl : known = id := by simpa [named, TypeRef.model?] using h
    exact mem_known_of_model? named

variable {extraction} in
/-- The text that a type is shown as names no model. -/
theorem not_mem_known_of_refOf {type : TypeExpr} {words : String}
    (h : extraction.refOf type = .text words) : words ∉ extraction.known := by
  unfold refOf at h
  cases named : extraction.model? type with
  | some known => simp [named] at h
  | none =>
    obtain rfl : extraction.nameOf type = words := by simpa [named] using h
    simpa [model?] using named

variable {extraction} in
/-- A model that a returned type is shown as is known. -/
theorem mem_known_of_returnOf {type : TypeExpr} {id : String}
    (h : (extraction.returnOf type).model? = some id) : id ∈ extraction.known := by
  unfold returnOf at h
  cases named : extraction.elementModel? type with
  | none => exact mem_known_of_refOf (by simpa [named, FunctionReturn.model?] using h)
  | some known =>
    obtain rfl : known = id := by simpa [named, FunctionReturn.model?] using h
    exact mem_known_of_elementModel? named

/-- A parameter refers to known models only. -/
theorem argumentReferences_subset (parameter : Parameter) :
    extraction.argumentReferences parameter (extraction.argumentOf parameter) ⊆
      extraction.known := by
  intro id mem
  rw [argumentReferences, List.mem_append, Option.mem_toList, Option.mem_toList] at mem
  rcases mem with element | self
  · obtain ⟨type, _, named⟩ := Option.bind_eq_some_iff.mp element
    exact mem_known_of_elementModel? named
  · unfold argumentOf at self
    cases typed : parameter.type with
    | none => simp [typed, TypeRef.model?] at self
    | some type => exact mem_known_of_refOf (by simpa [typed] using self)

/-! ### Shapes -/

/-- The shapes that a field of a type can be given. -/
inductive ShownAs (type : TypeExpr) : FieldShape → Prop
  | function {signature : Signature} (callable : type.callSignatures = [signature])
      (returned : TypeExpr) :
      ShownAs type (.function (signature.parameters.map extraction.argumentOf)
        (extraction.returnOf returned))
  | array (element : TypeExpr) : ShownAs type (.array (extraction.refOf element))
  | generic (name : String) (arguments : List TypeExpr) :
      ShownAs type (.generic name (arguments.map extraction.refOf))
  | union (items : List TypeExpr) : ShownAs type (.union (items.map extraction.refOf))
  | scalar : ShownAs type (.scalar (extraction.refOf type))

/-- The shape of a field of a type is one that the type can be given. -/
theorem shownAs_shapeOf (type : TypeExpr) : extraction.ShownAs type (extraction.shapeOf type) := by
  have functions : ∀ shape, extraction.functionShape? type = some shape →
      extraction.ShownAs type shape := by
    intro shape found
    unfold functionShape? at found
    split at found
    · cases found
      exact .function (by assumption) _
    · cases found
  have arrays : ∀ shape, extraction.arrayShape? type = some shape →
      extraction.ShownAs type shape := by
    intro shape found
    obtain ⟨element, _, rfl⟩ := Option.map_eq_some_iff.mp found
    exact .array element
  have generics : ∀ shape, extraction.genericShape? type = some shape →
      extraction.ShownAs type shape := by
    intro shape found
    unfold genericShape? at found
    split at found
    · cases found
      exact .generic _ _
    · cases found
  have unions : ∀ shape, extraction.unionShape? type = some shape →
      extraction.ShownAs type shape := by
    intro shape found
    obtain ⟨items, _, rfl⟩ := Option.map_eq_some_iff.mp found
    exact .union items
  unfold shapeOf
  cases found : (extraction.functionShape? type).or _ with
  | none => exact .scalar
  | some shape =>
    rw [Option.or_eq_some_iff, Option.or_eq_some_iff, Option.or_eq_some_iff] at found
    rcases found with h | ⟨-, h | ⟨-, h | ⟨-, h⟩⟩⟩
    · exact functions shape h
    · exact arrays shape h
    · exact generics shape h
    · exact unions shape h

/-- The shape of the value of an alias is one that its type can be given. -/
theorem shownAs_aliasShapeOf (type : TypeExpr) :
    extraction.ShownAs type (extraction.aliasShapeOf type) := by
  unfold aliasShapeOf
  cases type.operands? with
  | some items => exact .union items
  | none =>
    simp only
    split_ifs
    · exact .scalar
    · exact extraction.shownAs_shapeOf type

namespace ShownAs

variable {extraction}

/-- The models that types are shown as are known. -/
theorem filterMap_refOf_subset (types : List TypeExpr) :
    (types.map extraction.refOf).filterMap (·.model?) ⊆ extraction.known := by
  intro id mem
  obtain ⟨ref, listed, named⟩ := List.mem_filterMap.mp mem
  obtain ⟨type, _, rfl⟩ := List.mem_map.mp listed
  exact mem_known_of_refOf named

/-- What a field refers to are ids of models. -/
theorem references_subset {type : TypeExpr} {shape : FieldShape}
    (h : extraction.ShownAs type shape) : extraction.references type shape ⊆ extraction.known := by
  intro id mem
  cases h with
  | @function signature callable returned =>
    rw [references_function extraction callable, List.mem_append, List.mem_flatMap,
      Option.mem_toList] at mem
    rcases mem with ⟨parameter, _, inside⟩ | result
    · exact extraction.argumentReferences_subset parameter inside
    · exact mem_known_of_returnOf result
  | array element => exact mem_known_of_refOf (Option.mem_toList.mp mem)
  | generic name arguments => exact filterMap_refOf_subset arguments mem
  | union items => exact filterMap_refOf_subset items mem
  | scalar => exact mem_known_of_refOf (Option.mem_toList.mp mem)

/-- A field refers to the models that its shape names. -/
theorem models_subset {type : TypeExpr} {shape : FieldShape}
    (h : extraction.ShownAs type shape) : shape.models ⊆ extraction.references type shape := by
  cases h with
  | @function signature callable returned =>
    rw [references_function extraction callable]
    refine List.append_subset.mpr ⟨fun id mem => ?_, List.subset_append_right _ _⟩
    obtain ⟨parameter, listed, named⟩ :=
      List.mem_filterMap.mp (List.filterMap_map ▸ mem)
    refine List.mem_append_left _ (List.mem_flatMap.mpr ⟨parameter, listed, ?_⟩)
    exact List.mem_append_right _ (Option.mem_toList.mpr named)
  | array | generic | union | scalar => exact List.Subset.refl _

/-- No text that stands for a whole type is the id of a model. -/
theorem text_not_mem {type : TypeExpr} {shape : FieldShape} (h : extraction.ShownAs type shape)
    {words : String} (mem : .text words ∈ shape.types) : words ∉ extraction.known := by
  have shown : ∃ type, extraction.refOf type = .text words := by
    cases h with
    | function => cases mem
    | array element => exact ⟨element, (List.mem_singleton.mp mem).symm⟩
    | generic name arguments => exact (List.mem_map.mp mem).imp fun _ found => found.2
    | union items => exact (List.mem_map.mp mem).imp fun _ found => found.2
    | scalar => exact ⟨type, (List.mem_singleton.mp mem).symm⟩
  obtain ⟨type, same⟩ := shown
  exact not_mem_known_of_refOf same

end ShownAs

/-! ### Arrays in parameters -/

/-- The text ends with a bracket, so that it is no identifier. -/
def EndsInBracket (text : String) : Prop :=
  ∃ bracket ∈ ['[', ']', ')'], text.toList.getLast? = some bracket

/-- The name of an array type ends with a bracket if the text does that it was written as. -/
theorem endsInBracket_nameOf {type element : TypeExpr} (h : type.element? = some element)
    (written : type.text = "" ∨ EndsInBracket type.text) :
    EndsInBracket (extraction.nameOf type) := by
  have named : EndsInBracket (extraction.scope.nameOf type) := by
    rcases written with unwritten | bracket
    · have noAlias : extraction.scope.aliasName? type = none := by
        obtain ⟨shape, text⟩ := type
        cases shape <;> cases h
        rfl
      have printed : extraction.scope.nameOf type = type.print := by
        simp [Scope.nameOf, TypeExpr.declaredText?, unwritten, noAlias]
      exact ⟨']', by simp, printed ▸ TypeExpr.getLast?_print_of_element? h⟩
    · have filled : type.text.isEmpty = false := by
        obtain ⟨_, _, last⟩ := bracket
        rw [Bool.eq_false_iff, ne_eq, String.isEmpty_iff]
        rintro empty
        simp [empty] at last
      have kept : extraction.scope.nameOf type = type.text := by
        simp [Scope.nameOf, TypeExpr.declaredText?, filled]
      exact kept ▸ bracket
  obtain ⟨bracket, mem, last⟩ := named
  refine ⟨bracket, mem, Text.getLast?_unqualified last ?_⟩
  rintro rfl
  simp at mem

/-- Where no model has a name that ends with a bracket, a parameter of an array type refers to the
model of its elements and to nothing else. -/
theorem argumentReferences_of_element? {parameter : Parameter} {type element : TypeExpr}
    (typed : parameter.type = some type) (h : type.element? = some element)
    (written : type.text = "" ∨ EndsInBracket type.text)
    (identifiers : ∀ id ∈ extraction.known, ¬ EndsInBracket id) :
    extraction.argumentReferences parameter (extraction.argumentOf parameter) =
      (extraction.model? element).toList := by
  have text : extraction.model? type = none := by
    simp only [model?, ite_eq_right_iff, List.contains_iff_mem, reduceCtorEq, imp_false]
    exact fun mem => identifiers _ mem (extraction.endsInBracket_nameOf h written)
  simp [argumentReferences, argumentOf, refOf, typed, text, elementModel?, h, TypeRef.model?]

/-! ### Fields -/

/-- Each field has a shape that its type can be given. -/
def FieldsShow (types : List TypeExpr) (schema : List SchemaField) : Prop :=
  List.Forall₂ (fun type field => extraction.ShownAs type field.shape) types schema

/-- The fields of members have shapes that their types can be given. -/
theorem fieldsShow_memberFieldsOf (members : List Member) :
    extraction.FieldsShow (extraction.memberTypes members) (extraction.memberFieldsOf members) := by
  unfold FieldsShow memberTypes memberFieldsOf
  rw [List.forall₂_map_left_iff, List.forall₂_map_right_iff, List.forall₂_same]
  exact fun member _ => extraction.shownAs_shapeOf _

/-- The fields of an alias have shapes that their types can be given. -/
theorem fieldsShow_aliasFieldsOf (declared : TypeExpr) :
    extraction.FieldsShow (extraction.aliasTypes declared) (extraction.aliasFieldsOf declared) := by
  have value (type : TypeExpr) : extraction.FieldsShow [type]
      [⟨SchemaField.aliasValue, false, extraction.aliasShapeOf type⟩] :=
    .cons (extraction.shownAs_aliasShapeOf type) .nil
  unfold aliasTypes aliasFieldsOf aliasTypes
  cases declared.shape
  case object members signatures =>
    simp only
    split_ifs
    · exact extraction.fieldsShow_memberFieldsOf members
    · exact value declared
  all_goals exact value _

variable {extraction} in
/-- Fields refer to known models only. -/
theorem FieldsShow.references_subset {types : List TypeExpr} {schema : List SchemaField}
    (h : extraction.FieldsShow types schema) :
    extraction.fieldReferences types schema ⊆ extraction.known := by
  induction h with
  | nil => simp [fieldReferences]
  | cons shown _ ih =>
    rw [fieldReferences, List.zipWith_cons_cons, List.flatten_cons]
    exact List.append_subset.mpr ⟨shown.references_subset, ih⟩

variable {extraction} in
/-- The models that are shown in a field are among those that the fields refer to. -/
theorem FieldsShow.models_subset {types : List TypeExpr} {schema : List SchemaField}
    (h : extraction.FieldsShow types schema) {field : SchemaField} (mem : field ∈ schema) :
    field.shape.models ⊆ extraction.fieldReferences types schema := by
  induction h with
  | nil => cases mem
  | cons shown _ ih =>
    rw [fieldReferences, List.zipWith_cons_cons, List.flatten_cons]
    rcases List.mem_cons.mp mem with rfl | later
    · exact List.subset_append_of_subset_left _ shown.models_subset
    · exact List.subset_append_of_subset_right _ (ih later)

variable {extraction} in
/-- No text that is shown in a field is the name of a model. -/
theorem FieldsShow.text_not_mem {types : List TypeExpr} {schema : List SchemaField}
    (h : extraction.FieldsShow types schema) {field : SchemaField} (mem : field ∈ schema)
    {words : String} (inside : .text words ∈ field.shape.types) : words ∉ extraction.known := by
  induction h with
  | nil => cases mem
  | cons shown _ ih =>
    rcases List.mem_cons.mp mem with rfl | later
    · exact shown.text_not_mem inside
    · exact ih later

/-! ### Models -/

/-- The types of the fields of a candidate. -/
def fieldTypes : Candidate → List TypeExpr
  | .interface decl => extraction.memberTypes decl.members
  | .typeAlias decl => extraction.aliasTypes decl.declared
  | .class decl => extraction.memberTypes decl.members

/-- The model that a candidate indexes, if it is an alias of an indexed access. -/
def indexedBy? : Candidate → Option String
  | .typeAlias decl => extraction.indexedModel? decl.declared
  | _ => none

/-- The models that a candidate with the given supertypes and fields refers to: those among its
supertypes, the one it indexes, and those that its fields refer to. -/
def referencesOf (candidate : Candidate) (supertypes : List TypeRef) (schema : List SchemaField) :
    List String :=
  supertypes.filterMap (·.model?) ++ (extraction.indexedBy? candidate).toList ++
    extraction.fieldReferences (extraction.fieldTypes candidate) schema

/-- What is shown for the fields of a candidate. -/
def schemaOf : Candidate → List SchemaField
  | .interface decl => extraction.memberFieldsOf decl.members
  | .typeAlias decl => extraction.aliasFieldsOf decl.declared
  | .class decl => extraction.memberFieldsOf decl.members

/-- The fields of a candidate have shapes that their types can be given. -/
theorem fieldsShow_schemaOf (candidate : Candidate) :
    extraction.FieldsShow (extraction.fieldTypes candidate) (extraction.schemaOf candidate) :=
  match candidate with
  | .interface decl => extraction.fieldsShow_memberFieldsOf decl.members
  | .typeAlias decl => extraction.fieldsShow_aliasFieldsOf decl.declared
  | .class decl => extraction.fieldsShow_memberFieldsOf decl.members

/-- What is noted for the fields of a candidate is the model that is indexed and what the fields
refer to. -/
theorem yields_fieldsOf (candidate : Candidate) :
    Noting.Yields (extraction.fieldsOf candidate) (extraction.schemaOf candidate)
      ((extraction.indexedBy? candidate).toList ++
        extraction.fieldReferences (extraction.fieldTypes candidate)
          (extraction.schemaOf candidate)) :=
  match candidate with
  | .interface decl => Noting.Yields.memberFields extraction decl.members
  | .typeAlias decl => Noting.Yields.aliasFields extraction decl.declared
  | .class decl => Noting.Yields.memberFields extraction decl.members

variable {extraction} in
/-- The fields of a model are what is shown for its declaration. Its dependencies are the models
among its supertypes and then what is noted for the fields, each once in the order of first
reference. -/
theorem modelOf_of_yields {candidate : Candidate} {fields : List SchemaField} {ids : List String}
    (yields : Noting.Yields (extraction.fieldsOf candidate) fields ids) :
    (extraction.modelOf candidate).schema = fields ∧
      (extraction.modelOf candidate).dependencies =
        Notes.addAll []
          ((extraction.kindOf candidate).supertypes.filterMap (·.model?) ++ ids) := by
  -- the supertypes are noted before the fields are looked at
  have run := yields
    (Notes.addAll [] ((extraction.kindOf candidate).supertypes.filterMap (·.model?)))
  rw [← Notes.addAll_append] at run
  simp only [modelOf, run]
  exact ⟨trivial, trivial⟩

/-- The fields of a model are those of its candidate. -/
theorem schema_modelOf (candidate : Candidate) :
    (extraction.modelOf candidate).schema = extraction.schemaOf candidate :=
  (modelOf_of_yields (extraction.yields_fieldsOf candidate)).1

/-- The dependencies of a model are what its declaration refers to, each once in the order of first
reference. -/
theorem dependencies_modelOf (candidate : Candidate) :
    (extraction.modelOf candidate).dependencies =
      (extraction.referencesOf candidate (extraction.kindOf candidate).supertypes
        (extraction.schemaOf candidate)).eraseDups := by
  rw [(modelOf_of_yields (extraction.yields_fieldsOf candidate)).2, Notes.addAll_nil,
    ← List.append_assoc, referencesOf]

/-- The fields of a model show the types of the fields of its declaration, and its dependencies are
told by its supertypes and its fields. -/
theorem modelOf_spec (candidate : Candidate) :
    extraction.FieldsShow (extraction.fieldTypes candidate) (extraction.modelOf candidate).schema ∧
      (extraction.modelOf candidate).dependencies =
        (extraction.referencesOf candidate (extraction.kindOf candidate).supertypes
          (extraction.modelOf candidate).schema).eraseDups := by
  rw [schema_modelOf]
  exact ⟨extraction.fieldsShow_schemaOf candidate, extraction.dependencies_modelOf candidate⟩

/-- The models among the supertypes of a candidate are known. -/
theorem supertypes_subset (candidate : Candidate) :
    (extraction.kindOf candidate).supertypes.filterMap (·.model?) ⊆ extraction.known := by
  have known (type : TypeExpr) {id : String}
      (h : (extraction.supertype type).model? = some id) : id ∈ extraction.known := by
    unfold supertype at h
    split at h
    · split_ifs at h with inside
      · cases h
        exact List.contains_iff_mem.mp inside
      · cases h
    · cases h
  have shown : ∀ ref ∈ (extraction.kindOf candidate).supertypes,
      ∃ type, extraction.supertype type = ref := by
    cases candidate with
    | interface decl =>
      simp only [kindOf, ModelKind.supertypes, ModelKind.extended, ModelKind.implemented,
        List.append_nil, List.mem_map]
      exact fun ref mem => mem.imp fun _ found => found.2
    | typeAlias decl =>
      simp [kindOf, ModelKind.supertypes, ModelKind.extended, ModelKind.implemented]
    | «class» decl =>
      simp only [kindOf, ModelKind.supertypes, ModelKind.extended, ModelKind.implemented,
        List.mem_append, Option.mem_toList, Option.map_eq_some_iff, List.mem_map]
      exact fun ref mem => mem.elim (·.imp fun _ found => found.2) (·.imp fun _ found => found.2)
  intro id mem
  obtain ⟨ref, listed, named⟩ := List.mem_filterMap.mp mem
  obtain ⟨type, rfl⟩ := shown ref listed
  exact known type named

/-- A model depends on models only. -/
theorem dependencies_subset (candidate : Candidate) :
    (extraction.modelOf candidate).dependencies ⊆ extraction.known := by
  obtain ⟨shown, listed⟩ := extraction.modelOf_spec candidate
  have indexed : (extraction.indexedBy? candidate).toList ⊆ extraction.known := by
    intro id mem
    rw [Option.mem_toList] at mem
    cases candidate with
    | typeAlias decl =>
      simp only [indexedBy?, indexedModel?] at mem
      split at mem
      · exact mem_known_of_model? mem
      · cases mem
    | interface | «class» => cases mem
  intro id mem
  rw [listed, List.mem_eraseDups] at mem
  exact List.append_subset.mpr ⟨List.append_subset.mpr
    ⟨extraction.supertypes_subset candidate, indexed⟩, shown.references_subset⟩ mem

/-- A model depends on each model once. -/
theorem nodup_dependencies (candidate : Candidate) :
    (extraction.modelOf candidate).dependencies.Nodup := by
  rw [(extraction.modelOf_spec candidate).2, ← Notes.addAll_nil]
  exact Notes.nodup_addAll _ List.nodup_nil

end Extraction

end TypeAtlas
