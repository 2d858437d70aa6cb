import TypeAtlas.Proofs.Model.Reordering

/-!
# Leaving classes out

Without classes the same interfaces and aliases are chosen, and fewer names are known. A type that
named a class is then shown as its text, and whatever refers to types one by one refers to what is
left of what it referred to before (`Extraction.model?_narrowed`).

Two shapes are less simple. A union of which no operand names a model is no union for a field, and
an array of a class is no array of a model where it is returned; both are shown by the name of the
whole type. That name is the text of the type without module qualifiers, and it is meant to be that
of no model. Where this holds (`Extraction.ReadsClearly`), a field refers to what is left of what it
referred to before (`Extraction.references_shapeOf_narrowed`), and therefore the models of a scope
lose the classes and nothing else (`Model.losesOnly_ofScope`).

It does not always hold. A qualifier is taken to reach to the next closing parenthesis with a point
after it, and of `import("x") | A | typeof import("y").B` nothing is left but `B`: without the class
`A` this union is a reference to `B` (`Model.not_losesOnly_clipped`).
-/

set_option autoImplicit false

namespace TypeAtlas

/-- The settings with classes or without. -/
def ExtractConfig.withClasses (config : ExtractConfig) (included : Bool) : ExtractConfig :=
  { config with includeClasses := included }

namespace Extraction

def Candidate.isClass : Candidate → Bool
  | .class _ => true
  | _ => false

/-- The name of the type of a field does not mislead: a union that has the name of a model has an
operand of that name, and no array that is returned has the name of a model. -/
structure ReadsClearly (extraction : Extraction) (type : TypeExpr) : Prop where
  union : ∀ items ∈ type.operands?, extraction.nameOf type ∈ extraction.known →
    ∃ item ∈ items, extraction.nameOf item = extraction.nameOf type
  returned : ∀ signature ∈ type.callSignatures, ∀ result ∈ signature.returnType,
    result.element?.isSome → extraction.nameOf result ∉ extraction.known

instance (extraction : Extraction) (type : TypeExpr) : Decidable (extraction.ReadsClearly type) :=
  decidable_of_iff
    ((∀ items ∈ type.operands?, extraction.nameOf type ∈ extraction.known →
        ∃ item ∈ items, extraction.nameOf item = extraction.nameOf type) ∧
      ∀ signature ∈ type.callSignatures, ∀ result ∈ signature.returnType,
        result.element?.isSome → extraction.nameOf result ∉ extraction.known)
    ⟨fun h => ⟨h.1, h.2⟩, fun h => ⟨h.union, h.returned⟩⟩

variable (extraction : Extraction) (keep : String → Bool)

/-- The extraction without classes, where only those names are known that pass a test. -/
def narrowed : Extraction :=
  { extraction with
    config := extraction.config.withClasses false
    known := extraction.known.filter keep }

/-! ### Single types -/

/-- A type names no model exactly if its name is not known. -/
theorem model?_eq_none_iff {type : TypeExpr} :
    extraction.model? type = none ↔ extraction.nameOf type ∉ extraction.known := by
  simp [model?]

/-- A type names the model that it named before, if that one is left. -/
theorem model?_narrowed (type : TypeExpr) :
    (extraction.narrowed keep).model? type = (extraction.model? type).filter keep := by
  have known : (extraction.narrowed keep).known.contains (extraction.nameOf type) =
      (extraction.known.contains (extraction.nameOf type) && keep (extraction.nameOf type)) := by
    rw [Bool.eq_iff_iff, List.contains_iff_mem, narrowed, List.mem_filter, Bool.and_eq_true,
      List.contains_iff_mem]
  show (if (extraction.narrowed keep).known.contains (extraction.nameOf type) then
    some (extraction.nameOf type) else none) = _
  rw [known, model?]
  by_cases inside : extraction.nameOf type ∈ extraction.known <;>
    simp [inside, Option.filter_some]

/-- With fewer known names the elements of an array name a model if they did and it is kept. -/
theorem elementModel?_narrowed (type : TypeExpr) :
    (extraction.narrowed keep).elementModel? type =
    (extraction.elementModel? type).filter keep := by
  unfold elementModel?
  cases type.element? with
  | none => rfl
  | some element => exact extraction.model?_narrowed keep element

/-- A type is shown as the model it names, if it names one. -/
theorem model?_refOf (type : TypeExpr) :
    (extraction.refOf type).model? = extraction.model? type := by
  unfold refOf
  cases extraction.model? type <;> rfl

/-- With fewer known names a type is shown as a model if it was and this is kept. -/
theorem model?_refOf_narrowed (type : TypeExpr) :
    ((extraction.narrowed keep).refOf type).model? =
      (extraction.refOf type).model?.filter keep := by
  rw [model?_refOf, model?_refOf, model?_narrowed]

/-- With fewer known names the models that types are shown as are those that are kept. -/
theorem filterMap_refOf_narrowed (types : List TypeExpr) :
    (types.map (extraction.narrowed keep).refOf).filterMap (·.model?) =
      ((types.map extraction.refOf).filterMap (·.model?)).filter keep := by
  rw [List.filterMap_map, List.filterMap_map, List.filter_filterMap]
  exact congrArg (types.filterMap ·) (funext fun type => extraction.model?_refOf_narrowed keep type)

/-- A supertype names the model that it named before, if that one is left. -/
theorem model?_supertype_narrowed (type : TypeExpr) :
    ((extraction.narrowed keep).supertype type).model? =
      (extraction.supertype type).model?.filter keep := by
  unfold supertype
  cases type.referenceName?.map Text.unqualified with
  | none => rfl
  | some name =>
    by_cases inside : name ∈ extraction.known <;> by_cases left : keep name <;>
      simp [narrowed, inside, left, TypeRef.model?, Option.filter_some]

/-! ### Signatures -/

/-- With fewer known names a parameter refers to those models that are kept. -/
theorem argumentReferences_narrowed (parameter : Parameter) :
    (extraction.narrowed keep).argumentReferences parameter
        ((extraction.narrowed keep).argumentOf parameter) =
      (extraction.argumentReferences parameter (extraction.argumentOf parameter)).filter keep := by
  unfold argumentReferences argumentOf
  rw [List.filter_append, ← Option.toList_filter, ← Option.toList_filter]
  cases parameter.type with
  | none => rfl
  | some type =>
    simp only [Option.bind_some, Option.map_some, Option.getD_some]
    rw [elementModel?_narrowed, model?_refOf_narrowed]

/-- A type is returned as the model of its elements if it is an array of models, and else as what it
names. -/
theorem model?_returnOf (type : TypeExpr) :
    (extraction.returnOf type).model? =
      (extraction.elementModel? type).or (extraction.model? type) := by
  unfold returnOf
  cases extraction.elementModel? type with
  | none => exact extraction.model?_refOf type
  | some id => rfl

/-- What is returned refers to what is left, unless it is an array with the name of a model. -/
theorem model?_returnOf_narrowed {type : TypeExpr}
    (clear : type.element?.isSome →
      (extraction.narrowed keep).nameOf type ∉ (extraction.narrowed keep).known) :
    ((extraction.narrowed keep).returnOf type).model? =
      (extraction.returnOf type).model?.filter keep := by
  rw [model?_returnOf, model?_returnOf, elementModel?_narrowed]
  cases found : extraction.elementModel? type with
  | none =>
    rw [Option.filter_none, Option.none_or, Option.none_or]
    exact extraction.model?_narrowed keep type
  | some id =>
    obtain ⟨element, array, _⟩ := Option.bind_eq_some_iff.mp found
    rw [(model?_eq_none_iff _).mpr (clear (array ▸ rfl)), Option.or_none, Option.some_or]

/-! ### Shapes -/

/-- With fewer known names the model that a type is shown as, as a list, is left if it is kept. -/
theorem toList_refOf_narrowed (type : TypeExpr) :
    ((extraction.narrowed keep).refOf type).model?.toList =
      (extraction.refOf type).model?.toList.filter keep := by
  rw [model?_refOf_narrowed, Option.toList_filter]

/-- A type that can be called in one way is shown as a function. -/
theorem shapeOf_of_callSignatures {type : TypeExpr} {signature : Signature}
    (callable : type.callSignatures = [signature]) :
    extraction.shapeOf type =
      .function (signature.parameters.map extraction.argumentOf)
        (extraction.returnOf (signature.returnType.getD (.keyword "any"))) := by
  simp [shapeOf, functionShape?, callable]

/-- With fewer known names a field that can be called refers to those models that are kept, if it is
read clearly. -/
theorem references_function_narrowed {type : TypeExpr} {signature : Signature}
    (callable : type.callSignatures = [signature])
    (clear : (extraction.narrowed keep).ReadsClearly type) :
    (extraction.narrowed keep).references type ((extraction.narrowed keep).shapeOf type) =
      (extraction.references type (extraction.shapeOf type)).filter keep := by
  have array : ∀ result, signature.returnType.getD (.keyword "any") = result →
      result.element?.isSome →
        (extraction.narrowed keep).nameOf result ∉ (extraction.narrowed keep).known := by
    rintro result rfl isArray
    cases typed : signature.returnType with
    | none =>
      rw [typed] at isArray
      cases isArray
    | some result =>
      rw [typed] at isArray
      exact clear.returned signature (callable ▸ List.mem_singleton_self _) result typed isArray
  rw [shapeOf_of_callSignatures _ callable, shapeOf_of_callSignatures _ callable,
    references_function _ callable, references_function _ callable, List.filter_append,
    List.filter_flatMap, ← Option.toList_filter,
    extraction.model?_returnOf_narrowed keep (array _ rfl)]
  congr 1
  exact congrArg (signature.parameters.flatMap ·)
    (funext fun parameter => extraction.argumentReferences_narrowed keep parameter)

/-- A union is shown as one if an operand names a model. -/
theorem shapeOf_of_operands? {type : TypeExpr} {items : List TypeExpr}
    (h : type.operands? = some items) :
    extraction.shapeOf type =
      if items.any fun item => (extraction.model? item).isSome then
        .union (items.map extraction.refOf)
      else .scalar (extraction.refOf type) := by
  obtain ⟨shape, text⟩ := type
  cases shape <;> cases h
  simp only [shapeOf, functionShape?, arrayShape?, genericShape?, unionShape?,
    TypeExpr.callSignatures, TypeExpr.element?, TypeExpr.operands?, Option.map_none,
    Option.none_or, Option.filter_some]
  split_ifs <;> rfl

/-- The field of a union shows it as a whole only if no operand names a model. -/
theorem shape_of_items {type : TypeExpr} {shape : FieldShape}
    (made : shape = extraction.shapeOf type ∨ shape = extraction.aliasShapeOf type)
    {items : List TypeExpr} (union : type.operands? = some items) :
    (∀ item ∈ items, extraction.model? item = none) ∧ shape = .scalar (extraction.refOf type) ∨
      shape = .union (items.map extraction.refOf) := by
  rcases made with rfl | rfl
  · rw [shapeOf_of_operands? _ union]
    split_ifs with named
    · exact .inr rfl
    · exact .inl ⟨by simpa using named, rfl⟩
  · rw [aliasShapeOf, union]
    exact .inr rfl

/-- The name of a union of which no operand is left is not looked up in vain: it would be that of an
operand. -/
theorem references_union_narrowed {type : TypeExpr} {items : List TypeExpr}
    (h : type.operands? = some items) (clear : (extraction.narrowed keep).ReadsClearly type) :
    (extraction.narrowed keep).references type ((extraction.narrowed keep).shapeOf type) =
      (extraction.references type (extraction.shapeOf type)).filter keep := by
  have operands := extraction.filterMap_refOf_narrowed keep items
  rw [shapeOf_of_operands? _ h, shapeOf_of_operands? _ h]
  by_cases left : items.any fun item => ((extraction.narrowed keep).model? item).isSome
  · -- the operand that is left was there before
    have before : items.any fun item => (extraction.model? item).isSome := by
      obtain ⟨item, mem, named⟩ := List.any_eq_true.mp left
      refine List.any_eq_true.mpr ⟨item, mem, ?_⟩
      rw [model?_narrowed] at named
      exact Option.isSome_of_isSome_filter _ _ named
    rw [if_pos left, if_pos before]
    exact operands
  · have gone : ∀ item ∈ items, (extraction.narrowed keep).model? item = none := by
      simpa using left
    have text : (extraction.narrowed keep).model? type = none := by
      refine (model?_eq_none_iff _).mpr fun known => ?_
      obtain ⟨item, mem, same⟩ := clear.union items h known
      exact (model?_eq_none_iff _).mp (gone item mem) (same ▸ known)
    have nothing : ((items.map (extraction.narrowed keep).refOf).filterMap (·.model?)) = [] := by
      rw [List.filterMap_map, List.filterMap_eq_nil_iff]
      intro item mem
      exact (model?_refOf _ item).trans (gone item mem)
    have alone : ((extraction.narrowed keep).refOf type).model?.toList = [] := by
      rw [model?_refOf, text, Option.toList_none]
    rw [if_neg left]
    split_ifs
    · exact alone.trans (nothing.symm.trans operands)
    · exact extraction.toList_refOf_narrowed keep type

/-- A type refers to what is left of what it referred to before. -/
theorem references_shapeOf_narrowed {type : TypeExpr}
    (clear : (extraction.narrowed keep).ReadsClearly type) :
    (extraction.narrowed keep).references type ((extraction.narrowed keep).shapeOf type) =
      (extraction.references type (extraction.shapeOf type)).filter keep := by
  obtain ⟨shape, text⟩ := type
  cases shape with
  | function signature => exact extraction.references_function_narrowed keep rfl clear
  | object members signatures =>
    rcases signatures with _ | ⟨signature, _ | ⟨second, more⟩⟩
    · exact extraction.toList_refOf_narrowed keep _
    · exact extraction.references_function_narrowed keep rfl clear
    · exact extraction.toList_refOf_narrowed keep _
  | union items => exact extraction.references_union_narrowed keep rfl clear
  | array element => exact extraction.toList_refOf_narrowed keep element
  | reference name arguments =>
    rcases arguments with _ | ⟨first, rest⟩
    · exact extraction.toList_refOf_narrowed keep _
    · exact extraction.filterMap_refOf_narrowed keep (first :: rest)
  | keyword | literal | tuple | intersection | indexedAccess | this | unsupported =>
    exact extraction.toList_refOf_narrowed keep _

/-- So does the value of an alias. -/
theorem references_aliasShapeOf_narrowed {type : TypeExpr}
    (clear : (extraction.narrowed keep).ReadsClearly type) :
    (extraction.narrowed keep).references type ((extraction.narrowed keep).aliasShapeOf type) =
      (extraction.references type (extraction.aliasShapeOf type)).filter keep := by
  unfold aliasShapeOf
  cases type.operands? with
  | some items => exact extraction.filterMap_refOf_narrowed keep items
  | none =>
    show (extraction.narrowed keep).references type
      (if extraction.scope.isValueLike type then _ else _) = _
    simp only
    split_ifs
    · exact extraction.toList_refOf_narrowed keep type
    · exact extraction.references_shapeOf_narrowed keep clear

/-! ### Fields -/

/-- With fewer known names the fields of members refer to those models that are kept, if they are
read clearly. -/
theorem fieldReferences_memberFieldsOf_narrowed {members : List Member}
    (clear : ∀ type ∈ extraction.memberTypes members,
      (extraction.narrowed keep).ReadsClearly type) :
    (extraction.narrowed keep).fieldReferences ((extraction.narrowed keep).memberTypes members)
        ((extraction.narrowed keep).memberFieldsOf members) =
      (extraction.fieldReferences (extraction.memberTypes members)
        (extraction.memberFieldsOf members)).filter keep := by
  rw [fieldReferences_memberFieldsOf, fieldReferences_memberFieldsOf, List.filter_flatMap]
  refine List.flatMap_congr fun member shown => ?_
  exact extraction.references_shapeOf_narrowed keep
    (clear _ (List.mem_map.mpr ⟨member, shown, rfl⟩))

/-- With fewer known names the fields of an alias refer to those models that are kept, if they are
read clearly. -/
theorem fieldReferences_aliasFieldsOf_narrowed {declared : TypeExpr}
    (clear : ∀ type ∈ extraction.aliasTypes declared,
      (extraction.narrowed keep).ReadsClearly type) :
    (extraction.narrowed keep).fieldReferences ((extraction.narrowed keep).aliasTypes declared)
        ((extraction.narrowed keep).aliasFieldsOf declared) =
      (extraction.fieldReferences (extraction.aliasTypes declared)
        (extraction.aliasFieldsOf declared)).filter keep := by
  have value (type : TypeExpr) (only : (extraction.narrowed keep).ReadsClearly type) :
      (extraction.narrowed keep).fieldReferences [type]
          [⟨SchemaField.aliasValue, false, (extraction.narrowed keep).aliasShapeOf type⟩] =
        (extraction.fieldReferences [type]
          [⟨SchemaField.aliasValue, false, extraction.aliasShapeOf type⟩]).filter keep := by
    rw [fieldReferences_singleton, fieldReferences_singleton]
    exact extraction.references_aliasShapeOf_narrowed keep only
  unfold aliasTypes at clear
  unfold aliasFieldsOf aliasTypes
  cases shape : declared.shape
  case object members signatures =>
    simp only [shape] at clear ⊢
    split_ifs at clear ⊢ with fields
    · exact extraction.fieldReferences_memberFieldsOf_narrowed keep clear
    · exact value declared (clear _ (List.mem_singleton_self _))
  all_goals
    simp only [shape] at clear
    exact value _ (clear _ (List.mem_singleton_self _))

/-! ### Models -/

/-- The names of fields of members, and which are optional, do not depend on what is known. -/
theorem map_memberFieldsOf_narrowed (members : List Member) :
    ((extraction.narrowed keep).memberFieldsOf members).map
        (fun field => (field.name, field.optional)) =
      (extraction.memberFieldsOf members).map fun field => (field.name, field.optional) := by
  unfold memberFieldsOf
  rw [List.map_map, List.map_map]
  rfl

/-- The names of fields of an alias, and which are optional, do not depend on what is known. -/
theorem map_aliasFieldsOf_narrowed (declared : TypeExpr) :
    ((extraction.narrowed keep).aliasFieldsOf declared).map
        (fun field => (field.name, field.optional)) =
      (extraction.aliasFieldsOf declared).map fun field => (field.name, field.optional) := by
  unfold aliasFieldsOf aliasTypes
  cases declared.shape
  case object members signatures =>
    simp only
    split_ifs
    · exact extraction.map_memberFieldsOf_narrowed keep members
    · rfl
  all_goals rfl

/-- The fields keep their names, and they stay optional or not. -/
theorem map_schemaOf_narrowed (candidate : Candidate) :
    ((extraction.narrowed keep).schemaOf candidate).map
        (fun field => (field.name, field.optional)) =
      (extraction.schemaOf candidate).map fun field => (field.name, field.optional) :=
  match candidate with
  | .interface decl => extraction.map_memberFieldsOf_narrowed keep decl.members
  | .typeAlias decl => extraction.map_aliasFieldsOf_narrowed keep decl.declared
  | .class decl => extraction.map_memberFieldsOf_narrowed keep decl.members

/-- With fewer known names those models are left among supertypes that are kept. -/
theorem filterMap_supertype_narrowed (types : List TypeExpr) :
    (types.map (extraction.narrowed keep).supertype).filterMap (·.model?) =
      ((types.map extraction.supertype).filterMap (·.model?)).filter keep := by
  rw [List.filterMap_map, List.filterMap_map, List.filter_filterMap]
  exact congrArg (types.filterMap ·)
    (funext fun type => extraction.model?_supertype_narrowed keep type)

/-- With fewer known names those models are left among the supertypes of a candidate that are
kept. -/
theorem supertypes_narrowed (candidate : Candidate) :
    ((extraction.narrowed keep).kindOf candidate).supertypes.filterMap (·.model?) =
      ((extraction.kindOf candidate).supertypes.filterMap (·.model?)).filter keep := by
  cases candidate with
  | interface decl =>
    simp only [kindOf, ModelKind.supertypes, ModelKind.extended, ModelKind.implemented,
      List.append_nil]
    exact extraction.filterMap_supertype_narrowed keep decl.bases
  | typeAlias decl => rfl
  | «class» decl =>
    simp only [kindOf, ModelKind.supertypes, ModelKind.extended, ModelKind.implemented,
      Option.toList_map, ← List.map_append]
    exact extraction.filterMap_supertype_narrowed keep _

/-- With fewer known names what is indexed names a model if it did and this is kept. -/
theorem indexedModel?_narrowed (declared : TypeExpr) :
    (extraction.narrowed keep).indexedModel? declared =
      (extraction.indexedModel? declared).filter keep := by
  unfold indexedModel?
  cases declared.shape
  case indexedAccess object index => exact extraction.model?_narrowed keep object
  all_goals rfl

/-- With fewer known names a candidate indexes a model if it did and this is kept. -/
theorem indexedBy?_narrowed (candidate : Candidate) :
    (extraction.narrowed keep).indexedBy? candidate =
      (extraction.indexedBy? candidate).filter keep :=
  match candidate with
  | .typeAlias decl => extraction.indexedModel?_narrowed keep decl.declared
  | .interface _ | .class _ => rfl

/-- A candidate refers to what is left of what it referred to before. -/
theorem referencesOf_narrowed {candidate : Candidate}
    (clear : ∀ type ∈ extraction.fieldTypes candidate,
      (extraction.narrowed keep).ReadsClearly type) :
    (extraction.narrowed keep).referencesOf candidate
        ((extraction.narrowed keep).kindOf candidate).supertypes
        ((extraction.narrowed keep).schemaOf candidate) =
      (extraction.referencesOf candidate (extraction.kindOf candidate).supertypes
        (extraction.schemaOf candidate)).filter keep := by
  have fields : (extraction.narrowed keep).fieldReferences
        ((extraction.narrowed keep).fieldTypes candidate)
        ((extraction.narrowed keep).schemaOf candidate) =
      (extraction.fieldReferences (extraction.fieldTypes candidate)
        (extraction.schemaOf candidate)).filter keep := by
    cases candidate with
    | interface decl => exact extraction.fieldReferences_memberFieldsOf_narrowed keep clear
    | typeAlias decl => exact extraction.fieldReferences_aliasFieldsOf_narrowed keep clear
    | «class» decl => exact extraction.fieldReferences_memberFieldsOf_narrowed keep clear
  unfold referencesOf
  rw [supertypes_narrowed, indexedBy?_narrowed, fields, Option.toList_filter, List.filter_append,
    List.filter_append]

end Extraction

/-- Of the items that pass a test, the first occurrences are those among all items. -/
theorem eraseDups_filter (test : String → Bool) (ids : List String) :
    (ids.filter test).eraseDups = ids.eraseDups.filter test := by
  induction ids using List.reverseRecOn with
  | nil => rfl
  | append_singleton ids last ih =>
    rw [List.filter_append, List.eraseDups_append, List.eraseDups_append, List.filter_append, ih]
    congr 1
    by_cases passes : test last <;> by_cases old : last ∈ ids <;>
      simp [List.removeAll, List.eraseDups_cons, passes, old]

/-- With fewer known names a model depends on those models that are kept, if the types of its fields
are read clearly. -/
theorem Extraction.dependencies_modelOf_narrowed (extraction : Extraction) (keep : String → Bool)
    {candidate : Extraction.Candidate}
    (clear : ∀ type ∈ extraction.fieldTypes candidate,
      (extraction.narrowed keep).ReadsClearly type) :
    ((extraction.narrowed keep).modelOf candidate).dependencies =
      (extraction.modelOf candidate).dependencies.filter keep := by
  rw [dependencies_modelOf, dependencies_modelOf, referencesOf_narrowed _ _ clear, eraseDups_filter]

namespace Extraction

/-! ### Chosen declarations -/

/-- With classes the candidates are those without, and then the classes. -/
theorem candidates_withClasses (declarations : Declarations) (config : ExtractConfig) :
    candidates declarations (config.withClasses true) =
      candidates declarations (config.withClasses false) ++ declarations.classes.map .class := by
  simp [candidates, ExtractConfig.withClasses]

/-- Without classes no candidate is one. -/
theorem isClass_of_mem_candidates {declarations : Declarations} {config : ExtractConfig}
    {candidate : Candidate} (mem : candidate ∈ candidates declarations (config.withClasses false)) :
    candidate.isClass = false := by
  simp only [candidates, ExtractConfig.withClasses, Bool.false_eq_true, if_false, List.append_nil,
    List.mem_append, List.mem_map] at mem
  rcases mem with ⟨_, _, rfl⟩ | ⟨_, _, rfl⟩ <;> rfl

/-- Classes come last, so they take no name from any other candidate. -/
theorem filter_choose_append {others classes : List Candidate}
    (none : ∀ candidate ∈ others, candidate.isClass = false)
    (all : ∀ candidate ∈ classes, candidate.isClass = true) :
    (choose (others ++ classes)).filter (!·.isClass) = choose others := by
  induction classes using List.reverseRecOn with
  | nil =>
    rw [List.append_nil]
    refine List.filter_eq_self.mpr fun candidate mem => ?_
    have found := List.mem_of_find?_eq_some (mem_choose_iff.mp mem)
    rw [none candidate found, Bool.not_false]
  | append_singleton classes last ih =>
    have before := ih fun candidate mem => all candidate (List.mem_append_left _ mem)
    have isClass : last.isClass = true := all last (List.mem_append_right _ (by simp))
    rw [← List.append_assoc, choose_concat]
    split_ifs
    · exact before
    · rw [List.filter_append, before, List.filter_singleton, isClass]
      simp

end Extraction

namespace Model

def isClass (model : Model) : Bool :=
  match model.kind with
  | .class _ _ => true
  | _ => false

/-- The ids of classes. -/
def classIds (models : List Model) : List String := (models.filter (·.isClass)).map (·.id)

/-- The second model is the first one where some models are left out. It has the same fields, which
may be shown in another way, and refers to the models that are left, and only they refer to it. -/
structure LosesOnly (removed : List String) (before after : Model) : Prop where
  id : after.id = before.id
  name : after.name = before.name
  kind : after.kind.word = before.kind.word
  parameters : after.parameters = before.parameters
  fields : after.schema.map (fun field => (field.name, field.optional)) =
    before.schema.map fun field => (field.name, field.optional)
  dependencies : after.dependencies = before.dependencies.filter (· ∉ removed)
  dependants : after.dependants = before.dependants.filter (· ∉ removed)

/-- All types of fields are read clearly where there are no classes. -/
def ReadsClearly (scope : Scope) (config : ExtractConfig) : Prop :=
  ∀ candidate ∈ chosen scope (config.withClasses false),
    ∀ type ∈ (extraction scope (config.withClasses false)).fieldTypes candidate,
      (extraction scope (config.withClasses false)).ReadsClearly type

instance (scope : Scope) (config : ExtractConfig) : Decidable (ReadsClearly scope config) := by
  unfold ReadsClearly
  infer_instance

section

variable (scope : Scope) (config : ExtractConfig)

/-- Without classes models are made from the same candidates less the classes, for a class takes no
name from those before it. -/
theorem chosen_withClasses :
    chosen scope (config.withClasses false) =
      (chosen scope (config.withClasses true)).filter (!·.isClass) := by
  rw [chosen, chosen, Extraction.candidates_withClasses]
  refine (Extraction.filter_choose_append
    (fun _ mem => Extraction.isClass_of_mem_candidates mem) ?_).symm
  exact List.forall_mem_map.mpr fun _ _ => rfl

/-- The models of chosen candidates, each with those that depend on it. -/
theorem ofScope_eq_map :
    ofScope scope config = (chosen scope config).map fun candidate =>
      ((extraction scope config).modelOf candidate).withDependants
        (((extraction scope config).modelOf candidate).dependantsAmong
          (extracted scope config)) := by
  rw [ofScope_eq, extracted, List.map_map]
  rfl

/-- The model of a candidate is one of a class exactly if the candidate is. -/
theorem isClass_modelOf (extraction : Extraction) (candidate : Extraction.Candidate) :
    (extraction.modelOf candidate).isClass = candidate.isClass := by
  cases candidate <;> rfl

/-- The ids of classes are the names of the candidates that are classes. -/
theorem classIds_ofScope :
    classIds (ofScope scope config) =
      ((chosen scope config).filter (·.isClass)).map (·.name) := by
  rw [classIds, ofScope_eq_map, List.filter_map, List.map_map]
  refine congrArg (List.map _) (List.filter_congr fun candidate _ => ?_)
  exact isClass_modelOf _ candidate

variable {scope config}

/-- No other declaration has the name of a class that has a model. -/
theorem name_mem_classIds_iff {candidate : Extraction.Candidate}
    (mem : candidate ∈ chosen scope config) :
    candidate.name ∈ classIds (ofScope scope config) ↔ candidate.isClass = true := by
  rw [classIds_ofScope]
  constructor
  · intro named
    obtain ⟨other, listed, same⟩ := List.mem_map.mp named
    obtain ⟨chosenToo, isClass⟩ := List.mem_filter.mp listed
    obtain rfl : other = candidate :=
      List.inj_on_of_nodup_map (nodup_known scope config) chosenToo mem same
    exact isClass
  · intro isClass
    exact List.mem_map.mpr ⟨candidate, List.mem_filter.mpr ⟨mem, isClass⟩, rfl⟩

/-- No model that is not of a class has the id of one. -/
theorem not_mem_classIds {candidate : Extraction.Candidate}
    (mem : candidate ∈ chosen scope config) :
    decide (candidate.name ∉ classIds (ofScope scope config)) = !candidate.isClass := by
  have told := name_mem_classIds_iff mem
  cases isClass : candidate.isClass <;> simp [told, isClass]

variable (scope config)

/-- Without classes, the names of those that had models are no longer known. -/
theorem extraction_withClasses :
    extraction scope (config.withClasses false) =
      (extraction scope (config.withClasses true)).narrowed
        (· ∉ classIds (ofScope scope (config.withClasses true))) := by
  have known : (chosen scope (config.withClasses false)).map (·.name) =
      ((chosen scope (config.withClasses true)).map (·.name)).filter
        (· ∉ classIds (ofScope scope (config.withClasses true))) := by
    rw [chosen_withClasses, List.filter_map]
    refine congrArg (List.map _) (List.filter_congr fun candidate mem => ?_)
    exact (not_mem_classIds mem).symm
  rw [extraction, extraction, Extraction.ofChosen, known]
  rfl

variable {scope config}

/-- Without classes a model depends on what is left of its dependencies. -/
theorem dependencies_withClasses (clear : ReadsClearly scope config)
    {candidate : Extraction.Candidate} (mem : candidate ∈ chosen scope (config.withClasses false)) :
    ((extraction scope (config.withClasses false)).modelOf candidate).dependencies =
      ((extraction scope (config.withClasses true)).modelOf candidate).dependencies.filter
        (· ∉ classIds (ofScope scope (config.withClasses true))) := by
  have types := clear candidate mem
  rw [extraction_withClasses] at types ⊢
  exact Extraction.dependencies_modelOf_narrowed _ _ types

/-- The dependants of a model are the chosen candidates that depend on it. -/
theorem dependantsAmong_extracted (model : Model) :
    model.dependantsAmong (extracted scope config) =
      ((chosen scope config).filter fun candidate =>
        ((extraction scope config).modelOf candidate).dependsOn model.id).map (·.name) := by
  rw [dependantsAmong, extracted, List.filter_map, List.map_map]
  rfl

/-- Without classes a model has what is left of its dependants. -/
theorem dependantsAmong_withClasses (clear : ReadsClearly scope config)
    {candidate : Extraction.Candidate} (mem : candidate ∈ chosen scope (config.withClasses false)) :
    ((extraction scope (config.withClasses false)).modelOf candidate).dependantsAmong
        (extracted scope (config.withClasses false)) =
      (((extraction scope (config.withClasses true)).modelOf candidate).dependantsAmong
        (extracted scope (config.withClasses true))).filter
          (· ∉ classIds (ofScope scope (config.withClasses true))) := by
  have left : candidate.name ∉ classIds (ofScope scope (config.withClasses true)) := by
    rw [chosen_withClasses, List.mem_filter] at mem
    rw [name_mem_classIds_iff mem.1]
    simpa using mem.2
  have kept : ∀ other ∈ chosen scope (config.withClasses false),
      ((extraction scope (config.withClasses false)).modelOf other).dependsOn candidate.name =
        ((extraction scope (config.withClasses true)).modelOf other).dependsOn candidate.name := by
    intro other listed
    simp [dependsOn, dependencies_withClasses clear listed, left]
  rw [dependantsAmong_extracted, dependantsAmong_extracted, List.filter_map, List.filter_filter]
  show ((chosen scope (config.withClasses false)).filter fun other =>
    ((extraction scope (config.withClasses false)).modelOf other).dependsOn
      candidate.name).map (·.name) = _
  rw [List.filter_congr kept, chosen_withClasses, List.filter_filter]
  refine congrArg (List.map _) (List.filter_congr fun other listed => ?_)
  rw [Function.comp_apply, not_mem_classIds listed, Bool.and_comm]
  rfl

/-- Where the types of fields are read clearly, leaving classes out leaves all other models. They
refer to no class any more, and nothing else about them changes but how their fields are shown. -/
theorem losesOnly_ofScope (scope : Scope) (config : ExtractConfig)
    (clear : ReadsClearly scope config) :
    List.Forall₂ (LosesOnly (classIds (ofScope scope (config.withClasses true))))
      ((ofScope scope (config.withClasses true)).filter (!·.isClass))
      (ofScope scope (config.withClasses false)) := by
  have others : (ofScope scope (config.withClasses true)).filter (!·.isClass) =
      (chosen scope (config.withClasses false)).map fun candidate =>
        ((extraction scope (config.withClasses true)).modelOf candidate).withDependants
          (((extraction scope (config.withClasses true)).modelOf candidate).dependantsAmong
            (extracted scope (config.withClasses true))) := by
    rw [ofScope_eq_map, List.filter_map, chosen_withClasses]
    refine congrArg (List.map _) (List.filter_congr fun candidate _ => ?_)
    exact congrArg (!·) (isClass_modelOf _ candidate)
  rw [others, ofScope_eq_map scope (config.withClasses false), List.forall₂_map_left_iff,
    List.forall₂_map_right_iff, List.forall₂_same]
  intro candidate mem
  exact
    { id := rfl
      name := rfl
      kind := by cases candidate <;> rfl
      parameters := rfl
      fields := by
        show ((extraction scope (config.withClasses false)).modelOf candidate).schema.map _ =
          ((extraction scope (config.withClasses true)).modelOf candidate).schema.map _
        rw [Extraction.schema_modelOf, Extraction.schema_modelOf, extraction_withClasses]
        exact Extraction.map_schemaOf_narrowed _ _ candidate
      dependencies := dependencies_withClasses clear mem
      dependants := dependantsAmong_withClasses clear mem }

end

/-- An interface with fields that refer to a class and to another interface. -/
def mixed : Scope where
  declarations := .ofList
    [.interface ⟨"Page", default, [], [],
        [⟨"owner", true, false, .property (some ⟨.union
            [⟨.reference "User" [], "User"⟩, ⟨.reference "Group" [], "Group"⟩],
            "User | Group"⟩), default, .own⟩,
          ⟨"readers", false, false, .method [⟨[], [],
            some ⟨.array ⟨.reference "User" [], "User"⟩, "User[]"⟩, false, true⟩],
            default, .own⟩]⟩,
      .interface ⟨"Group", default, [], [], []⟩,
      .class ⟨"User", default, [], false, none, [], []⟩]
  hops := 32

/-- The fields of the example are read clearly, and it loses the class only. -/
theorem losesOnly_mixed :
    ReadsClearly mixed {} ∧
      List.Forall₂ (LosesOnly (classIds (ofScope mixed (ExtractConfig.withClasses {} true))))
        ((ofScope mixed (ExtractConfig.withClasses {} true)).filter (!·.isClass))
        (ofScope mixed (ExtractConfig.withClasses {} false)) := by
  have clear : ReadsClearly mixed {} := by decide +kernel
  exact ⟨clear, losesOnly_ofScope mixed {} clear⟩

/-! ### A union that is cut down to a name -/

/-- An interface with a field of type `import("x") | A | typeof import("y").B`. -/
def clipped : Scope where
  declarations := .ofList
    [.interface ⟨"B", default, [], [], []⟩,
      .interface ⟨"X", default, [], [],
        [⟨"f", false, false, .property (some ⟨.union
            [⟨.unsupported, "import(\"x\")"⟩, ⟨.reference "A" [], "A"⟩,
              ⟨.unsupported, "typeof import(\"y\").B"⟩],
            "import(\"x\") | A | typeof import(\"y\").B"⟩), default, .own⟩]⟩,
      .class ⟨"A", default, [], false, none, [], []⟩]
  hops := 32

/-- With the class `A`, the interface `X` depends on `A` alone. Without it, `X` depends on `B`. -/
theorem not_losesOnly_clipped :
    (∀ model ∈ ofScope clipped {}, model.id.toList.all (·.isAlpha)) ∧
      ¬ List.Forall₂ (LosesOnly (classIds (ofScope clipped (ExtractConfig.withClasses {} true))))
        ((ofScope clipped (ExtractConfig.withClasses {} true)).filter (!·.isClass))
        (ofScope clipped (ExtractConfig.withClasses {} false)) := by
  refine ⟨by decide +kernel, fun h => ?_⟩
  have told : ((ofScope clipped (ExtractConfig.withClasses {} true)).filter (!·.isClass)).map
        (fun model => model.dependencies.filter
          (· ∉ classIds (ofScope clipped (ExtractConfig.withClasses {} true)))) =
      (ofScope clipped (ExtractConfig.withClasses {} false)).map (·.dependencies) := by
    rw [← List.forall₂_eq_eq_eq, List.forall₂_map_left_iff, List.forall₂_map_right_iff]
    exact h.imp fun _ _ loses => loses.dependencies.symm
  have before : ((ofScope clipped (ExtractConfig.withClasses {} true)).filter (!·.isClass)).map
      (fun model => model.dependencies.filter
        (· ∉ classIds (ofScope clipped (ExtractConfig.withClasses {} true)))) = [[], []] := by
    decide +kernel
  have after : (ofScope clipped (ExtractConfig.withClasses {} false)).map (·.dependencies) =
      [[], ["B"]] := by
    decide +kernel
  rw [before, after] at told
  simp at told

end Model

end TypeAtlas
