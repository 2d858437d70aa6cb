import TypeAtlas.Proofs.Model.Alternatives
import TypeAtlas.Proofs.Model.TypeParameters

/-!
# The models that indexed aliases are chained to

An alias such as `type A = M["a"]` depends on `M`, whether or not there is a property `a`. For this
the type that is indexed is looked up by the text it was written as, and by nothing else. So the
base of a chain of keys is met if it is a bare name and there is one key, and in a longer chain, or
after type arguments, only by what the chain yields.

Main statement: `Model.registerIndexed_ofSource`. In the models of every source, an alias for one
key of a bare name depends on the model of that name. An alias for any chain of keys depends on the
model of its base exactly if the outermost type that is indexed is written as its name or the value
refers to it, and is among its dependants exactly if it depends on it. Neither a second key
(`Model.not_registered_twice`) nor type arguments (`Model.not_registered_generic`) leave the base
met.
-/

set_option autoImplicit false

namespace TypeAtlas

/-! ### Chains of keys -/

namespace TypeExpr

/-- A type is a base with so many keys after it. -/
inductive IndexChain (base : TypeExpr) : Nat → TypeExpr → Prop
  | nil : IndexChain base 0 base
  | key {keys : Nat} {object : TypeExpr} (index : TypeExpr) (text : String)
      (chain : IndexChain base keys object) :
      IndexChain base (keys + 1) ⟨.indexedAccess object index, text⟩

/-- The type that an indexed access indexes. -/
def indexed? (type : TypeExpr) : Option TypeExpr :=
  match type.shape with
  | .indexedAccess object _ => some object
  | _ => none

namespace IndexChain

variable {base type : TypeExpr} {keys : Nat}

/-- The last key of a chain indexes what is left of the chain without it. -/
theorem exists_indexed? (chain : base.IndexChain (keys + 1) type) :
    ∃ object, type.indexed? = some object ∧ base.IndexChain keys object := by
  cases chain with
  | key index text chain => exact ⟨_, rfl, chain⟩

/-- A base with one key after it is what the key indexes. -/
theorem indexed?_of_one (chain : base.IndexChain 1 type) : type.indexed? = some base := by
  obtain ⟨object, indexed, short⟩ := chain.exists_indexed?
  cases short
  exact indexed

end IndexChain

end TypeExpr

namespace Extraction

variable (extraction : Extraction)

/-! ### Dependencies of an indexed alias -/

/-- What an indexed alias stands for: what the access yields, or else the access itself. -/
def indexedValue (declared : TypeExpr) : TypeExpr :=
  (extraction.scope.access? declared).getD declared

/-- The models that the value of an indexed alias refers to. -/
def valueReferences (declared : TypeExpr) : List String :=
  extraction.references (extraction.indexedValue declared)
    (extraction.aliasShapeOf (extraction.indexedValue declared))

/-- A bare name that is known, qualified or not, names its model. -/
theorem model?_of_isName {name : String} {type : TypeExpr} (h : type.IsName name)
    (known : Text.unqualified name ∈ extraction.known) :
    extraction.model? type = some (Text.unqualified name) := by
  rw [model?, nameOf, extraction.scope.nameOf_of_isName h]
  simp [known]

/-- The model of an indexed alias depends on the model that the indexed type is written as, and on
those that the value refers to. -/
theorem mem_dependencies_of_indexed? {decl : AliasDecl} {object : TypeExpr}
    (indexed : decl.declared.indexed? = some object) {id : String} :
    id ∈ (extraction.modelOf (.typeAlias decl)).dependencies ↔
      extraction.model? object = some id ∨ id ∈ extraction.valueReferences decl.declared := by
  have noSupertypes : (extraction.kindOf (.typeAlias decl)).supertypes = [] := rfl
  obtain ⟨index, shape⟩ : ∃ index, decl.declared.shape = .indexedAccess object index := by
    unfold TypeExpr.indexed? at indexed
    split at indexed
    · rename_i shape
      cases indexed
      exact ⟨_, shape⟩
    · cases indexed
  have fields : extraction.schemaOf (.typeAlias decl) =
      [⟨SchemaField.aliasValue, false,
        extraction.aliasShapeOf (extraction.indexedValue decl.declared)⟩] := by
    simp only [schemaOf, aliasFieldsOf, aliasTypes, shape, List.map_cons, List.map_nil, indexedValue]
  have types : extraction.fieldTypes (.typeAlias decl) = [extraction.indexedValue decl.declared] := by
    simp only [fieldTypes, aliasTypes, shape, indexedValue]
  have base : extraction.indexedBy? (.typeAlias decl) = extraction.model? object := by
    simp only [indexedBy?, indexedModel?, shape]
  rw [dependencies_modelOf, List.mem_eraseDups, referencesOf, noSupertypes, fields, types, base,
    fieldReferences_singleton, List.filterMap_nil, List.nil_append, List.mem_append,
    Option.mem_toList]
  rfl

/-! ### Chains over a model -/

/-- An alias is declared as a chain of keys over a reference to a model. -/
structure Indexes (decl : AliasDecl) (base : TypeExpr) (name : String) (keys : Nat) : Prop where
  chain : base.IndexChain (keys + 1) decl.declared
  reference : ∃ arguments, base.shape = .reference name arguments
  known : Text.unqualified name ∈ extraction.known

/-- The model of an alias for a chain of keys, among all models. It depends on the model of the base
if the base is a bare name and there is one key. However long the chain is, it depends on that model
exactly if the outermost type that is indexed is written as its name or the value refers to it.
There is such a model, and the same tells whether the alias is one of its dependants. -/
structure Registers (models : List Model) (decl : AliasDecl) (model : Model) (base : TypeExpr)
    (name : String) (keys : Nat) : Prop where
  bare : keys = 0 → base.IsName name → Text.unqualified name ∈ model.dependencies
  exactly : Text.unqualified name ∈ model.dependencies ↔
    (∃ object, decl.declared.indexed? = some object ∧
      extraction.nameOf object = Text.unqualified name) ∨
    Text.unqualified name ∈ extraction.valueReferences decl.declared
  dependants : ∃ target ∈ models, target.id = Text.unqualified name ∧
    (model.id ∈ target.dependants ↔ Text.unqualified name ∈ model.dependencies)

section

variable {extraction} {decl : AliasDecl} {base : TypeExpr} {name : String} {keys : Nat}

/-- An alias for one key of a bare name depends on the model of the name. -/
theorem Indexes.mem_dependencies_of_bare (h : extraction.Indexes decl base name 0)
    (bare : base.IsName name) :
    Text.unqualified name ∈ (extraction.modelOf (.typeAlias decl)).dependencies := by
  rw [extraction.mem_dependencies_of_indexed? h.chain.indexed?_of_one]
  exact .inl (extraction.model?_of_isName bare h.known)

/-- An alias for a chain of keys depends on the model of the base exactly if the outermost object
has its name or the value refers to it. -/
theorem Indexes.mem_dependencies_iff (h : extraction.Indexes decl base name keys) :
    Text.unqualified name ∈ (extraction.modelOf (.typeAlias decl)).dependencies ↔
      (∃ object, decl.declared.indexed? = some object ∧
        extraction.nameOf object = Text.unqualified name) ∨
      Text.unqualified name ∈ extraction.valueReferences decl.declared := by
  obtain ⟨object, indexed, _⟩ := h.chain.exists_indexed?
  have written : extraction.model? object = some (Text.unqualified name) ↔
      extraction.nameOf object = Text.unqualified name := by
    simp only [model?, List.contains_iff_mem, Option.ite_none_right_eq_some, Option.some.injEq]
    exact ⟨fun both => both.2, fun same => ⟨same ▸ h.known, same⟩⟩
  rw [extraction.mem_dependencies_of_indexed? indexed, written, indexed]
  simp

end

end Extraction

namespace Model

/-! ### The models of a source -/

/-- In a graph of models, dependants are told by dependencies. -/
theorem IsGraph.mem_dependants_iff {known : List String} {models : List Model}
    (graph : IsGraph known models) {model target : Model} (mem : model ∈ models)
    (among : target ∈ models) : model.id ∈ target.dependants ↔ target.id ∈ model.dependencies := by
  rw [graph.dependants_eq target among, List.mem_map]
  constructor
  · rintro ⟨other, found, same⟩
    obtain ⟨inside, depends⟩ := List.mem_filter.mp found
    obtain rfl := List.inj_on_of_nodup_map graph.distinct inside mem same
    exact of_decide_eq_true depends
  · exact fun depends => ⟨model, List.mem_filter.mpr ⟨mem, decide_eq_true depends⟩, rfl⟩

/-- There is one model for each candidate, in order, and that of an alias for a chain of keys
registers the model of its base as far as it is met. -/
def RegisterIndexed (extraction : Extraction) (candidates : List Extraction.Candidate)
    (models : List Model) : Prop :=
  List.Forall₂ (fun candidate model => model.id = candidate.name ∧
      ∀ decl, candidate = .typeAlias decl → ∀ base name keys,
        extraction.Indexes decl base name keys →
          extraction.Registers models decl model base name keys)
    candidates models

/-- The models of every scope register the bases of indexed aliases as far as these are met. -/
theorem registerIndexed_ofScope (scope : Scope) (config : ExtractConfig) :
    RegisterIndexed (extraction scope config) (chosen scope config) (ofScope scope config) := by
  have ids := map_id_ofScope scope config
  have linked := ofScope_eq_map scope config
  -- the models among which dependants are looked for stay as they are
  unfold RegisterIndexed
  nth_rewrite 2 [linked]
  rw [List.forall₂_map_right_iff, List.forall₂_same]
  refine fun candidate chosen => ⟨rfl, ?_⟩
  rintro decl rfl base name keys indexes
  obtain ⟨target, among, same⟩ := List.mem_map.mp (ids ▸ indexes.known)
  refine ⟨?_, indexes.mem_dependencies_iff, target, among, same, ?_⟩
  · rintro rfl bare
    exact indexes.mem_dependencies_of_bare bare
  · rw [← same]
    exact (isGraph_ofScope scope config).mem_dependants_iff (linked ▸ List.mem_map_of_mem chosen) among

/-- In the models of every source, whatever tree its text has been read to, an alias for a chain of
keys over a model depends on that model, and is one of its dependants, as far as the base of the
chain is met. -/
theorem registerIndexed_ofSource (source : Source) (config : ExtractConfig) :
    RegisterIndexed (extraction source.scope config) (chosen source.scope config)
      (ofSource source config) :=
  registerIndexed_ofScope source.scope config

/-- The models of a text register the bases of indexed aliases as far as these are met. An access
for which the question what it yields never ends is its own value (`Scope.access?`). -/
theorem registerIndexed_ofText (text : String) (config : ExtractConfig) :
    RegisterIndexed (extraction (Source.read text config.aliasDepthLimit).scope config)
      (chosen (Source.read text config.aliasDepthLimit).scope config) (ofText text config) :=
  registerIndexed_ofScope _ config

end Model

/-! ### Bases that are not met -/

namespace Node

/-- The interface `M { a: { b: string } }` and the alias `type A = M["a"]["b"]`. -/
def twiceIndexed : Node :=
  group .program none ""
    [interfaceOf "M" [] [propertyOf "a" (group .objectType none "{ b: string }"
        [propertyOf "b" (word .predefinedType none "string")])],
      aliasOf "A" [] (group .lookupType (some .value) "M[\"a\"][\"b\"]"
        [group .lookupType none "M[\"a\"]" [typeWord "M", textWord "\"a\""], textWord "\"b\""])]

/-- The interface `M<T> { a: T }` and the alias `type A = M<string>["a"]`. -/
def genericIndexed : Node :=
  group .program none ""
    [interfaceOf "M" [typeParameter "T"] [propertyOf "a" (typeWord "T")],
      aliasOf "A" [] (group .lookupType (some .value) "M<string>[\"a\"]"
        [group .genericType none "M<string>" [word .typeIdentifier (some .name) "M",
            group .typeArguments (some .typeArguments) "" [word .predefinedType none "string"]],
          textWord "\"a\""])]

/-- The type `M["a"]["b"]`, as it is read. -/
def twiceIndexedType : TypeExpr :=
  ⟨.indexedAccess ⟨.indexedAccess ⟨.reference "M" [], "M"⟩ ⟨.literal "\"a\"", "\"a\""⟩, "M[\"a\"]"⟩
    ⟨.literal "\"b\"", "\"b\""⟩, "M[\"a\"][\"b\"]"⟩

/-- The type `M<string>["a"]`, as it is read. -/
def genericIndexedType : TypeExpr :=
  ⟨.indexedAccess ⟨.reference "M" [⟨.keyword "string", "string"⟩], "M<string>"⟩
    ⟨.literal "\"a\"", "\"a\""⟩, "M<string>[\"a\"]"⟩

/-- What `twiceIndexed` declares. -/
def twiceIndexedDeclarations : Declarations :=
  .ofList
    [.interface ⟨"M", default, [], [],
        [⟨"a", false, false, .property (some ⟨.object [⟨"b", false, false,
          .property (some ⟨.keyword "string", "string"⟩), default, .own⟩] [], "{ b: string }"⟩),
          default, .own⟩]⟩,
      .typeAlias ⟨"A", default, [], twiceIndexedType, twiceIndexedType⟩]

/-- What `genericIndexed` declares. -/
def genericIndexedDeclarations : Declarations :=
  .ofList
    [.interface ⟨"M", default, [⟨"T", none, none⟩], [],
        [⟨"a", false, false, .property (some ⟨.reference "T" [], "T"⟩), default, .own⟩]⟩,
      .typeAlias ⟨"A", default, [], genericIndexedType, genericIndexedType⟩]

/-- The source with two keys declares this interface and this alias. -/
theorem declarationsOf_twiceIndexed :
    Source.declarationsOf twiceIndexed 32 = twiceIndexedDeclarations.withExpandedAliases 32 := by
  have read : Declarations.ofList twiceIndexed.declarations = twiceIndexedDeclarations :=
    congrArg Declarations.ofList (by cbv)
  exact Source.declarationsOf_of_read 32 read (by cbv) rfl

/-- The source with a key of a generic interface declares this interface and this alias. -/
theorem declarationsOf_genericIndexed :
    Source.declarationsOf genericIndexed 32 = genericIndexedDeclarations.withExpandedAliases 32 := by
  have read : Declarations.ofList genericIndexed.declarations = genericIndexedDeclarations :=
    congrArg Declarations.ofList (by cbv)
  exact Source.declarationsOf_of_read 32 read (by cbv) rfl

end Node

namespace Model

/-- The alias is declared as two keys over `M` and yields what they lead to. Its model does not
depend on that of `M`, which has no dependants. -/
theorem not_registered_twice :
    (∃ decl ∈ (Source.declarationsOf Node.twiceIndexed 32).aliases,
      (extraction ⟨Source.declarationsOf Node.twiceIndexed 32, 32⟩ {}).Indexes decl
        ⟨.reference "M" [], "M"⟩ "M" 1) ∧
      (ofScope ⟨Source.declarationsOf Node.twiceIndexed 32, 32⟩ {}).map (fun model =>
          (model.id, model.schema.map (·.render), model.dependencies, model.dependants)) =
        [("M", ["a: { b: string }"], [], []), ("A", ["==>: string"], [], [])] := by
  rw [Node.declarationsOf_twiceIndexed]
  refine ⟨⟨_, List.mem_singleton_self _, ?_⟩, by decide +kernel⟩
  exact ⟨.key _ _ (.key _ _ .nil), ⟨[], rfl⟩, by decide +kernel⟩

/-- The alias is declared as one key over `M<string>` and yields its property. Its model does not
depend on that of `M`, which has no dependants. -/
theorem not_registered_generic :
    (∃ decl ∈ (Source.declarationsOf Node.genericIndexed 32).aliases,
      (extraction ⟨Source.declarationsOf Node.genericIndexed 32, 32⟩ {}).Indexes decl
        ⟨.reference "M" [⟨.keyword "string", "string"⟩], "M<string>"⟩ "M" 0) ∧
      (ofScope ⟨Source.declarationsOf Node.genericIndexed 32, 32⟩ {}).map (fun model =>
          (model.id, model.schema.map (·.render), model.dependencies, model.dependants)) =
        [("M", ["a: T"], [], []), ("A", ["==>: string"], [], [])] := by
  rw [Node.declarationsOf_genericIndexed]
  refine ⟨⟨_, List.mem_singleton_self _, ?_⟩, by decide +kernel⟩
  exact ⟨.key _ _ .nil, ⟨_, rfl⟩, by decide +kernel⟩

end Model

end TypeAtlas
