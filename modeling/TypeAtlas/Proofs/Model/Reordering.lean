import TypeAtlas.Proofs.Declarations.Agreement
import TypeAtlas.Proofs.Model.Graph

/-!
# The order of declarations does not matter to their models

What is extracted for a declaration depends on what names are declared as and on which names have
models (`Extraction.Agree.modelOf`), and a declaration is chosen exactly if it is what the first
candidate of its name is (`Extraction.mem_choose_iff`). So reordered declarations have the same
models before these are linked, in another order. Linking lists the dependants of a model in the
order of the models, and this is all that differs.

Main statement: `Model.exists_perm_ofScope`.
-/

set_option autoImplicit false

namespace TypeAtlas

namespace Extraction

/-! ### The same extraction -/

/-- Two extractions agree on declarations, on settings and on which names have models. -/
structure Agree (extraction other : Extraction) : Prop where
  scope : extraction.scope.Agree other.scope
  config : extraction.config = other.config
  known : ∀ name, name ∈ extraction.known ↔ name ∈ other.known

section Agree

variable {extraction other : Extraction}

/-- Extractions that agree know the same names, in whatever order. -/
theorem Agree.contains (h : extraction.Agree other) (name : String) :
    extraction.known.contains name = other.known.contains name := by
  rw [Bool.eq_iff_iff, List.contains_iff_mem, List.contains_iff_mem, h.known]

/-- Extractions that agree give types the same names. -/
theorem Agree.nameOf (h : extraction.Agree other) : extraction.nameOf = other.nameOf := by
  funext type
  rw [Extraction.nameOf, Extraction.nameOf, h.scope.nameOf]

/-- Extractions that agree find the same models for types. -/
theorem Agree.model? (h : extraction.Agree other) : extraction.model? = other.model? := by
  funext type
  simp only [Extraction.model?, h.nameOf, h.contains]

/-- Extractions that agree find the same models for the elements of arrays. -/
theorem Agree.elementModel? (h : extraction.Agree other) :
    extraction.elementModel? = other.elementModel? := by
  funext type
  simp only [Extraction.elementModel?, h.model?]

/-- Extractions that agree resolve types alike. -/
theorem Agree.resolve (h : extraction.Agree other) : extraction.resolve = other.resolve := by
  funext type
  simp only [Extraction.resolve, h.model?, h.nameOf]

/-- Extractions that agree show supertypes alike. -/
theorem Agree.supertype (h : extraction.Agree other) : extraction.supertype = other.supertype := by
  funext type
  simp only [Extraction.supertype, h.contains, h.nameOf]

/-- Extractions that agree show parameters alike. -/
theorem Agree.argument (h : extraction.Agree other) : extraction.argument = other.argument := by
  funext parameter
  simp only [Extraction.argument, h.elementModel?, h.resolve]

/-- Extractions that agree show returned types alike. -/
theorem Agree.returned (h : extraction.Agree other) : extraction.returned = other.returned := by
  funext type
  simp only [Extraction.returned, h.elementModel?, h.resolve]

/-- Each detector finds the same shape and notes the same models. -/
theorem Agree.detector (h : extraction.Agree other) {detector : Detector}
    (mem : detector ∈ detectors) : detector extraction = detector other := by
  funext type
  simp only [detectors, List.mem_cons, List.not_mem_nil, or_false] at mem
  rcases mem with rfl | rfl | rfl | rfl
  · simp only [function?, h.argument, h.returned]
  · simp only [array?, h.resolve]
  · simp only [generic?, h.resolve]
  · simp only [union?, h.model?, h.resolve]

/-- Extractions that agree find the same first shape, since each detector does. -/
theorem Agree.firstShape (h : extraction.Agree other) (type : TypeExpr) :
    (list : List Detector) → (∀ detector ∈ list, detector ∈ detectors) →
      extraction.firstShape type list = other.firstShape type list
  | [], _ => rfl
  | detector :: rest, all => by
      rw [Extraction.firstShape, Extraction.firstShape, h.detector (all _ List.mem_cons_self),
        h.firstShape type rest fun other mem => all other (List.mem_cons_of_mem _ mem)]

/-- Extractions that agree classify types alike. -/
theorem Agree.classify (h : extraction.Agree other) : extraction.classify = other.classify := by
  funext type
  simp only [Extraction.classify, h.firstShape type detectors fun _ mem => mem, h.resolve]

/-- Extractions that agree make the same fields of members. -/
theorem Agree.memberFields (h : extraction.Agree other) :
    extraction.memberFields = other.memberFields := by
  funext members
  simp only [Extraction.memberFields, shownMembers, field, h.config, h.classify]

/-- Extractions that agree make the same field of an alias. -/
theorem Agree.aliasField (h : extraction.Agree other) :
    extraction.aliasField = other.aliasField := by
  funext type
  simp only [Extraction.aliasField, aliasShape, h.resolve, h.scope.isValueLike, h.classify]

/-- Extractions that agree make the same fields of candidates. -/
theorem Agree.fieldsOf (h : extraction.Agree other) : extraction.fieldsOf = other.fieldsOf := by
  funext candidate
  cases candidate <;>
    simp only [Extraction.fieldsOf, aliasFields, h.memberFields, h.aliasField, h.model?,
      h.scope.access?]

/-- Extractions that agree make candidates models of the same kind. -/
theorem Agree.kindOf (h : extraction.Agree other) : extraction.kindOf = other.kindOf := by
  funext candidate
  cases candidate <;> simp only [Extraction.kindOf, h.supertype]

/-- The same model is extracted for a candidate. -/
theorem Agree.modelOf (h : extraction.Agree other) : extraction.modelOf = other.modelOf := by
  funext candidate
  simp only [Extraction.modelOf, parametersOf, h.kindOf, h.fieldsOf, h.scope.nameOf]

end Agree

/-! ### The same choice -/

/-- The last candidate is chosen unless one of its name was before it. -/
theorem choose_concat (candidates : List Candidate) (last : Candidate) :
    choose (candidates ++ [last]) =
      if (choose candidates).any fun other => other.name == last.name then choose candidates
      else choose candidates ++ [last] :=
  List.foldl_append

/-- A candidate is chosen exactly if it is the first of its name. -/
theorem mem_choose_iff {candidates : List Candidate} {candidate : Candidate} :
    candidate ∈ choose candidates ↔
      candidates.find? (fun other => other.name == candidate.name) = some candidate := by
  induction candidates using List.reverseRecOn with
  | nil => simp [choose]
  | append_singleton candidates last ih =>
    have taken : (choose candidates).any (fun other => other.name == last.name) ↔
        last.name ∈ candidates.map (·.name) := by
      rw [← List.mem_eraseDups, ← map_name_choose]
      simp
    rw [choose_concat, List.find?_append, Option.or_eq_some_iff, ← ih]
    split_ifs with old
    · -- the last one is not the first of its name
      refine ⟨.inl, fun h => h.resolve_right ?_⟩
      rintro ⟨none, found⟩
      obtain rfl : candidate = last := by simpa using List.mem_of_find?_eq_some found
      obtain ⟨other, mem, same⟩ := List.mem_map.mp (taken.mp old)
      exact List.find?_eq_none.mp none other mem (by simpa using same)
    · rw [List.mem_append, List.mem_singleton]
      refine or_congr_right ⟨?_, ?_⟩
      · rintro rfl
        refine ⟨List.find?_eq_none.mpr fun other mem same => ?_, by simp⟩
        exact old (taken.mpr (List.mem_map.mpr ⟨other, mem, by simpa using same⟩))
      · exact fun ⟨_, found⟩ => by simpa using List.mem_of_find?_eq_some found

/-- The first candidate of a name is what the name is declared as: an interface, else an alias, else
a class if classes have models. -/
theorem find?_candidates (declarations : Declarations) (config : ExtractConfig) (name : String) :
    (candidates declarations config).find? (fun other => other.name == name) =
      ((declarations.interface? name).map .interface).or
        (((declarations.alias? name).map .typeAlias).or
          (if config.includeClasses then (declarations.class? name).map .class else none)) := by
  have classes :
      (if config.includeClasses then declarations.classes.map Candidate.class else []).find?
          (fun other => other.name == name) =
        if config.includeClasses then (declarations.class? name).map .class else none := by
    split_ifs
    · rw [List.find?_map, Declarations.class?_eq]
      rfl
    · rfl
  rw [candidates, List.find?_append, List.find?_append, List.find?_map, List.find?_map, classes,
    Option.or_assoc, Declarations.interface?_eq, Declarations.alias?_eq]
  rfl

/-- No candidate is chosen twice. -/
theorem nodup_choose (candidates : List Candidate) : (choose candidates).Nodup :=
  (nodup_map_name_choose candidates).of_map

/-- Declarations that agree on every name have the same chosen candidates. -/
theorem perm_choose {declarations other : Declarations} (h : declarations.Agree other)
    (config : ExtractConfig) :
    (choose (candidates declarations config)).Perm (choose (candidates other config)) := by
  rw [List.perm_ext_iff_of_nodup (nodup_choose _) (nodup_choose _)]
  intro candidate
  rw [mem_choose_iff, mem_choose_iff, find?_candidates, find?_candidates, h.interface?, h.alias?,
    h.class?]

end Extraction

namespace Model

/-! ### The same models -/

variable {scope other : Scope}

/-- Scopes that agree are extracted from alike. -/
theorem agree_extraction (h : scope.Agree other) (config : ExtractConfig) :
    (extraction scope config).Agree (extraction other config) where
  scope := h
  config := rfl
  known _ := ((Extraction.perm_choose h.declarations config).map (·.name)).mem_iff

/-- Before they are linked, the models are the same but for their order. -/
theorem perm_extracted (h : scope.Agree other) (config : ExtractConfig) :
    (extracted scope config).Perm (extracted other config) := by
  rw [extracted, extracted, (agree_extraction h config).modelOf]
  exact (Extraction.perm_choose h.declarations config).map _

/-- Two models are equal but for the order of their dependants. -/
structure EqUpToOrder (model other : Model) : Prop where
  id : model.id = other.id
  name : model.name = other.name
  kind : model.kind = other.kind
  parameters : model.parameters = other.parameters
  schema : model.schema = other.schema
  dependencies : model.dependencies = other.dependencies
  dependants : model.dependants.Perm other.dependants

/-- Adding the same dependants in another order makes no other difference. -/
theorem eqUpToOrder_withDependants (model : Model) {ids others : List String}
    (permuted : ids.Perm others) :
    (model.withDependants ids).EqUpToOrder (model.withDependants others) :=
  ⟨rfl, rfl, rfl, rfl, rfl, rfl, permuted.append_left _⟩

/-- Scopes that agree have the same models, up to their order and that of dependants. -/
theorem exists_perm_of_agree (h : scope.Agree other) (config : ExtractConfig) :
    ∃ models, List.Forall₂ EqUpToOrder (ofScope scope config) models ∧
      models.Perm (ofScope other config) := by
  have permuted := perm_extracted h config
  refine ⟨(extracted scope config).map fun model =>
    model.withDependants (model.dependantsAmong (extracted other config)), ?_, ?_⟩
  · rw [ofScope_eq, List.forall₂_map_left_iff, List.forall₂_map_right_iff, List.forall₂_same]
    exact fun model _ => model.eqUpToOrder_withDependants ((permuted.filter _).map _)
  · rw [ofScope_eq]
    exact permuted.map _

/-- Declarations with distinct names have the same models in whatever order they are added, but for
the order of the models and of their dependants. -/
theorem exists_perm_ofScope {list other : List Declaration} (permuted : list.Perm other)
    (distinct : Declarations.DistinctNames list) (hops : Nat) (config : ExtractConfig) :
    ∃ models, List.Forall₂ EqUpToOrder (ofScope ⟨.complete list hops, hops⟩ config) models ∧
      models.Perm (ofScope ⟨.complete other hops, hops⟩ config) := by
  have agree : (Scope.mk (.complete list hops) hops).Agree ⟨.complete other hops, hops⟩ :=
    ⟨(Declarations.reordered_complete permuted distinct hops).agree, rfl⟩
  exact exists_perm_of_agree agree config

/-- An interface, an alias with the name of a class, and the class, which refer to each other. -/
def namesakes : List Declaration :=
  [.interface ⟨"Page", default, [], [.reference "Entry" []],
      [⟨"next", true, false, .property (some (.reference "Link" [])), default, .own⟩]⟩,
    .typeAlias ⟨"Link", default, [], .reference "Page" [], .reference "Page" []⟩,
    .class ⟨"Link", default, [], false, none, [],
      [⟨"target", false, true, .property (some (.reference "Page" [])), default, .own⟩]⟩]

/-- The example may be reversed, and its models are the same up to order. -/
theorem exists_perm_ofScope_namesakes :
    namesakes.Perm namesakes.reverse ∧ Declarations.DistinctNames namesakes ∧
      ∃ models, List.Forall₂ EqUpToOrder (ofScope ⟨.complete namesakes 32, 32⟩ {}) models ∧
        models.Perm (ofScope ⟨.complete namesakes.reverse 32, 32⟩ {}) := by
  have permuted : namesakes.Perm namesakes.reverse := (List.reverse_perm _).symm
  have distinct : Declarations.DistinctNames namesakes :=
    ⟨by decide, by decide, by decide, by decide⟩
  exact ⟨permuted, distinct, exists_perm_ofScope permuted distinct 32 {}⟩

end Model

end TypeAtlas
