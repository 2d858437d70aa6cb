import TypeAtlas.Proofs.Declarations.InheritedLast
import TypeAtlas.Proofs.Model.Reordering

/-!
# Showing inherited members only adds

Settings that differ in whether inherited members have fields choose the same declarations and
classify each type alike. Inherited members come after all others, so with them a declaration has
the fields it has without them, followed by the fields of its inherited members
(`Noting.Yields.memberFields_showing`), and what these refer to is noted after everything else
(`Extraction.modelOf_showing`). A model that depends on another one still does, and linking goes
through the models in the same order, so that each keeps its dependants in their order and may gain
some in between.

Main statement: `Model.extendsTo_ofTree`, and for texts in particular `Model.extendsTo_ofText`.
-/

set_option autoImplicit false

namespace TypeAtlas

/-- The settings with inherited members shown or left out. -/
def ExtractConfig.withInherited (config : ExtractConfig) (shown : Bool) : ExtractConfig :=
  { config with inheritedFields := shown }

namespace Extraction

/-- The extraction with inherited members shown or left out. -/
def withInherited (extraction : Extraction) (shown : Bool) : Extraction :=
  { extraction with config := extraction.config.withInherited shown }

namespace Candidate

/-- The members of a candidate: those of an interface, of a class, or of an object type that an
alias stands for. -/
def members : Candidate → List Member
  | .interface decl => decl.members
  | .typeAlias decl =>
    match decl.declared.shape with
    | .object members _ => members
    | _ => []
  | .class decl => decl.members

/-- The members that a candidate has from its supertypes. -/
def inherited (candidate : Candidate) : List Member := candidate.members.filter (·.isInherited)

/-- The inherited members of a candidate come last, and an alias has none. -/
def InheritedLast : Candidate → Prop
  | .interface decl => Member.InheritedLast decl.members
  | .typeAlias decl => decl.Fresh
  | .class decl => Member.InheritedLast decl.members

/-- An alias with members of its own only has inherited none. -/
theorem inherited_typeAlias {decl : AliasDecl} (h : decl.Fresh) :
    (Candidate.typeAlias decl).inherited = [] := by
  simp only [inherited, members]
  cases shape : decl.declared.shape with
  | object members signatures =>
    refine List.filter_eq_nil_iff.mpr fun member mem => ?_
    simp [h members signatures shape member mem]
  | _ => rfl

end Candidate

/-- Where declarations have their inherited members last, so have candidates. -/
theorem inheritedLast_of_mem_candidates {declarations : Declarations}
    (h : declarations.InheritedLast) {config : ExtractConfig} :
    ∀ candidate ∈ candidates declarations config, candidate.InheritedLast := by
  unfold candidates
  rw [List.forall_mem_append, List.forall_mem_append, List.forall_mem_map, List.forall_mem_map]
  refine ⟨⟨h.interfaces, h.aliases⟩, ?_⟩
  split_ifs
  · exact List.forall_mem_map.mpr h.classes
  · exact List.forall_mem_nil _

variable (extraction : Extraction)

/-! ### Fields of members -/

/-- All members have fields if inherited ones are shown. -/
theorem shownMembers_showing (members : List Member) :
    (extraction.withInherited true).shownMembers members = members := by
  simp [shownMembers, withInherited, ExtractConfig.withInherited]

/-- Leaving inherited members out leaves the fields of the others. -/
theorem memberFields_hiding (members : List Member) :
    (extraction.withInherited false).memberFields members =
      (extraction.withInherited true).memberFields (members.filter (!·.isInherited)) := by
  have shown : (extraction.withInherited false).shownMembers members =
      (extraction.withInherited true).shownMembers (members.filter (!·.isInherited)) := by
    rw [shownMembers_showing]
    simp [shownMembers, withInherited, ExtractConfig.withInherited]
  unfold memberFields
  rw [shown]
  rfl

/-- An alias without inherited members has the same fields either way. -/
theorem aliasFields_hiding {decl : AliasDecl} (h : decl.Fresh) :
    (extraction.withInherited false).aliasFields decl.declared =
      (extraction.withInherited true).aliasFields decl.declared := by
  unfold aliasFields
  cases shape : decl.declared.shape with
  | object members signatures =>
    have own : members.filter (!·.isInherited) = members :=
      List.filter_eq_self.mpr fun member mem => by simp [h members signatures shape member mem]
    simp only [memberFields_hiding, own]
    rfl
  | _ => rfl

end Extraction

namespace Noting.Yields

variable (extraction : Extraction)

/-- Members after others are shown after them, and what is for them is noted after the rest. -/
theorem memberFields_append {first later : List Member} {fields more : List SchemaField}
    {ids others : List String}
    (h : Yields ((extraction.withInherited true).memberFields first) fields ids)
    (hl : Yields ((extraction.withInherited true).memberFields later) more others) :
    Yields ((extraction.withInherited true).memberFields (first ++ later)) (fields ++ more)
      (ids ++ others) := by
  simp only [Extraction.memberFields, Extraction.shownMembers_showing, List.mapM_append] at h hl ⊢
  exact h.bind (hl.bind_pure (pure _))

/-- With inherited members in the end, what is shown and noted without them comes first, and then
what is for them. -/
theorem memberFields_showing {members : List Member} (h : Member.InheritedLast members) :
    ∃ fields ids more others,
      Yields ((extraction.withInherited false).memberFields members) fields ids ∧
        Yields ((extraction.withInherited true).memberFields (members.filter (·.isInherited)))
          more others ∧
          Yields ((extraction.withInherited true).memberFields members) (fields ++ more)
            (ids ++ others) := by
  have own := memberFields (extraction.withInherited true) (members.filter (!·.isInherited))
  have inherited := memberFields (extraction.withInherited true) (members.filter (·.isInherited))
  have both := memberFields_append extraction own inherited
  rw [← h] at both
  exact ⟨_, _, _, _, extraction.memberFields_hiding members ▸ own, inherited, both⟩

/-- The same for the fields of a candidate. -/
theorem fieldsOf_showing {candidate : Extraction.Candidate} (h : candidate.InheritedLast) :
    ∃ fields ids more others,
      Yields ((extraction.withInherited false).fieldsOf candidate) fields ids ∧
        Yields ((extraction.withInherited true).memberFields candidate.inherited) more others ∧
          Yields ((extraction.withInherited true).fieldsOf candidate) (fields ++ more)
            (ids ++ others) := by
  cases candidate with
  | interface decl => exact memberFields_showing extraction h
  | «class» decl => exact memberFields_showing extraction h
  | typeAlias decl =>
    have fields := aliasFields (extraction.withInherited true) decl.declared
    have none := memberFields (extraction.withInherited true) []
    rw [Extraction.Candidate.inherited_typeAlias h]
    refine ⟨_, _, [], [], extraction.aliasFields_hiding h ▸ fields, none, ?_⟩
    rw [List.append_nil, List.append_nil]
    exact fields

end Noting.Yields

/-! ### Models -/

namespace Extraction

variable (extraction : Extraction)

/-- The fields of inherited members follow the other fields, and what these refer to follows the
other dependencies. -/
theorem modelOf_showing {candidate : Candidate} (h : candidate.InheritedLast) :
    (∃ fields ids,
      Noting.Yields ((extraction.withInherited true).memberFields candidate.inherited) fields ids ∧
        ((extraction.withInherited true).modelOf candidate).schema =
          ((extraction.withInherited false).modelOf candidate).schema ++ fields) ∧
      ((extraction.withInherited false).modelOf candidate).dependencies <+:
        ((extraction.withInherited true).modelOf candidate).dependencies := by
  obtain ⟨fields, ids, more, others, hidden, inherited, shown⟩ :=
    Noting.Yields.fieldsOf_showing extraction h
  obtain ⟨before, noted⟩ := modelOf_of_yields hidden
  obtain ⟨after, notedAlso⟩ := modelOf_of_yields shown
  have supertypes : (extraction.withInherited true).kindOf candidate =
      (extraction.withInherited false).kindOf candidate := by cases candidate <;> rfl
  refine ⟨⟨more, others, inherited, by rw [before, after]⟩, ?_⟩
  rw [noted, notedAlso, supertypes, ← List.append_assoc, Notes.addAll_append _ _ others]
  exact Notes.prefix_addAll _ _

end Extraction

namespace Model

/-- With inherited members shown, a model has the fields of these after its other fields, may depend
on further models after the others, and may have further dependants. All else stays. -/
structure ExtendsTo (extraction : Extraction) (candidates : List Extraction.Candidate)
    (hidden shown : Model) : Prop where
  id : shown.id = hidden.id
  name : shown.name = hidden.name
  /-- The supertypes are part of the kind. -/
  kind : shown.kind = hidden.kind
  parameters : shown.parameters = hidden.parameters
  schema : ∃ candidate ∈ candidates, candidate.name = hidden.name ∧ ∃ fields ids,
    Noting.Yields (extraction.memberFields candidate.inherited) fields ids ∧
      shown.schema = hidden.schema ++ fields
  dependencies : hidden.dependencies <+: shown.dependencies
  dependants : hidden.dependants.Sublist shown.dependants

section

variable (scope : Scope) (config : ExtractConfig)

/-- Whether inherited members are shown does not matter to which declarations are chosen. -/
theorem extracted_withInherited (shown : Bool) :
    extracted scope (config.withInherited shown) =
      (chosen scope config).map ((extraction scope config).withInherited shown).modelOf := rfl

variable {scope}

/-- Where declarations have their inherited members last, so have the candidates that models are
made from. -/
theorem inheritedLast_of_mem_chosen (h : scope.declarations.InheritedLast) :
    ∀ candidate ∈ chosen scope config, candidate.InheritedLast := by
  intro candidate mem
  have found := Extraction.mem_choose_iff.mp mem
  exact Extraction.inheritedLast_of_mem_candidates h candidate (List.mem_of_find?_eq_some found)

/-- Where one test passes what another one does, it leaves no less. -/
theorem filter_sublist_of_imp {α : Type} {list : List α} {first second : α → Bool}
    (h : ∀ a ∈ list, first a = true → second a = true) :
    (list.filter first).Sublist (list.filter second) := by
  have among : list.filter first = (list.filter second).filter first := by
    rw [List.filter_filter]
    refine List.filter_congr fun a mem => ?_
    rw [Bool.eq_iff_iff, Bool.and_eq_true]
    exact ⟨fun passes => ⟨passes, h a mem passes⟩, fun both => both.1⟩
  rw [among]
  exact List.filter_sublist

/-- A model that depends on another one without inherited members does so with them. -/
theorem dependantsAmong_sublist (h : scope.declarations.InheritedLast) {model other : Model}
    (same : other.id = model.id) :
    (model.dependantsAmong (extracted scope (config.withInherited false))).Sublist
      (other.dependantsAmong (extracted scope (config.withInherited true))) := by
  unfold dependantsAmong
  rw [extracted_withInherited, extracted_withInherited, List.filter_map, List.filter_map,
    List.map_map, List.map_map, same]
  -- both lists are names of chosen candidates
  refine List.Sublist.map Extraction.Candidate.name (filter_sublist_of_imp ?_)
  intro candidate mem first
  have later := ((extraction scope config).modelOf_showing
    (inheritedLast_of_mem_chosen config h candidate mem)).2
  rw [Function.comp_apply, dependsOn, List.contains_iff_mem] at first ⊢
  exact later.subset first

/-- Where inherited members come last, showing them extends each model of a scope. -/
theorem extendsTo_ofScope (h : scope.declarations.InheritedLast) :
    List.Forall₂
      (ExtendsTo (extraction scope (config.withInherited true)) (chosen scope config))
      (ofScope scope (config.withInherited false)) (ofScope scope (config.withInherited true)) := by
  rw [ofScope_eq, ofScope_eq, List.forall₂_map_left_iff, List.forall₂_map_right_iff,
    extracted_withInherited, extracted_withInherited, List.forall₂_map_left_iff,
    List.forall₂_map_right_iff, List.forall₂_same]
  intro candidate mem
  obtain ⟨⟨fields, ids, yields, schema⟩, dependencies⟩ :=
    (extraction scope config).modelOf_showing (inheritedLast_of_mem_chosen config h candidate mem)
  exact
    { id := rfl
      name := rfl
      kind := by cases candidate <;> rfl
      parameters := rfl
      schema := ⟨candidate, mem, rfl, fields, ids, yields, schema⟩
      dependencies
      dependants := dependantsAmong_sublist config h rfl }

end

/-- Showing inherited members extends the models of a text, also where the text asks a question that
never ends and is answered by the type itself or by nothing (`Scope.apparent`, `Scope.access?`). -/
theorem extendsTo_ofText (text : String) (config : ExtractConfig) :
    List.Forall₂
      (ExtendsTo
        (extraction (Source.read text config.aliasDepthLimit).scope (config.withInherited true))
        (chosen (Source.read text config.aliasDepthLimit).scope config))
      (ofText text (config.withInherited false)) (ofText text (config.withInherited true)) :=
  extendsTo_ofScope config (Source.inheritedLast_declarationsOf _ _)

end Model

end TypeAtlas
