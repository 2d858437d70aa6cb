import TypeAtlas.Proofs.Declarations.Bodies
import TypeAtlas.Proofs.Model.Reordering

/-!
# Candidates as declarations

A candidate that is chosen is one of the declarations there are (`Model.has_of_mem_chosen`), each of
its members that is shown has a field, and each field has the shape that goes with its type
(`Extraction.forall₂_schemaOf`).
-/

set_option autoImplicit false

namespace TypeAtlas

namespace Extraction

/-- The declaration that a candidate is. -/
def Candidate.declaration : Candidate → Declaration
  | .interface decl => .interface decl
  | .typeAlias decl => .typeAlias decl
  | .class decl => .class decl

/-- A candidate is one of the declarations. -/
theorem has_of_mem_candidates {decls : Declarations} {config : ExtractConfig}
    {candidate : Candidate} (h : candidate ∈ candidates decls config) :
    decls.Has candidate.declaration := by
  unfold candidates at h
  rw [List.mem_append, List.mem_append] at h
  rcases h with (isInterface | isAlias) | isClass
  · obtain ⟨decl, mem, rfl⟩ := List.mem_map.mp isInterface
    exact mem
  · obtain ⟨decl, mem, rfl⟩ := List.mem_map.mp isAlias
    exact mem
  · split_ifs at isClass
    · obtain ⟨decl, mem, rfl⟩ := List.mem_map.mp isClass
      exact mem
    · cases isClass

variable (extraction : Extraction)

/-- Each shown member of a candidate has a field. -/
theorem mem_schemaOf_of_mem_members {candidate : Candidate} {member : Member}
    (mem : member ∈ extraction.shownMembers candidate.declaration.members) :
    ⟨member.name, member.optional, extraction.shapeOf (fieldType member)⟩ ∈
      extraction.schemaOf candidate := by
  have among {members : List Member} (mem : member ∈ extraction.shownMembers members) :
      ⟨member.name, member.optional, extraction.shapeOf (fieldType member)⟩ ∈
        extraction.memberFieldsOf members :=
    List.mem_map.mpr ⟨member, mem, rfl⟩
  cases candidate with
  | interface decl => exact among mem
  | «class» decl => exact among mem
  | typeAlias decl =>
    simp only [Candidate.declaration, Declaration.members, schemaOf, aliasFieldsOf] at mem ⊢
    cases shape : decl.declared.shape
    case object members signatures =>
      rw [shape] at mem
      have some : members.isEmpty = false :=
        List.isEmpty_eq_false_iff_exists_mem.mpr ⟨member, List.mem_of_mem_filter mem⟩
      simp only [some]
      exact among mem
    all_goals
      rw [shape] at mem
      cases mem

/-- The type of a field is that of a member, what an alias stands for, or what an alias yields that
is an indexed access. -/
theorem forall_mem_fieldTypes {holds : TypeExpr → Prop} {candidate : Candidate}
    (member : ∀ member ∈ candidate.declaration.members, holds (fieldType member))
    (declared : ∀ decl, candidate = .typeAlias decl → holds decl.declared)
    (accessed : ∀ decl, candidate = .typeAlias decl →
      ∀ value ∈ extraction.scope.access? decl.declared, holds value) :
    ∀ type ∈ extraction.fieldTypes candidate, holds type := by
  have among {members : List Member} (each : ∀ member ∈ members, holds (fieldType member)) :
      ∀ type ∈ extraction.memberTypes members, holds type :=
    List.forall_mem_map.mpr fun member shown => each member (List.mem_of_mem_filter shown)
  cases candidate with
  | interface decl => exact among member
  | «class» decl => exact among member
  | typeAlias decl =>
    have written := declared decl rfl
    simp only [Candidate.declaration, Declaration.members] at member
    simp only [fieldTypes, aliasTypes]
    cases shape : decl.declared.shape
    case object members signatures =>
      rw [shape] at member
      simp only
      split_ifs
      · exact among member
      · exact List.forall_mem_singleton.mpr written
    case indexedAccess object index =>
      refine List.forall_mem_singleton.mpr ?_
      cases found : extraction.scope.access? decl.declared with
      | none => exact written
      | some value => exact accessed decl rfl value found
    all_goals exact List.forall_mem_singleton.mpr written

/-- Each field has the shape of its type, as that of a member or as the value of an alias. -/
theorem forall₂_schemaOf (candidate : Candidate) :
    List.Forall₂ (fun type (field : SchemaField) =>
        field.shape = extraction.shapeOf type ∨ field.shape = extraction.aliasShapeOf type)
      (extraction.fieldTypes candidate) (extraction.schemaOf candidate) := by
  have among (members : List Member) :
      List.Forall₂ (fun type (field : SchemaField) =>
          field.shape = extraction.shapeOf type ∨ field.shape = extraction.aliasShapeOf type)
        (extraction.memberTypes members) (extraction.memberFieldsOf members) := by
    rw [memberTypes, memberFieldsOf, List.forall₂_map_left_iff, List.forall₂_map_right_iff,
      List.forall₂_same]
    exact fun _ _ => .inl rfl
  cases candidate with
  | interface decl => exact among decl.members
  | «class» decl => exact among decl.members
  | typeAlias decl =>
    simp only [fieldTypes, schemaOf, aliasTypes, aliasFieldsOf]
    cases decl.declared.shape
    case object members signatures =>
      simp only
      split_ifs
      · exact among members
      · exact .cons (.inr rfl) .nil
    all_goals exact .cons (.inr rfl) .nil

end Extraction

namespace Model

/-- A candidate that a model is made from is one of the declarations of the scope. -/
theorem has_of_mem_chosen {scope : Scope} {config : ExtractConfig}
    {candidate : Extraction.Candidate}
    (h : candidate ∈ chosen scope config) : scope.declarations.Has candidate.declaration :=
  Extraction.has_of_mem_candidates (List.mem_of_find?_eq_some (Extraction.mem_choose_iff.mp h))

end Model

end TypeAtlas
