import TypeAtlas.Proofs.Declarations.Unambiguous
import TypeAtlas.Proofs.Model.Reordering

/-!
# Fields have distinct names

The fields of a model are those members of its declaration that are shown, under their names, or the
one field for the value of an alias. Since no declaration has two members of one name, no model has
two fields of one name.

Main statement: `Model.unambiguous_ofTree`. It holds for every tree and all settings, so in
particular for the tree of every text, with errors in it and without (`Model.unambiguous_ofText`).
-/

set_option autoImplicit false

namespace TypeAtlas

namespace Extraction

variable (extraction : Extraction)

/-- Fields are named as members are, and each member has at most one. -/
theorem nodup_memberFieldsOf {members : List Member} (h : Member.AreUnambiguous members) :
    ((extraction.memberFieldsOf members).map (·.name)).Nodup := by
  have shown : (extraction.shownMembers members).Sublist members := List.filter_sublist
  have named : (extraction.memberFieldsOf members).map (·.name) =
      (extraction.shownMembers members).map (·.name) := by
    rw [memberFieldsOf, List.map_map]
    rfl
  rw [named]
  exact h.distinct.sublist (shown.map _)

/-- An alias has the fields of its members, or one field. -/
theorem nodup_aliasFieldsOf {declared : TypeExpr} (h : declared.Unambiguous) :
    ((extraction.aliasFieldsOf declared).map (·.name)).Nodup := by
  unfold aliasFieldsOf aliasTypes
  cases shape : declared.shape
  case object members signatures =>
    simp only
    split_ifs
    · exact extraction.nodup_memberFieldsOf (h.members shape)
    · exact List.nodup_singleton _
  all_goals exact List.nodup_singleton _

/-- The members of a candidate have distinct names, and all types in it are unambiguous. -/
def Candidate.Unambiguous : Candidate → Prop
  | .interface decl => decl.Unambiguous
  | .typeAlias decl => decl.Unambiguous
  | .class decl => decl.Unambiguous

/-- The fields of an unambiguous candidate have distinct names. -/
theorem nodup_schemaOf {candidate : Candidate} (h : candidate.Unambiguous) :
    ((extraction.schemaOf candidate).map (·.name)).Nodup :=
  match candidate, h with
  | .interface _, (own : InterfaceDecl.Unambiguous _) =>
    extraction.nodup_memberFieldsOf own.members
  | .typeAlias _, (own : AliasDecl.Unambiguous _) => extraction.nodup_aliasFieldsOf own.declared
  | .class _, (own : ClassDecl.Unambiguous _) => extraction.nodup_memberFieldsOf own.members

/-- The fields of a model have distinct names if its candidate is unambiguous. -/
theorem nodup_schema_modelOf {candidate : Candidate} (h : candidate.Unambiguous) :
    ((extraction.modelOf candidate).schema.map (·.name)).Nodup := by
  rw [schema_modelOf]
  exact extraction.nodup_schemaOf h

/-- Unambiguous declarations have unambiguous candidates. -/
theorem unambiguous_of_mem_candidates {declarations : Declarations}
    (h : declarations.Unambiguous) {config : ExtractConfig} :
    ∀ candidate ∈ candidates declarations config, candidate.Unambiguous := by
  unfold candidates
  rw [List.forall_mem_append, List.forall_mem_append, List.forall_mem_map, List.forall_mem_map]
  refine ⟨⟨h.interfaces, h.aliases⟩, ?_⟩
  split_ifs
  · exact List.forall_mem_map.mpr h.classes
  · exact List.forall_mem_nil _

end Extraction

namespace Model

/-- The models of unambiguous declarations have fields of distinct names. -/
theorem nodup_schema_ofScope {scope : Scope} (h : scope.declarations.Unambiguous)
    (config : ExtractConfig) :
    ∀ model ∈ ofScope scope config, (model.schema.map (·.name)).Nodup := by
  rw [ofScope_eq, List.forall_mem_map, extracted, List.forall_mem_map]
  intro candidate mem
  have found := Extraction.mem_choose_iff.mp mem
  exact (extraction scope config).nodup_schema_modelOf
    (Extraction.unambiguous_of_mem_candidates h candidate (List.mem_of_find?_eq_some found))

/-- In the declarations of every tree, be it that of a text or not, no interface, no class and no
object type in them has two members of one name, and none of the models has two fields of one
name. -/
theorem unambiguous_ofTree (tree : Node) (hops : Nat) (config : ExtractConfig) :
    (Source.declarationsOf tree hops).Unambiguous ∧
      ∀ model ∈ ofScope ⟨Source.declarationsOf tree hops, hops⟩ config,
        (model.schema.map (·.name)).Nodup := by
  have declared := Source.unambiguous_declarationsOf tree hops
  exact ⟨declared, nodup_schema_ofScope declared config⟩

/-- None of the models of a text has two fields of one name, also where the text asks a question
that never ends and is answered by the type itself or by nothing (`Scope.apparent`,
`Scope.access?`). -/
theorem unambiguous_ofText (text : String) (config : ExtractConfig) :
    ∀ model ∈ ofText text config, (model.schema.map (·.name)).Nodup :=
  nodup_schema_ofScope (Source.unambiguous_declarationsOf _ _) config

end Model

end TypeAtlas
