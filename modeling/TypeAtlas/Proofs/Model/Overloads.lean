import TypeAtlas.Proofs.Declarations.Signatures
import TypeAtlas.Proofs.Model.Candidates

/-!
# How overloaded methods are shown

The field of a method shows one of its signatures: the one that is marked as that of its
declaration, else one with a body, else the last. Since the first signature of every method is
marked and no other one is, it is always the first that is shown, and this is the one that was
written first.

Main statement: `Model.showFirstSignatures_ofTree`. It holds for every tree and all settings, so in
particular for the tree of every text, with errors in it and without
(`Model.showFirstSignatures_ofText`).
-/

set_option autoImplicit false

namespace TypeAtlas

/-- The one signature that is marked is found by its mark, and is the first. -/
theorem Signature.FirstMarked.find?_ofMember {signatures : List Signature}
    (h : FirstMarked signatures) : signatures.find? (·.ofMember) = signatures.head? := by
  obtain ⟨first, rest, rfl, own, _⟩ := h
  exact List.find?_cons_of_pos own

namespace Extraction

variable (extraction : Extraction)

/-- A method is shown by its first signature, found by its mark, which is the one that was written
first. -/
structure ShowsFirst (tree : Node) (entry : Declaration) (member : Member)
    (signatures : List Signature) (schema : List SchemaField) (first : Signature) : Prop where
  head : signatures.head? = some first
  marked : signatures.find? (·.ofMember) = some first
  shown : representative signatures = first
  written : tree.FirstWritten entry.kind entry.name entry.bases member first
  field : ⟨member.name, member.optional,
    .function (first.parameters.map extraction.argumentOf)
      (extraction.returnOf (first.returnType.getD (.keyword "any")))⟩ ∈ schema

/-- A method is shown by its first marked signature, if there is one. -/
theorem representative_of_find? {signatures : List Signature} {first : Signature}
    (marked : signatures.find? (·.ofMember) = some first) : representative signatures = first := by
  rw [representative, marked]
  rfl

/-- The field of a method is a function with the signature that stands for it. -/
theorem shapeOf_fieldType_of_method {member : Member} {signatures : List Signature}
    (isMethod : member.form = .method signatures) :
    extraction.shapeOf (fieldType member) =
      .function ((representative signatures).parameters.map extraction.argumentOf)
        (extraction.returnOf
          ((representative signatures).returnType.getD (.keyword "any"))) := by
  rw [fieldType, isMethod]
  rfl

end Extraction

namespace Model

/-- There is one model for each candidate, in order, and it shows the methods of the candidate by
their first signatures. -/
def ShowFirstSignatures (tree : Node) (extraction : Extraction)
    (candidates : List Extraction.Candidate) (models : List Model) : Prop :=
  List.Forall₂ (fun candidate model => model.id = candidate.name ∧
    ∀ member ∈ extraction.shownMembers candidate.declaration.members, ∀ signatures,
      member.form = .method signatures → ∃ first,
        extraction.ShowsFirst tree candidate.declaration member signatures model.schema first)
    candidates models

/-- The models of a tree show methods by their first signatures. -/
theorem showFirstSignatures_declarationsOf (tree : Node) (hops : Nat) (config : ExtractConfig) :
    ShowFirstSignatures tree (extraction ⟨Source.declarationsOf tree hops, hops⟩ config)
      (chosen ⟨Source.declarationsOf tree hops, hops⟩ config)
      (ofScope ⟨Source.declarationsOf tree hops, hops⟩ config) := by
  rw [ShowFirstSignatures, ofScope_eq, extracted, List.map_map, List.forall₂_map_right_iff,
    List.forall₂_same]
  intro candidate mem
  refine ⟨rfl, fun member shown signatures isMethod => ?_⟩
  have listed : member ∈ candidate.declaration.members := List.mem_of_mem_filter shown
  have has : (Source.declarationsOf tree hops).Has candidate.declaration := has_of_mem_chosen mem
  obtain ⟨first, rest, rfl, written⟩ := Source.firstWritten_declarationsOf has listed isMethod
  have lawful := (Source.marksFirst_declarationsOf _ _).members has member listed
  have marked := (lawful.lawful _ isMethod).find?_ofMember
  have field := (extraction ⟨Source.declarationsOf tree hops, hops⟩ config).mem_schemaOf_of_mem_members shown
  rw [Extraction.shapeOf_fieldType_of_method _ isMethod,
    Extraction.representative_of_find? marked, ← Extraction.schema_modelOf] at field
  exact ⟨first, rfl, marked, Extraction.representative_of_find? marked, written, field⟩

/-- In the declarations of every tree, be it that of a text or not, the first signature of each
method is marked as that of its declaration and no other one is, and the models show each method by
the signature that it was first written with. -/
theorem showFirstSignatures_ofTree (tree : Node) (hops : Nat) (config : ExtractConfig) :
    (Source.declarationsOf tree hops).Obey marksFirst ∧
      ShowFirstSignatures tree (extraction ⟨Source.declarationsOf tree hops, hops⟩ config)
        (chosen ⟨Source.declarationsOf tree hops, hops⟩ config)
        (ofScope ⟨Source.declarationsOf tree hops, hops⟩ config) :=
  ⟨Source.marksFirst_declarationsOf tree hops, showFirstSignatures_declarationsOf tree hops config⟩

/-- The models of a text show each method by the signature that it was first written with, also
where the text asks a question that never ends and is answered by the type itself or by nothing
(`Scope.apparent`, `Scope.access?`). -/
theorem showFirstSignatures_ofText (text : String) (config : ExtractConfig) :
    ShowFirstSignatures (Source.read text config.aliasDepthLimit).tree
      (extraction (Source.read text config.aliasDepthLimit).scope config)
      (chosen (Source.read text config.aliasDepthLimit).scope config) (ofText text config) := by
  unfold ofText ofSource
  rw [Source.scope, Source.declarations_read]
  exact showFirstSignatures_declarationsOf _ _ config

end Model

end TypeAtlas
