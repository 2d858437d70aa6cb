import Mathlib.Data.List.Basic
import TypeAtlas.Proofs.Declarations.Bodies
import TypeAtlas.Proofs.Declarations.Names

/-!
# Declarations that have not inherited anything

A tree gives every member as one of its own declaration, and merging declarations of one name only
marks members as merged. So before supertypes are looked at, no member of an interface, a class or
an alias of an object type is inherited (`Declarations.fresh_ofList_declarations`).
-/

set_option autoImplicit false

namespace TypeAtlas

namespace Member

/-- None of the members is inherited. -/
def NoneInherited (members : List Member) : Prop := ∀ member ∈ members, member.isInherited = false

/-- Of no members none is inherited. -/
theorem noneInherited_nil : NoneInherited [] := fun _ mem => by cases mem

/-! ### Members of one body -/

/-- A member that is not inherited may be pushed to others that are not. -/
theorem noneInherited_pushTo {member : Member} (h : member.isInherited = false) :
    {members : List Member} → NoneInherited members → NoneInherited (member.pushTo members)
  | [], _ => by simpa [NoneInherited, pushTo] using h
  | first :: rest, all => by
      obtain ⟨here, others⟩ := List.forall_mem_cons.mp all
      unfold pushTo
      split_ifs
      · split
        · exact List.forall_mem_cons.mpr ⟨here, others⟩
        · exact all
      · exact List.forall_mem_cons.mpr ⟨here, noneInherited_pushTo h others⟩

/-- If no part declares an inherited member, none of the members made of the parts is inherited. -/
theorem noneInherited_ofParts {parts : List (Option Member)}
    (h : ∀ member, some member ∈ parts → member.isInherited = false) :
    NoneInherited (ofParts parts) := by
  unfold ofParts
  refine List.foldlRecOn (motive := NoneInherited) parts _ noneInherited_nil ?_
  intro members all part mem
  cases part with
  | none => exact all
  | some member => exact noneInherited_pushTo (h member mem) all

/-- Members that are not inherited may be added to others that are not. -/
theorem noneInherited_append {members more : List Member} (h : NoneInherited members)
    (hm : NoneInherited more) : NoneInherited (append members more) := by
  unfold append
  refine List.foldlRecOn (motive := NoneInherited) more _ h ?_
  intro members all member mem
  unfold insert
  split_ifs
  · exact all
  · exact List.forall_mem_append.mpr ⟨all, List.forall_mem_singleton.mpr (hm member mem)⟩

/-- Merging marks members as merged. -/
theorem noneInherited_mergedMembers {members : List Member} (h : NoneInherited members)
    (more : List Member) : NoneInherited (mergedMembers members more) :=
  noneInherited_append h (List.forall_mem_map.mpr fun _ _ => rfl)

end Member

open Member (NoneInherited)

namespace Node

/-! ### Members of a tree -/

/-- A member of any form that a node declares is its own. -/
theorem isInherited_of_toMember? {node : Node} {form : MemberForm} {member : Member}
    (h : node.toMember? form = some member) : member.isInherited = false := by
  unfold toMember? at h
  split at h
  · split_ifs at h
    cases h
    rfl
  · cases h

/-- A member of an object type is its own. -/
theorem isInherited_of_toObjectMember? {node : Node} {member : Member}
    (h : node.toObjectMember? = some member) : member.isInherited = false := by
  rw [toObjectMember?] at h
  split at h
  · exact isInherited_of_toMember? h
  · exact isInherited_of_toMember? h
  · cases h

/-- A property that a parameter of a constructor declares is the class's own. -/
theorem isInherited_of_mem_parameterProperties {node : Node} {member : Member}
    (h : some member ∈ node.parameterProperties) : member.isInherited = false := by
  unfold parameterProperties at h
  split at h
  · cases h
  · obtain ⟨child, _, same⟩ := List.mem_map.mp h
    simp only at same
    split_ifs at same
    · obtain ⟨parameter, _, rfl⟩ := Option.map_eq_some_iff.mp same
      rfl

/-- A member of the body of a class is its own. -/
theorem isInherited_of_mem_toClassMembers {node : Node} {member : Member}
    (h : some member ∈ node.toClassMembers) : member.isInherited = false := by
  unfold toClassMembers at h
  split at h
  · cases h
  · split at h
    case h_1 => exact isInherited_of_toMember? (List.mem_singleton.mp h).symm
    case h_2 =>
      split at h
      · exact isInherited_of_mem_parameterProperties h
      · exact isInherited_of_toMember? (List.mem_singleton.mp h).symm
    case h_3 => exact isInherited_of_toMember? (List.mem_singleton.mp h).symm
    case h_4 => exact isInherited_of_toMember? (List.mem_singleton.mp h).symm
    case h_5 => cases h

end Node

/-! ### Declarations -/

/-- If the alias is of an object type, none of its members is inherited. -/
def AliasDecl.Fresh (decl : AliasDecl) : Prop :=
  ∀ members signatures, decl.declared.shape = .object members signatures → NoneInherited members

namespace Declaration

/-- The members that a declaration makes are its own. -/
def Fresh : Declaration → Prop
  | .interface decl => NoneInherited decl.members
  | .typeAlias decl => decl.Fresh
  | .class decl => NoneInherited decl.members
  | .enum _ => True

end Declaration

/-- None of the members that the body of a declaration is read as is inherited. -/
theorem Node.noneInherited_ofParts_memberParts (node : Node) :
    NoneInherited (Member.ofParts node.memberParts) :=
  Member.noneInherited_ofParts <| forall_mem_memberParts
    (fun _ _ => isInherited_of_toObjectMember?) fun _ _ => isInherited_of_mem_toClassMembers

/-- What a node declares has only members of its own. -/
theorem Node.fresh_of_toDeclaration? {node : Node} {new : Declaration}
    (h : node.toDeclaration? = some new) : new.Fresh := by
  have own : NoneInherited new.members := by
    rw [members_of_toDeclaration? h]
    exact node.noneInherited_ofParts_memberParts
  cases new with
  | interface decl => exact own
  | typeAlias decl =>
    intro members signatures shape
    simpa [Declaration.members, shape] using own
  | «class» decl => exact own
  | enum decl => exact trivial

/-- The declarations of a tree have only members of their own. -/
theorem Node.fresh_of_mem_declarations {node : Node} {new : Declaration}
    (h : new ∈ node.declarations) : new.Fresh := by
  obtain ⟨part, _, made⟩ := exists_of_mem_declarations h
  exact fresh_of_toDeclaration? made

namespace Declarations

/-- Nothing has been inherited yet. -/
structure Fresh (decls : Declarations) : Prop where
  interfaces : ∀ decl ∈ decls.interfaces, NoneInherited decl.members
  classes : ∀ decl ∈ decls.classes, NoneInherited decl.members
  aliases : ∀ decl ∈ decls.aliases, decl.Fresh

/-- Adding a declaration whose members are its own leaves nothing inherited. -/
theorem Fresh.add {decls : Declarations} (h : decls.Fresh) :
    {new : Declaration} → new.Fresh → (decls.add new).Fresh
  | .interface _, own =>
      { h with
        interfaces := Table.forall_mem_add InterfaceDecl.name_merge
          (fun _ all => Member.noneInherited_mergedMembers all _) own h.interfaces }
  | .typeAlias decl, own =>
      have fresh : decl.Fresh := own
      { h with aliases := Table.forall_mem_add _ (fun _ all => all) fresh h.aliases }
  | .class _, own =>
      { h with
        classes := Table.forall_mem_add ClassDecl.name_merge
          (fun _ all => Member.noneInherited_mergedMembers all _) own h.classes }
  | .enum _, _ => { h with }

/-- Declarations that have not inherited anything have not done so once they are added. -/
theorem Fresh.ofList {list : List Declaration} (h : ∀ new ∈ list, new.Fresh) :
    (Declarations.ofList list).Fresh := by
  have none : ({} : Declarations).Fresh :=
    ⟨List.forall_mem_nil _, List.forall_mem_nil _, List.forall_mem_nil _⟩
  unfold Declarations.ofList
  refine List.foldlRecOn (motive := Fresh) list _ none ?_
  exact fun decls fresh new mem => fresh.add (h new mem)

/-- The declarations of a tree have not inherited anything. -/
theorem fresh_ofList_declarations (tree : Node) : (ofList tree.declarations).Fresh :=
  .ofList fun _ mem => Node.fresh_of_mem_declarations mem

end Declarations

end TypeAtlas
