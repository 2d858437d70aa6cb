import TypeAtlas.Proofs.Declarations.Fresh
import TypeAtlas.Proofs.Declarations.Members
import TypeAtlas.Source

/-!
# Inherited members come last

Inheriting adds members at the end, and every member that it adds is inherited
(`Member.isInherited_inheritedFrom`). Declarations that have not inherited anything therefore get
their inherited members after all others (`Declarations.Fresh.withInheritance`), and an alias of an
object type never has one. So it is with the declarations of every source
(`Source.inheritedLast_declarationsOf`).
-/

set_option autoImplicit false

namespace TypeAtlas

namespace Member

/-- The members that are inherited come after all others. -/
def InheritedLast (members : List Member) : Prop :=
  members = members.filter (!·.isInherited) ++ members.filter (·.isInherited)

/-- Inherited members behind others that are not come last. -/
theorem inheritedLast_append {own added : List Member} (h : NoneInherited own)
    (ha : ∀ member ∈ added, member.isInherited = true) : InheritedLast (own ++ added) := by
  have keptOwn : own.filter (!·.isInherited) = own :=
    List.filter_eq_self.mpr fun member mem => by simp [h member mem]
  have noneOwn : own.filter (·.isInherited) = [] :=
    List.filter_eq_nil_iff.mpr fun member mem => by simp [h member mem]
  have noneAdded : added.filter (!·.isInherited) = [] :=
    List.filter_eq_nil_iff.mpr fun member mem => by simp [ha member mem]
  have keptAdded : added.filter (·.isInherited) = added := List.filter_eq_self.mpr ha
  rw [InheritedLast, List.filter_append, List.filter_append, keptOwn, noneOwn, noneAdded,
    keptAdded, List.append_nil, List.nil_append]

/-- A member that is inherited says so, wherever it has been before. -/
theorem isInherited_inheritedFrom (owner : String) (bindings : Bindings) (member : Member) :
    (member.inheritedFrom owner bindings).isInherited = true := by
  unfold inheritedFrom
  simp only
  split_ifs with before
  · exact before
  · rfl

end Member

namespace Declarations

/-- The inherited members of interfaces and classes come last, and aliases of object types have
none. -/
structure InheritedLast (decls : Declarations) : Prop where
  interfaces : ∀ decl ∈ decls.interfaces, Member.InheritedLast decl.members
  classes : ∀ decl ∈ decls.classes, Member.InheritedLast decl.members
  aliases : ∀ decl ∈ decls.aliases, decl.Fresh

variable {decls : Declarations}

/-- What is inherited is marked so. -/
theorem isInherited_of_mem_inheritedMembers {name : String} {bases : List TypeExpr}
    {member : Member} (h : member ∈ decls.inheritedMembers name bases) :
    member.isInherited = true := by
  obtain ⟨ancestor, _, passed⟩ := List.mem_flatMap.mp h
  obtain ⟨written, _, rfl⟩ := List.mem_map.mp passed
  exact Member.isInherited_inheritedFrom _ _ written

/-- Inherited members are added behind a declaration's own. -/
theorem inheritedLast_append_inheritedMembers {members : List Member}
    (h : Member.NoneInherited members) (name : String) (bases : List TypeExpr) :
    Member.InheritedLast (Member.append members (decls.inheritedMembers name bases)) := by
  rw [Member.append_eq]
  refine Member.inheritedLast_append h fun member mem => ?_
  exact isInherited_of_mem_inheritedMembers
    (List.mem_of_find?_eq_some (Member.named?_newMembers mem).1)

/-- Declarations that have inherited nothing yet have their inherited members last afterwards. -/
theorem Fresh.withInheritance (h : decls.Fresh) : decls.withInheritance.InheritedLast where
  interfaces := List.forall_mem_map.mpr fun decl mem =>
    inheritedLast_append_inheritedMembers (h.interfaces decl mem) decl.name decl.bases
  classes := List.forall_mem_map.mpr fun decl mem =>
    inheritedLast_append_inheritedMembers (h.classes decl mem) decl.name decl.base.toList
  aliases := h.aliases

/-- What aliases stand for changes no member. -/
theorem InheritedLast.withExpandedAliases (h : decls.InheritedLast) (hops : Nat) :
    (decls.withExpandedAliases hops).InheritedLast where
  interfaces := h.interfaces
  classes := h.classes
  aliases := List.forall_mem_map.mpr fun decl mem => h.aliases decl mem

end Declarations

/-- In the declarations of every tree, inherited members come last. -/
theorem Source.inheritedLast_declarationsOf (tree : Node) (hops : Nat) :
    (Source.declarationsOf tree hops).InheritedLast :=
  (Declarations.fresh_ofList_declarations tree).withInheritance.withExpandedAliases hops

end TypeAtlas
