import TypeAtlas.Proofs.Declarations.Agreement
import TypeAtlas.Proofs.Declarations.Inheritance
import TypeAtlas.Proofs.Declarations.InheritedLast

/-!
# Inheriting twice

What a declaration passes on to others is what it declares itself, so it passes on the same after it
has inherited (`Declarations.bequest_withInheritance`). A second walk over the supertypes therefore
collects the same members as the first one. Each of them has a name that a member at hand has by
then, whether the first walk added it or found the name taken (`Member.append_append`).

Main statement: `Declarations.withInheritance_withInheritance`. Cycles of supertypes make no
difference, nor do names that are declared more than once.
-/

set_option autoImplicit false

namespace TypeAtlas

namespace Member

/-- Adding the same members once more adds nothing. -/
theorem append_append (members more : List Member) :
    append (append members more) more = append members more := by
  have taken : ∀ member ∈ more, member.name ∈ (append members more).map (·.name) := by
    intro member mem
    rw [append_eq, List.map_append, List.mem_append, mem_map_name_newMembers]
    by_cases old : member.name ∈ members.map (·.name)
    · exact .inl old
    · exact .inr ⟨List.mem_map_of_mem mem, old⟩
  rw [append_eq (append members more), newMembers_eq_nil taken, List.append_nil]

/-- Members that are inherited leave those alone that are not. -/
theorem filter_append_of_inherited (members : List Member) {more : List Member}
    (inherited : ∀ member ∈ more, member.isInherited = true) :
    (append members more).filter (!·.isInherited) = members.filter (!·.isInherited) := by
  have none : (newMembers members more).filter (!·.isInherited) = [] := by
    refine List.filter_eq_nil_iff.mpr fun member mem => ?_
    simp [inherited member (List.mem_of_find?_eq_some (named?_newMembers mem).1)]
  rw [append_eq, List.filter_append, none, List.append_nil]

end Member

namespace Declarations

variable (decls : Declarations)

/-! ### What is passed on after inheriting -/

/-- A name passes on what it passed on before its declaration inherited. -/
theorem bequest_withInheritance : decls.withInheritance.bequest = decls.bequest := by
  have own (members : List Member) (name : String) (bases : List TypeExpr) :=
    Member.filter_append_of_inherited members fun member
      (mem : member ∈ decls.inheritedMembers name bases) =>
        decls.isInherited_of_mem_inheritedMembers mem
  funext name
  rw [bequest, bequest, bequest?, bequest?, interface?_withInheritance, class?_withInheritance]
  cases decls.interface? name with
  | some decl => simp only [Option.map_some, own]
  | none =>
    cases decls.class? name with
    | some decl => simp only [Option.map_none, Option.map_some, own]
    | none => rfl

/-! ### The second time -/

/-- Inheriting a second time changes nothing: every interface and class keeps the members that it
has, each with its origin. -/
theorem withInheritance_withInheritance :
    decls.withInheritance.withInheritance = decls.withInheritance := by
  have again : decls.withInheritance.inheritedMembers = decls.inheritedMembers :=
    inheritedMembers_congr decls.bequest_withInheritance
  refine ext_entries ?_ rfl ?_ rfl
  · rw [interfaces_withInheritance, again, interfaces_withInheritance]
    simp only [List.map_map, Function.comp_def, Member.append_append]
  · rw [classes_withInheritance, again, classes_withInheritance]
    simp only [List.map_map, Function.comp_def, Member.append_append]

end Declarations

end TypeAtlas
