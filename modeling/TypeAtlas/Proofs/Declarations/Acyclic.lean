import Mathlib.Logic.Relation
import TypeAtlas.Proofs.Declarations.Inheritance

/-!
# Supertypes without cycles

A name extends another if that is one of its supertypes. Where no chain of supertypes returns to a
name of its own (`Declarations.Acyclic`), what is said of a name may be proved from what is said of
all names above it (`Declarations.Acyclic.induction`), since the names below one are interfaces and
classes and there are only so many.

The members that a name has with all that it inherits are those of `writtenMembers` after
`withInheritance`. Their names are the names of the members declared by it and by the names above it
(`Declarations.Acyclic.mem_map_name_resolved`).
-/

set_option autoImplicit false

namespace TypeAtlas

namespace Declarations

variable {decls : Declarations}

/-! ### Extending -/

/-- A name has another one as a supertype. -/
def Extends (decls : Declarations) (name super : String) : Prop := super ∈ decls.supers name

/-- No name is above itself. -/
def Acyclic (decls : Declarations) : Prop := ∀ name, ¬ Relation.TransGen decls.Extends name name

/-- Nothing is above a name that is no interface and no class. -/
theorem mem_heirs_of_extends {name super : String} (h : decls.Extends name super) :
    name ∈ decls.heirs := by
  by_contra other
  rw [Extends, supers_of_not_mem_heirs other] at h
  cases h

namespace Acyclic

/-- If no name is above itself, what holds of a name if it holds of all names above it holds of
every name. The names that were passed on the way up are told; each step adds one of finitely many
to them. -/
theorem induction_from (h : decls.Acyclic) {motive : String → Prop}
    (step : ∀ name, (∀ above, Relation.TransGen decls.Extends name above → motive above) →
      motive name) (below : List String) (name : String)
    (under : ∀ lower ∈ below, Relation.TransGen decls.Extends lower name) : motive name :=
  step name fun above higher =>
    have heir : name ∈ decls.heirs := by
      obtain ⟨super, first, _⟩ := Relation.TransGen.head'_iff.mp higher
      exact mem_heirs_of_extends first
    have new : below.contains name = false := by
      simpa using fun inside => h name (under name inside)
    have fewer := unseen_cons_lt heir new
    h.induction_from step (name :: below) above fun lower mem => by
      rcases List.mem_cons.mp mem with rfl | inside
      · exact higher
      · exact (under lower inside).trans higher
termination_by decls.unseen below

/-- What holds of a name if it holds of all names above it holds of every name. -/
theorem induction (h : decls.Acyclic) {motive : String → Prop}
    (step : ∀ name, (∀ above, Relation.TransGen decls.Extends name above → motive above) →
      motive name) (name : String) : motive name :=
  h.induction_from step [] name fun _ mem => by cases mem

/-- There are no cycles where something falls from each name to its supertypes. -/
theorem of_rank (rank : String → Nat)
    (falls : ∀ name super, decls.Extends name super → rank super < rank name) : decls.Acyclic := by
  have above {name super : String} (chain : Relation.TransGen decls.Extends name super) :
      rank super < rank name := by
    induction chain with
    | single first => exact falls _ _ first
    | tail _ next ih => exact Nat.lt_trans (falls _ _ next) ih
  exact fun name cycle => Nat.lt_irrefl _ (above cycle)

/-- Without cycles a name can be reached from the supertypes of another one exactly if it is above
that one. -/
theorem reachable_iff (h : decls.Acyclic) {name owner : String} :
    decls.Reachable name (decls.supers name) owner ↔
      Relation.TransGen decls.Extends name owner := by
  have other {above : String} (higher : Relation.TransGen decls.Extends name above) :
      above ≠ name := fun same => h name (same ▸ higher)
  constructor
  · intro reached
    induction reached with
    | base mem _ => exact .single mem
    | step _ mem _ ih => exact .tail ih mem
  · intro higher
    induction higher with
    | single mem => exact .base mem (other (.single mem))
    | tail lower mem ih => exact .step ih mem (other (.tail lower mem))

end Acyclic

/-- A supertype that is a reference adds the name that it refers to. -/
theorem names_cons_of_reference {base : TypeExpr} {name : String} {arguments : List TypeExpr}
    (shape : base.shape = .reference name arguments) (rest : List TypeExpr) :
    names (base :: rest) = name :: names rest :=
  List.filterMap_cons_some (TypeExpr.referenceName?_eq_some.mpr ⟨arguments, shape⟩)

/-- A supertype that is no reference adds no name. -/
theorem names_cons_of_not_reference {base : TypeExpr}
    (shape : ∀ name arguments, base.shape ≠ .reference name arguments) (rest : List TypeExpr) :
    names (base :: rest) = names rest :=
  List.filterMap_cons_none (TypeExpr.referenceName?_eq_none.mpr shape)

/-- Every name that a walk meets is one of the supertypes at hand or above one. -/
theorem exists_of_mem_ancestors (plain : decls.NoBareParameter) {bases : List TypeExpr}
    {seen : List String} {name : String}
    (h : name ∈ (decls.ancestors bases seen).map (·.name)) :
    ∃ base ∈ names bases, Relation.ReflTransGen decls.Extends base name := by
  fun_induction ancestors decls bases seen with
  | case1 seen => cases h
  | case2 base rest seen owner arguments shape old ih =>
    obtain ⟨start, mem, chain⟩ := ih h
    rw [names_cons_of_reference shape]
    exact ⟨start, List.mem_cons_of_mem _ mem, chain⟩
  | case3 base rest seen owner arguments shape new bequest bindings above ihAbove _ =>
    rename_i ihRest
    rw [names_cons_of_reference shape]
    rw [List.map_append, List.map_cons, List.mem_append, List.mem_cons] at h
    obtain (rfl | higher) | beside := h
    · exact ⟨name, List.mem_cons_self, .refl⟩
    · obtain ⟨super, mem, chain⟩ := ihAbove higher
      rw [names, plain.map_substitute owner arguments] at mem
      exact ⟨owner, List.mem_cons_self, .head mem chain⟩
    · obtain ⟨start, mem, chain⟩ := ihRest beside
      exact ⟨start, List.mem_cons_of_mem _ mem, chain⟩
  | case4 base rest seen shape ih =>
    rw [names_cons_of_not_reference shape]
    exact ih h

/-! ### Members with inheritance -/

/-- Inheriting leaves the aliases as they are. -/
theorem alias?_withInheritance (decls : Declarations) (name : String) :
    decls.withInheritance.alias? name = decls.alias? name := rfl

/-- Inheriting leaves the type parameters of all names as they are. -/
theorem bequest_withInheritance_typeParameters (decls : Declarations) (name : String) :
    (decls.withInheritance.bequest name).typeParameters = (decls.bequest name).typeParameters := by
  simp only [bequest, bequest?, interface?_withInheritance, class?_withInheritance,
    alias?_withInheritance]
  cases decls.interface? name with
  | some decl => rfl
  | none =>
    cases decls.class? name with
    | some decl => rfl
    | none => rfl

/-- A name keeps its members and gains those that it inherits. -/
theorem writtenMembers_withInheritance (decls : Declarations) (name : String) :
    decls.withInheritance.writtenMembers name = Member.append (decls.writtenMembers name)
      (decls.inheritedMembers name (decls.bequest name).bases) := by
  simp only [writtenMembers, bequest, bequest?, interface?_withInheritance, class?_withInheritance,
    alias?_withInheritance]
  cases isInterface : decls.interface? name with
  | some decl =>
    obtain rfl : decl.name = name := (Declarations.mem_of_interface? isInterface).2
    rfl
  | none =>
    cases isClass : decls.class? name with
    | some decl =>
      obtain rfl : decl.name = name := (Declarations.mem_of_class? isClass).2
      rfl
    | none =>
      have nothing (members : List Member) :
          Member.append members (decls.inheritedMembers name []) = members := by
        simp [inheritedMembers, Member.append]
      cases decls.alias? name with
      | none => exact (nothing []).symm
      | some decl =>
        simp only [Option.map_none]
        cases decl.declared.shape <;> exact (nothing _).symm

/-- With inheritance a name has members of the names that it and those above it declare. -/
theorem Acyclic.mem_map_name_resolved (h : decls.Acyclic) (fresh : decls.Fresh)
    (plain : decls.NoBareParameter) {name other : String} :
    other ∈ (decls.withInheritance.writtenMembers name).map (·.name) ↔
      ∃ owner, Relation.ReflTransGen decls.Extends name owner ∧
        other ∈ (decls.writtenMembers owner).map (·.name) := by
  rw [writtenMembers_withInheritance, Member.append_eq, List.map_append, List.mem_append,
    Member.mem_map_name_newMembers, mem_map_name_inheritedMembers fresh plain]
  have above (owner : String) :
      decls.Reachable name (names (decls.bequest name).bases) owner ↔
        Relation.TransGen decls.Extends name owner := h.reachable_iff
  simp only [above, Relation.reflTransGen_iff_eq_or_transGen]
  constructor
  · rintro (own | ⟨⟨owner, higher, mem⟩, _⟩)
    · exact ⟨name, .inl rfl, own⟩
    · exact ⟨owner, .inr higher, mem⟩
  · rintro ⟨owner, rfl | higher, mem⟩
    · exact .inl mem
    · by_cases own : other ∈ (decls.writtenMembers name).map (·.name)
      · exact .inl own
      · exact .inr ⟨⟨owner, higher, mem⟩, own⟩

/-- A name has, with inheritance, members of all the names that those above it have. -/
theorem Acyclic.map_name_resolved_subset (h : decls.Acyclic) (fresh : decls.Fresh)
    (plain : decls.NoBareParameter) {name above : String}
    (chain : Relation.ReflTransGen decls.Extends name above) :
    (decls.withInheritance.writtenMembers above).map (·.name) ⊆
      (decls.withInheritance.writtenMembers name).map (·.name) := by
  intro other mem
  obtain ⟨owner, higher, declared⟩ := (h.mem_map_name_resolved fresh plain).mp mem
  exact (h.mem_map_name_resolved fresh plain).mpr ⟨owner, chain.trans higher, declared⟩

end Declarations

end TypeAtlas
