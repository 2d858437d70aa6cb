import TypeAtlas.Proofs.Declarations.Ancestry
import TypeAtlas.Proofs.Declarations.Merging
import TypeAtlas.Source

/-!
# Declarations are known by their names alone

Wherever a type names something, the declaration is looked up by its name. So what a declaration
inherits and what a type stands for are the same for declarations that agree on every name
(`Declarations.Agree.inheritedMembers`, `Scope.Agree.apparentWithin`), in whatever order they are
listed. Declarations that are reordered agree since no kind has a name twice
(`Declarations.Reordered.agree`), and they stay so while inheritance is resolved and aliases are
expanded (`Declarations.reordered_complete`).
-/

set_option autoImplicit false

namespace TypeAtlas

namespace Declarations

/-! ### Agreement on names -/

/-- Two collections of declarations agree on what every name is declared as. -/
structure Agree (decls other : Declarations) : Prop where
  interface? : decls.interface? = other.interface?
  alias? : decls.alias? = other.alias?
  class? : decls.class? = other.class?
  enum? : decls.enum? = other.enum?

variable {decls other : Declarations}

/-- Declarations that agree on names agree on what each name passes on. -/
theorem Agree.bequest (h : decls.Agree other) : decls.bequest = other.bequest := by
  funext name
  simp only [Declarations.bequest, bequest?, h.interface?, h.class?, h.alias?]

/-- Walks over supertypes meet the same declarations with the same arguments where every name passes
on the same. -/
theorem ancestors_congr (same : decls.bequest = other.bequest) (bases : List TypeExpr)
    (seen : List String) : decls.ancestors bases seen = other.ancestors bases seen := by
  fun_induction Declarations.ancestors decls bases seen with
  | case1 seen => rw [ancestors_nil]
  | case2 base rest seen name arguments shape old ih =>
    rw [ih, ancestors_cons_of_mem shape (by simpa using old)]
  | case3 base rest seen name arguments shape new bequest bindings above ihAbove _ =>
    rename_i ihRest
    rw [ancestors_cons_of_not_mem shape (by simpa using new), ← same, ← ihAbove, ← ihRest]
  | case4 base rest seen shape ih => rw [ih, ancestors_cons_of_not_reference shape]

/-- What a declaration inherits is a matter of what each name passes on. -/
theorem inheritedMembers_congr (same : decls.bequest = other.bequest) :
    decls.inheritedMembers = other.inheritedMembers := by
  have passed : decls.passedOn = other.passedOn := by
    funext ancestor
    simp only [passedOn, same]
  funext name bases
  simp only [inheritedMembers, ancestors_congr same, passed]

/-- Declarations that agree on names agree on what is inherited. -/
theorem Agree.inheritedMembers (h : decls.Agree other) :
    decls.inheritedMembers = other.inheritedMembers :=
  inheritedMembers_congr h.bequest

end Declarations

namespace Scope

/-- Two scopes agree on every name and on how often a type is replaced. -/
structure Agree (scope other : Scope) : Prop where
  declarations : scope.declarations.Agree other.declarations
  hops : scope.hops = other.hops

variable {scope other : Scope}

/-! ### The same answers -/

/-- Scopes that agree on names agree on what a named alias stands for. -/
theorem Agree.aliasValue? (h : scope.Agree other) : scope.aliasValue? = other.aliasValue? := by
  funext name arguments
  simp only [Scope.aliasValue?, h.declarations.alias?]

/-- Scopes that agree on names agree on the members of named types. -/
theorem Agree.memberOf? (h : scope.Agree other) : scope.memberOf? = other.memberOf? := by
  funext owner name arguments
  simp only [Scope.memberOf?, h.declarations.interface?, h.declarations.class?]

/-- Scopes that agree on names agree on what replaces a type at once. -/
theorem Agree.hop (h : scope.Agree other) : scope.hop = other.hop := by
  funext access type
  simp only [Scope.hop, h.aliasValue?]

/-- With any fuel the three questions have the same answers. -/
theorem Agree.answers (h : scope.Agree other) : (fuel : Nat) →
    scope.apparentWithin fuel = other.apparentWithin fuel ∧
      scope.propertyWithin fuel = other.propertyWithin fuel ∧
        scope.accessWithin fuel = other.accessWithin fuel
  | 0 => ⟨rfl, rfl, rfl⟩
  | fuel + 1 => by
      obtain ⟨apparent, property, access⟩ := h.answers fuel
      refine ⟨?_, ?_, ?_⟩
      · funext type
        rw [apparentWithin, apparentWithin, h.hop, h.hops, access]
      · funext type name
        rw [propertyWithin, propertyWithin, apparent, property, h.memberOf?]
      · funext object index
        rw [accessWithin, accessWithin, apparent, property]

/-- Scopes that agree on names agree on what a type stands for. -/
theorem Agree.apparent (h : scope.Agree other) : scope.apparent = other.apparent := by
  funext type
  simp only [Scope.apparent, (h.answers patience).1]

/-- Scopes that agree on names agree on what an indexed access finds. -/
theorem Agree.access? (h : scope.Agree other) : scope.access? = other.access? := by
  funext type
  simp only [Scope.access?, (h.answers patience).2.2]

/-- Scopes that agree on names agree on which types are plain values. -/
theorem Agree.isValueLike (h : scope.Agree other) : scope.isValueLike = other.isValueLike := by
  funext type
  simp only [Scope.isValueLike, h.apparent, isEnumOrMember, h.declarations.enum?]

/-- Scopes that agree on names agree on the model that a type names. -/
theorem Agree.nameOf (h : scope.Agree other) : scope.nameOf = other.nameOf := by
  funext type
  simp only [Scope.nameOf, aliasName?, h.declarations.alias?]

end Scope

namespace Declarations

/-! ### Declarations in another order -/

/-- The declarations of each kind are the same, but they may be listed in another order. -/
structure Reordered (decls other : Declarations) : Prop where
  interfaces : decls.interfaces.Perm other.interfaces
  aliases : decls.aliases.Perm other.aliases
  classes : decls.classes.Perm other.classes
  enums : decls.enums.Perm other.enums

variable {decls other : Declarations}

/-- The order of the declarations does not matter to a name, since no kind has a name twice. -/
theorem Reordered.agree (h : decls.Reordered other) : decls.Agree other where
  interface? := Table.find?_eq_of_perm h.interfaces
  alias? := Table.find?_eq_of_perm h.aliases
  class? := Table.find?_eq_of_perm h.classes
  enum? := Table.find?_eq_of_perm h.enums

/-- Inheriting leaves the declarations in their order. -/
theorem Reordered.withInheritance (h : decls.Reordered other) :
    decls.withInheritance.Reordered other.withInheritance where
  interfaces := by
    rw [interfaces_withInheritance, interfaces_withInheritance, h.agree.inheritedMembers]
    exact h.interfaces.map _
  aliases := h.aliases
  classes := by
    rw [classes_withInheritance, classes_withInheritance, h.agree.inheritedMembers]
    exact h.classes.map _
  enums := h.enums

/-- Replacing aliases leaves the declarations in their order. -/
theorem Reordered.withExpandedAliases (h : decls.Reordered other) (hops : Nat) :
    (decls.withExpandedAliases hops).Reordered (other.withExpandedAliases hops) where
  interfaces := h.interfaces
  aliases := by
    have agree : (Scope.mk decls hops).Agree (Scope.mk other hops) := ⟨h.agree, rfl⟩
    rw [aliases_withExpandedAliases, aliases_withExpandedAliases, agree.apparent]
    exact h.aliases.map _
  classes := h.classes
  enums := h.enums

/-! ### Lists of declarations -/

/-- No kind of declarations in a list has a name twice. -/
structure DistinctNames (list : List Declaration) : Prop where
  interfaces : ((list.filterMap (·.interface?)).map (·.name)).Nodup
  aliases : ((list.filterMap (·.alias?)).map (·.name)).Nodup
  classes : ((list.filterMap (·.class?)).map (·.name)).Nodup
  enums : ((list.filterMap (·.enum?)).map (·.name)).Nodup

/-- In another order no kind of declarations has a name twice either. -/
theorem DistinctNames.perm {list other : List Declaration} (h : DistinctNames list)
    (permuted : list.Perm other) : DistinctNames other where
  interfaces := (((permuted.filterMap _).map _).nodup_iff).mp h.interfaces
  aliases := (((permuted.filterMap _).map _).nodup_iff).mp h.aliases
  classes := (((permuted.filterMap _).map _).nodup_iff).mp h.classes
  enums := (((permuted.filterMap _).map _).nodup_iff).mp h.enums

/-- Adding declarations in another order lists them in another order, if none are merged. -/
theorem reordered_ofList {list other : List Declaration} (permuted : list.Perm other)
    (distinct : DistinctNames list) : (ofList list).Reordered (ofList other) := by
  have also := distinct.perm permuted
  refine ⟨?_, ?_, ?_, ?_⟩
  · rw [interfaces_ofList, interfaces_ofList, addAllNamed_of_nodup distinct.interfaces,
      addAllNamed_of_nodup also.interfaces]
    exact permuted.filterMap _
  · rw [aliases_ofList, aliases_ofList, addAllNamed_of_nodup distinct.aliases,
      addAllNamed_of_nodup also.aliases]
    exact permuted.filterMap _
  · rw [classes_ofList, classes_ofList, addAllNamed_of_nodup distinct.classes,
      addAllNamed_of_nodup also.classes]
    exact permuted.filterMap _
  · rw [enums_ofList, enums_ofList, addAllNamed_of_nodup distinct.enums,
      addAllNamed_of_nodup also.enums]
    exact permuted.filterMap _

/-- The declarations of a list, with what they inherit and with aliases replaced by what they stand
for. Those of a source are made so of the declarations in its tree. -/
def complete (list : List Declaration) (hops : Nat) : Declarations :=
  (ofList list).withInheritance.withExpandedAliases hops

/-- Declarations with distinct names inherit and are expanded alike in every order. -/
theorem reordered_complete {list other : List Declaration} (permuted : list.Perm other)
    (distinct : DistinctNames list) (hops : Nat) :
    (complete list hops).Reordered (complete other hops) :=
  (reordered_ofList permuted distinct).withInheritance.withExpandedAliases hops

end Declarations
end TypeAtlas
