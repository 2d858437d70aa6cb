import TypeAtlas.Declarations.Scope
import TypeAtlas.Proofs.Declarations.Laws
import TypeAtlas.Proofs.Types.Instances

/-!
# Instances of declarations

Arguments take the place of the type parameters of a declaration where an alias is replaced by what
it stands for, where a member of a named type is looked up and where members are inherited. In none
of these places a type parameter of the declaration is left, but in the arguments
(`Scope.LeavesNone`).

Main statement: `Scope.leavesNone`. It has to make an exception for type parameters that are
mentioned by a default. A default stands for its type parameter as it was written, so that of `type
A<T, U = T> = U` the instance `A<string>` is `T` (`Scope.mentionsBeside_defaulted`).
-/

set_option autoImplicit false

namespace TypeAtlas

/-! ### Supertypes with their arguments -/

/-- A supertype as a walk up from some supertypes comes upon it: one of these, or one of the
supertypes of what such a one names, with its arguments in place. -/
inductive Declarations.Meets (decls : Declarations) (bases : List TypeExpr) : TypeExpr → Prop
  | base {base : TypeExpr} (mem : base ∈ bases) : Meets decls bases base
  | above {met base : TypeExpr} {name : String} {arguments : List TypeExpr}
      (below : Meets decls bases met) (shape : met.shape = .reference name arguments)
      (mem : base ∈ (decls.bequest name).bases) :
      Meets decls bases
        (base.substitute (.ofArguments (decls.bequest name).typeParameters arguments))

/-- Each ancestor is met on the walk up, with the arguments that its bindings are made of. -/
theorem Declarations.exists_meets_of_mem_ancestors {decls : Declarations} {bases : List TypeExpr}
    {seen : List String} {ancestor : Ancestor} (h : ancestor ∈ decls.ancestors bases seen) :
    ∃ met arguments, decls.Meets bases met ∧ met.shape = .reference ancestor.name arguments ∧
      ancestor.bindings = .ofArguments (decls.bequest ancestor.name).typeParameters arguments := by
  refine @forall_mem_ancestors decls (decls.Meets bases)
    (fun name bindings => ∃ met arguments, decls.Meets bases met ∧
      met.shape = .reference name arguments ∧
        bindings = .ofArguments (decls.bequest name).typeParameters arguments)
    (fun base name arguments met shape => ⟨base, arguments, met, shape, rfl⟩) ?_ bases seen
    (fun _ => .base) ancestor h
  rintro name _ ⟨met, arguments, below, shape, rfl⟩ base mem
  exact .above below shape mem

/-! ### Nothing is left -/

/-- An inherited member is an instance of the one it comes from, with the arguments in place of the
type parameters. -/
theorem Member.instantiated_inheritedFrom (member : Member) (owner : String)
    (parameters : List TypeParameter) (arguments : List TypeExpr) :
    (member.inheritedFrom owner (.ofArguments parameters arguments)).Instantiated parameters
      arguments := by
  have clear := member.instantiated_substitute parameters arguments
  unfold Instantiated MentionsBeside at clear ⊢
  rwa [parts_inheritedFrom]

/-- Of the type parameters of a declaration none is left in what is made of the declaration with
arguments in their place. For an inherited member the arguments are those of the supertype it comes
from, as it is met. -/
structure Scope.LeavesNone (scope : Scope) : Prop where
  aliases : ∀ name decl, scope.declarations.alias? name = some decl →
    ∀ arguments, ∀ value ∈ scope.aliasValue? name arguments,
      value.Instantiated decl.typeParameters arguments
  interfaces : ∀ owner decl, scope.declarations.interface? owner = some decl →
    ∀ name arguments, ∀ value ∈ scope.memberOf? owner name arguments,
      value.Instantiated decl.typeParameters arguments
  classes : ∀ owner decl, scope.declarations.interface? owner = none →
    scope.declarations.class? owner = some decl →
      ∀ name arguments, ∀ value ∈ scope.memberOf? owner name arguments,
        value.Instantiated decl.typeParameters arguments
  inherited : ∀ name bases, ∀ member ∈ scope.declarations.inheritedMembers name bases,
    ∃ met owner arguments, scope.declarations.Meets bases met ∧
      met.shape = .reference owner arguments ∧
        (∃ written ∈ (scope.declarations.bequest owner).members,
          written.inheritedFrom owner
            (.ofArguments (scope.declarations.bequest owner).typeParameters arguments) = member) ∧
          member.Instantiated (scope.declarations.bequest owner).typeParameters arguments

namespace Scope

variable (scope : Scope)

/-- No type parameters are left where arguments take their place. -/
theorem leavesNone : scope.LeavesNone where
  aliases := by
    intro name decl found arguments value made
    simp only [aliasValue?, found, Option.map_some, Option.mem_def, Option.some.injEq] at made
    exact made ▸ decl.declared.instantiated_substitute decl.typeParameters arguments
  interfaces := by
    intro owner decl found name arguments value made
    simp only [memberOf?, found] at made
    obtain ⟨said, -, rfl⟩ := Option.map_eq_some_iff.mp made
    exact said.instantiated_substitute decl.typeParameters arguments
  classes := by
    intro owner decl noInterface found name arguments value made
    simp only [memberOf?, noInterface, found] at made
    obtain ⟨said, -, rfl⟩ := Option.map_eq_some_iff.mp made
    exact said.instantiated_substitute decl.typeParameters arguments
  inherited := by
    intro name bases member listed
    obtain ⟨ancestor, walked, passed⟩ := List.mem_flatMap.mp listed
    obtain ⟨written, mem, rfl⟩ := List.mem_map.mp passed
    obtain ⟨met, arguments, meets, shape, bound⟩ :=
      Declarations.exists_meets_of_mem_ancestors walked
    rw [bound]
    exact ⟨met, ancestor.name, arguments, meets, shape, ⟨written, mem, rfl⟩,
      written.instantiated_inheritedFrom ancestor.name _ arguments⟩

/-- The alias `type Pair<T, U = null> = [T, U[]]`. -/
def pair : Scope where
  declarations := .ofList
    [.typeAlias ⟨"Pair", default,
      [⟨"T", none, none⟩, ⟨"U", none, some ⟨.keyword "null", "null"⟩⟩],
      ⟨.tuple [⟨.reference "T" [], "T"⟩, ⟨.array ⟨.reference "U" [], "U"⟩, "U[]"⟩], "[T, U[]]"⟩,
      ⟨.tuple [⟨.reference "T" [], "T"⟩, ⟨.array ⟨.reference "U" [], "U"⟩, "U[]"⟩], "[T, U[]]"⟩⟩]
  hops := 32

/-- Of the instance `Pair<U>` of this alias, the argument is all that mentions a type parameter. -/
theorem leavesNone_pair :
    ∃ value, pair.aliasValue? "Pair" [.reference "U" []] = some value ∧
      ∀ name ∈ ["T", "U"], ¬ value.MentionsBeside [.reference "U" []] name := by
  refine ⟨_, rfl, fun name mem => ?_⟩
  have clear := pair.leavesNone.aliases "Pair" _ rfl [.reference "U" []] _ rfl
  have fallbacks (fallback : TypeExpr) (used : fallback ∈ [⟨.keyword "null", "null"⟩]) :
      ¬ fallback.Mentions name := by
    rw [List.mem_singleton.mp used]
    exact TypeExpr.not_mentions_of_keyword rfl name
  rcases List.mem_pair.mp mem with rfl | rfl
  · exact clear _ List.mem_cons_self fallbacks
  · exact clear _ (List.mem_cons_of_mem _ List.mem_cons_self) fallbacks

/-! ### Defaults that mention type parameters -/

/-- The alias `type A<T, U = T> = U`. -/
def defaulted : Scope where
  declarations := .ofList
    [.typeAlias ⟨"A", default, [⟨"T", none, none⟩, ⟨"U", none, some ⟨.reference "T" [], "T"⟩⟩],
      ⟨.reference "U" [], "U"⟩, ⟨.reference "U" [], "U"⟩⟩]
  hops := 32

/-- The instance `A<string>` is `T`, which is not in the argument. -/
theorem mentionsBeside_defaulted :
    ∃ decl value, defaulted.declarations.alias? "A" = some decl ∧
      defaulted.aliasValue? "A" [.keyword "string"] = some value ∧
        ∃ parameter ∈ decl.typeParameters,
          value.MentionsBeside [.keyword "string"] parameter.name := by
  refine ⟨_, ⟨.reference "T" [], "T"⟩, rfl, rfl, _, List.mem_cons_self, .here ?_ rfl⟩
  rw [List.mem_singleton]
  intro same
  cases same

end Scope

end TypeAtlas
