import TypeAtlas.Declarations.Scope

/-!
# Expanding aliases

A type that names an alias is expanded into what the alias stands for with the arguments in place,
and this may name an alias again (`Declarations.Expands`). An alias can come up again and again with
other arguments, so the expansions of a type are followed one by one, and not alias by alias. They
are over when a type is settled: it names no alias and is no indexed access
(`Declarations.Settled`).

However many hops a scope allows for, its first hops are the expansions (`settle_of_expands`), and
no hop leads on from a settled type (`settle_of_settled`). So once the limit is high enough for a
type to settle, it does not matter any more; and if it is not, it tells how often the type is
expanded.

Main statement: `Declarations.expandsStably`.
-/

set_option autoImplicit false

namespace TypeAtlas

namespace Declarations

variable (decls : Declarations)

/-- A type names an alias. -/
def NamesAlias (type : TypeExpr) : Prop :=
  ∃ name arguments, type.shape = .reference name arguments ∧ (decls.alias? name).isSome

/-- A type neither names an alias nor is an indexed access. -/
structure Settled (type : TypeExpr) : Prop where
  named : ¬ decls.NamesAlias type
  accessed : ∀ object index, type.shape ≠ .indexedAccess object index

/-- Where a type leads to by a number of expansions: each replaces a type that names an alias by
what the alias stands for, with the arguments in place of its type parameters. -/
inductive Expands : Nat → TypeExpr → TypeExpr → Prop
  | refl (type : TypeExpr) : Expands 0 type type
  | step {times : Nat} {type last : TypeExpr} {name : String} {arguments : List TypeExpr}
      {decl : AliasDecl} (shape : type.shape = .reference name arguments)
      (found : decls.alias? name = some decl)
      (rest : Expands times
        (decl.declared.substitute (.ofArguments decl.typeParameters arguments)) last) :
      Expands (times + 1) type last

variable {decls}

/-- As long as aliases are named, a type is expanded. -/
theorem exists_expands {limit : Nat} {type : TypeExpr}
    (h : ∀ times < limit, ∀ here, decls.Expands times type here → decls.NamesAlias here) :
    ∃ last, decls.Expands limit type last := by
  induction limit generalizing type with
  | zero => exact ⟨type, .refl type⟩
  | succ limit ih =>
    obtain ⟨name, arguments, shape, declared⟩ := h 0 (Nat.succ_pos limit) type (.refl type)
    obtain ⟨decl, found⟩ := Option.isSome_iff_exists.mp declared
    obtain ⟨last, rest⟩ := ih fun times few here expands =>
      h (times + 1) (Nat.succ_lt_succ few) here (.step shape found expands)
    exact ⟨last, .step shape found rest⟩

end Declarations

namespace Scope

variable {decls : Declarations} {limit : Nat} {type last : TypeExpr}

/-! ### Hops -/

section hops

variable {access : TypeExpr → TypeExpr → Except Unanswered (Option TypeExpr)}

/-- From a settled type no hop leads on. -/
theorem settle_of_settled (settled : decls.Settled type) (hops : Nat) :
    settle ((Scope.mk decls limit).hop access) hops type = .ok type := by
  have stays : (Scope.mk decls limit).hop access type = .ok none := by
    unfold hop
    split
    · rename_i name arguments shape
      have undeclared : decls.alias? name = none := by
        refine Option.not_isSome_iff_eq_none.mp fun declared => ?_
        exact settled.named ⟨name, arguments, shape, declared⟩
      rw [aliasValue?, undeclared]
      rfl
    · rename_i object index shape
      exact absurd shape (settled.accessed object index)
    · rfl
  cases hops with
  | zero => rfl
  | succ hops => rw [settle, stays]

/-- The first hops are the expansions. -/
theorem settle_of_expands {times : Nat} (expands : decls.Expands times type last) (more : Nat) :
    settle ((Scope.mk decls limit).hop access) (times + more) type =
      settle ((Scope.mk decls limit).hop access) more last := by
  induction expands with
  | refl type => rw [Nat.zero_add]
  | @step times type last name arguments decl shape found rest ih =>
    have leads : (Scope.mk decls limit).hop access type =
        .ok (some (decl.declared.substitute (.ofArguments decl.typeParameters arguments))) := by
      unfold hop
      rw [shape]
      simp only [aliasValue?, found, Option.map_some]
    rw [Nat.succ_add, settle, leads]
    exact ih

end hops

/-! ### What a type stands for -/

/-- It is found what a type stands for, at once and with no more than one question. -/
structure StandsFor (scope : Scope) (type last : TypeExpr) : Prop where
  within : ∀ fuel, scope.apparentWithin (fuel + 1) type = .ok last
  apparent : scope.apparent type = last

/-- What a type settles at, whatever answers indexed accesses, it stands for. -/
theorem standsFor_of_settle
    (h : ∀ access, settle ((Scope.mk decls limit).hop access) limit type = .ok last) :
    (Scope.mk decls limit).StandsFor type last := by
  have within (fuel : Nat) : (Scope.mk decls limit).apparentWithin (fuel + 1) type = .ok last := by
    rw [apparentWithin]
    exact h _
  refine ⟨within, ?_⟩
  obtain ⟨fuel, enough⟩ : ∃ fuel, patience = fuel + 1 :=
    Nat.exists_eq_succ_of_ne_zero (by decide)
  rw [Scope.apparent, enough, within]

/-- What a type settles to is what it stands for, if the limit is high enough. -/
theorem standsFor_of_expands {times : Nat} (expands : decls.Expands times type last)
    (settled : decls.Settled last) (enough : times ≤ limit) :
    (Scope.mk decls limit).StandsFor type last := by
  apply standsFor_of_settle
  intro access
  obtain ⟨more, rfl⟩ := Nat.exists_eq_add_of_le enough
  rw [settle_of_expands expands, settle_of_settled settled]

/-- Types that stand for the same one have the same properties. -/
theorem StandsFor.propertyWithin {scope : Scope} {other : TypeExpr}
    (h : scope.StandsFor type last) (also : scope.StandsFor other last) (fuel : Nat)
    (name : String) :
    scope.propertyWithin fuel type name = scope.propertyWithin fuel other name := by
  cases fuel with
  | zero => rfl
  | succ fuel =>
    have same : scope.apparentWithin fuel type = scope.apparentWithin fuel other := by
      cases fuel with
      | zero => rfl
      | succ fuel => rw [h.within, also.within]
    unfold Scope.propertyWithin
    rw [same]

/-- Types that stand for the same one are plain values together. -/
theorem StandsFor.isValueLike {scope : Scope} {other : TypeExpr}
    (h : scope.StandsFor type last) (also : scope.StandsFor other last) :
    scope.isValueLike type = scope.isValueLike other := by
  unfold Scope.isValueLike
  rw [h.apparent, also.apparent]

end Scope

namespace Declarations

/-- With these declarations, expanding aliases is stable. A type that settles within a limit stands
for the same type with every higher one, and this for itself with any limit. The two have the same
properties, or both have no answer, and are plain values together. A type that goes on naming
aliases stands for what it has become when the limit is reached. -/
structure ExpandsStably (decls : Declarations) : Prop where
  limits : ∀ {times few many : Nat} {type last : TypeExpr}, decls.Expands times type last →
    decls.Settled last → times ≤ few → few ≤ many →
      (Scope.mk decls few).StandsFor type last ∧ (Scope.mk decls many).StandsFor type last
  rests : ∀ {last : TypeExpr}, decls.Settled last → ∀ limit,
    (Scope.mk decls limit).StandsFor last last
  values : ∀ {times limit : Nat} {type last : TypeExpr}, decls.Expands times type last →
    decls.Settled last → times ≤ limit →
      (Scope.mk decls limit).isValueLike type = (Scope.mk decls limit).isValueLike last
  properties : ∀ {times limit : Nat} {type last : TypeExpr}, decls.Expands times type last →
    decls.Settled last → times ≤ limit → ∀ fuel name,
      (Scope.mk decls limit).propertyWithin fuel type name =
        (Scope.mk decls limit).propertyWithin fuel last name
  cut : ∀ {limit : Nat} {type : TypeExpr},
    (∀ times < limit, ∀ here, decls.Expands times type here → decls.NamesAlias here) →
      ∃ last, decls.Expands limit type last ∧ (Scope.mk decls limit).StandsFor type last

/-- Expanding aliases is stable. -/
theorem expandsStably (decls : Declarations) : decls.ExpandsStably where
  limits := by
    intro times few many type last expands settled enough higher
    exact ⟨Scope.standsFor_of_expands expands settled enough,
      Scope.standsFor_of_expands expands settled (Nat.le_trans enough higher)⟩
  rests := by
    intro last settled limit
    exact Scope.standsFor_of_expands (.refl last) settled (Nat.zero_le limit)
  values := by
    intro times limit type last expands settled enough
    have first := Scope.standsFor_of_expands expands settled enough
    exact first.isValueLike (Scope.standsFor_of_expands (.refl last) settled (Nat.zero_le limit))
  properties := by
    intro times limit type last expands settled enough
    have first := Scope.standsFor_of_expands expands settled enough
    exact first.propertyWithin (Scope.standsFor_of_expands (.refl last) settled (Nat.zero_le limit))
  cut := by
    intro limit type names
    obtain ⟨last, expands⟩ := exists_expands names
    refine ⟨last, expands, Scope.standsFor_of_settle fun access => ?_⟩
    exact Scope.settle_of_expands expands 0

/-- The alias `type Grow<T> = Grow<T[]>` never settles: two hops from `Grow<string>` lead to
`Grow<string[][]>`. -/
example :
    let grown : TypeExpr := .reference "Grow" [.unwritten (.array (.reference "T" []))]
    let grow : AliasDecl := ⟨"Grow", default, [⟨"T", none, none⟩], grown, grown⟩
    (Scope.mk (.ofList [.typeAlias grow]) 2).apparentWithin 1 (.reference "Grow" [.keyword "string"]) =
      .ok (.reference "Grow" [.unwritten (.array (.unwritten (.array (.keyword "string"))))]) :=
  rfl

end Declarations

end TypeAtlas
