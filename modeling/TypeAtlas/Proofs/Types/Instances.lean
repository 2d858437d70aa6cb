import TypeAtlas.Proofs.Types.Arguments
import TypeAtlas.Proofs.Types.Composition

/-!
# Type parameters that are left in a type

With arguments in place of type parameters no name of one is left in a type, but in the arguments
themselves: they are what was written elsewhere, where the name may mean something else. A signature
keeps the names that it declares itself.

Main statement: `TypeExpr.instantiated_substitute`. What stands for a type parameter without an
argument is its default as it was written, so the names that the default mentions are left
(`TypeParameter.fallbacksBeyond`).
-/

set_option autoImplicit false

namespace TypeAtlas

/-! ### Names beside other types -/

/-- A type mentions a name beside some other types if it does so in a place that is in none of
them. -/
inductive TypeExpr.MentionsBeside (others : List TypeExpr) (name : String) : TypeExpr → Prop
  | here {type : TypeExpr} (beside : type ∉ others) (shape : type.shape = .reference name []) :
      MentionsBeside others name type
  | part {type : TypeExpr} {part : TypePart} (beside : type ∉ others)
      (mem : part ∈ type.shape.parts) (free : ∀ parameter ∈ part.parameters, parameter.name ≠ name)
      (mentions : MentionsBeside others name part.type) : MentionsBeside others name type

/-- A member mentions a name beside some types if a type in it does so. -/
def Member.MentionsBeside (others : List TypeExpr) (name : String) (member : Member) : Prop :=
  ∃ part ∈ member.parts, (∀ parameter ∈ part.parameters, parameter.name ≠ name) ∧
    part.type.MentionsBeside others name

variable {others : List TypeExpr} {name : String} {bindings : Bindings}

namespace TypeExpr

variable {type : TypeExpr}

/-- A type that mentions a name beside others is none of these. -/
theorem MentionsBeside.not_mem (h : type.MentionsBeside others name) : type ∉ others := by
  cases h with
  | here beside | part beside => exact beside

/-- What is mentioned beside some types is mentioned. -/
theorem MentionsBeside.mentions (h : type.MentionsBeside others name) : type.Mentions name := by
  induction h with
  | here _ shape => exact .here shape
  | part _ mem free _ ih => exact .part mem free ih

/-- A type that is a name mentions no other one. -/
theorem Mentions.eq_of_reference {other : String} (h : type.Mentions name)
    (shape : type.shape = .reference other []) : other = name := by
  cases h with
  | here same => simpa [shape] using same
  | part mem =>
    rw [shape] at mem
    cases mem

/-- A keyword mentions no name. -/
theorem not_mentions_of_keyword {word : String} (shape : type.shape = .keyword word)
    (name : String) : ¬ type.Mentions name := by
  intro mentions
  cases mentions with
  | here same => simp [shape] at same
  | part mem =>
    rw [shape] at mem
    cases mem

end TypeExpr

/-! ### What stands for a name -/

/-- There is something for the name, and nothing that stands for a name mentions it, but for the
other types. -/
structure Bindings.Clear (others : List TypeExpr) (name : String) (bindings : Bindings) : Prop where
  bound : (bindings.find? name).isSome
  stands : ∀ other new, bindings.find? other = some new → new ∈ others ∨ ¬ new.Mentions name

/-- A signature that does not declare the name leaves it bound. -/
theorem Bindings.Clear.without (h : bindings.Clear others name) {parameters : List TypeParameter}
    (free : ∀ parameter ∈ parameters, parameter.name ≠ name) :
    (bindings.without parameters).Clear others name where
  bound := by
    rw [find?_without_of_free free]
    exact h.bound
  stands := by
    intro other new found
    rw [find?_without] at found
    split_ifs at found
    exact h.stands other new found

/-- Where types stand for names, a name that is cleared is left beside the other types nowhere. -/
theorem TypeExpr.not_mentionsBeside_substitute (type : TypeExpr) (h : bindings.Clear others name) :
    ¬ (type.substitute bindings).MentionsBeside others name := by
  -- the induction is over all bindings, since a signature takes those of its own names away
  induction type using induction_on_parts generalizing bindings with
  | step type ih =>
    intro left
    by_cases parameter : ∃ other, type.shape = .reference other []
    · obtain ⟨other, shape⟩ := parameter
      have new : type.substitute bindings = (bindings.find? other).getD type := by
        obtain ⟨_, text⟩ := type
        subst shape
        exact substitute_parameter bindings other text
      rw [new] at left
      cases found : bindings.find? other with
      | some new =>
        rw [found] at left
        exact (h.stands other new found).elim left.not_mem fun clear => clear left.mentions
      | none =>
        rw [found] at left
        have same : other = name := left.mentions.eq_of_reference shape
        have bound := h.bound
        rw [← same, found] at bound
        cases bound
    · have other : ∀ other, type.shape ≠ .reference other [] := fun other shape =>
        parameter ⟨other, shape⟩
      have changed := shape_substitute bindings other
      cases left with
      | here _ same => exact TypeShape.mapTypes_ne_reference other _ name (changed ▸ same)
      | part _ mem free left =>
        rw [changed, TypeShape.parts_mapTypes] at mem
        obtain ⟨old, listed, rfl⟩ := List.mem_map.mp mem
        exact ih old listed (h.without free) left

/-- If nothing that is put in mentions a name but for some types, then the member mentions it only
in these afterwards. -/
theorem Member.not_mentionsBeside_substitute (member : Member) (h : bindings.Clear others name) :
    ¬ (member.substitute bindings).MentionsBeside others name := by
  rintro ⟨part, listed, free, left⟩
  rw [substitute_eq, parts_mapTypes] at listed
  obtain ⟨old, -, rfl⟩ := List.mem_map.mp listed
  exact old.type.not_mentionsBeside_substitute (h.without free) left

/-! ### Arguments and defaults -/

/-- The defaults of the type parameters that there is no argument for. -/
def TypeParameter.fallbacksBeyond (parameters : List TypeParameter) (arguments : List TypeExpr) :
    List TypeExpr :=
  (parameters.drop arguments.length).filterMap (·.fallback)

section Instantiated

variable (parameters : List TypeParameter) (arguments : List TypeExpr)

/-- No type parameter is left in the type but in arguments, unless a default mentions it that stands
in for an argument. -/
def TypeExpr.Instantiated (type : TypeExpr) : Prop :=
  ∀ parameter ∈ parameters,
    (∀ fallback ∈ TypeParameter.fallbacksBeyond parameters arguments,
      ¬ fallback.Mentions parameter.name) →
    ¬ type.MentionsBeside arguments parameter.name

/-- No type parameter is left in the member but in arguments, unless a default mentions it that
stands in for an argument. -/
def Member.Instantiated (member : Member) : Prop :=
  ∀ parameter ∈ parameters,
    (∀ fallback ∈ TypeParameter.fallbacksBeyond parameters arguments,
      ¬ fallback.Mentions parameter.name) →
    ¬ member.MentionsBeside arguments parameter.name

variable {parameters arguments}

/-- What stands for a type parameter is an argument, or a default in want of one, or `unknown`. -/
theorem Bindings.find?_ofArguments_cases {new : TypeExpr}
    (found : (ofArguments parameters arguments).find? name = some new) :
    new ∈ arguments ∨ new ∈ TypeParameter.fallbacksBeyond parameters arguments ∨
      new = .keyword "unknown" := by
  obtain ⟨place, parameter, listed, -, rfl⟩ := exists_of_find?_ofArguments found
  cases written : arguments[place]? with
  | some argument => exact .inl (List.mem_of_getElem? written)
  | none =>
    have beyond : parameter ∈ parameters.drop arguments.length := by
      refine List.mem_of_getElem? (i := place - arguments.length) ?_
      rw [List.getElem?_drop, Nat.add_sub_cancel' (List.getElem?_eq_none_iff.mp written), listed]
    cases fallback : parameter.fallback with
    | some _ => exact .inr (.inl (List.mem_filterMap.mpr ⟨parameter, beyond, fallback⟩))
    | none => exact .inr (.inr rfl)

/-- Arguments leave nothing of a type parameter but in themselves, if no default beyond them
mentions it. -/
theorem Bindings.clear_ofArguments {parameter : TypeParameter} (mem : parameter ∈ parameters)
    (clear : ∀ fallback ∈ TypeParameter.fallbacksBeyond parameters arguments,
      ¬ fallback.Mentions parameter.name) :
    (ofArguments parameters arguments).Clear arguments parameter.name where
  bound := isSome_find?_ofArguments mem arguments
  stands := by
    intro other new found
    rcases find?_ofArguments_cases found with given | fallback | rfl
    · exact .inl given
    · exact .inr (clear new fallback)
    · exact .inr (TypeExpr.not_mentions_of_keyword rfl parameter.name)

variable (parameters arguments)

/-- With arguments in their place, no type parameters are left in a type. -/
theorem TypeExpr.instantiated_substitute (type : TypeExpr) :
    (type.substitute (.ofArguments parameters arguments)).Instantiated parameters arguments :=
  fun _ mem clear => type.not_mentionsBeside_substitute (Bindings.clear_ofArguments mem clear)

/-- With arguments in their place, no type parameters are left in a member. -/
theorem Member.instantiated_substitute (member : Member) :
    (member.substitute (.ofArguments parameters arguments)).Instantiated parameters arguments :=
  fun _ mem clear => member.not_mentionsBeside_substitute (Bindings.clear_ofArguments mem clear)

end Instantiated

end TypeAtlas
