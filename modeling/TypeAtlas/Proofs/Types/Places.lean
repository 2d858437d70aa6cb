import TypeAtlas.Proofs.Types.Composition

/-!
# What a replacement leaves as it is

A place in a type is told by the number of a part on each level (`TypeExpr.at?`). What a replacement
makes of a type has at each place what the replacement makes of the type there, where it has nothing
for the names that the signatures around the place declare (`TypeExpr.at?_substitute`).

A type that mentions no name which the replacement has a type for stays as it is, with the text that
it was written as and with those of all types in it (`TypeExpr.substitute_eq_self`). A name that the
replacement has a type for becomes this type. And every other type changes in the types that it is
made of, but not in its outline: its names and marks, its stretches and origins stay.

Main statement: `TypeExpr.changesOnlyNames_substitute`, which says this of all places in a type.
-/

set_option autoImplicit false

namespace TypeAtlas

/-! ### Places and outlines -/

/-- What remains of a shape if all types in it are left blank: the names, marks, stretches and
origins of members, the names and marks of parameters, what signatures declare, and where there are
types. -/
def TypeShape.outline (shape : TypeShape) : TypeShape := shape.mapTypes fun _ _ => .unwritten .this

/-- Changing the types in a shape leaves its outline. -/
theorem TypeShape.outline_mapTypes (shape : TypeShape)
    (change : List TypeParameter → TypeExpr → TypeExpr) :
    (shape.mapTypes change).outline = shape.outline :=
  shape.mapTypes_mapTypes change _

/-- The type at a place in a type, with all type parameters that the signatures around it declare. A
place is told by the number of the part on each level. -/
def TypeExpr.at? : TypeExpr → List Nat → Option TypePart
  | type, [] => some ⟨[], type⟩
  | type, number :: rest =>
    match type.shape.parts[number]? with
    | none => none
    | some part =>
      (part.type.at? rest).map fun inner => ⟨part.parameters ++ inner.parameters, inner.type⟩

/-- The type mentions a name that there is a type for. -/
def Bindings.Reach (bindings : Bindings) (type : TypeExpr) : Prop :=
  ∃ name, (bindings.find? name).isSome ∧ type.Mentions name

namespace Bindings

variable {bindings : Bindings}

/-- Signatures in one another take the names of both away. -/
theorem without_append (bindings : Bindings) (outer inner : List TypeParameter) :
    bindings.without (outer ++ inner) = (bindings.without outer).without inner := by
  unfold without
  rw [List.filter_filter]
  refine List.filter_congr fun binding _ => ?_
  rw [List.any_append, Bool.not_or, Bool.and_comm]

/-- What reaches a part of a type reaches the type. -/
theorem Reach.of_part {type : TypeExpr} {part : TypePart} (mem : part ∈ type.shape.parts)
    (h : (bindings.without part.parameters).Reach part.type) : bindings.Reach type := by
  obtain ⟨name, bound, mentions⟩ := h
  rw [find?_without] at bound
  split_ifs at bound with own
  · cases bound
  · have free : ∀ parameter ∈ part.parameters, parameter.name ≠ name := by simpa using own
    exact ⟨name, bound, .part mem free mentions⟩

/-- Nothing is replaced in a part of something. -/
def Leaves (bindings : Bindings) (part : TypePart) : Prop :=
  part.type.replaced? (bindings.without part.parameters) = none

end Bindings

/-! ### Types without names that are replaced -/

section replaced

variable {bindings : Bindings}

/-- Nothing is replaced in types if nothing is in each. -/
theorem replacedTypes?_eq_none {types : List TypeExpr}
    (h : ∀ type ∈ types, type.replaced? bindings = none) :
    replacedTypes? bindings types = none := by
  induction types with
  | nil => rfl
  | cons type rest ih =>
    obtain ⟨first, others⟩ := List.forall_mem_cons.mp h
    rw [replacedTypes?, first, ih others]

/-- Nothing is replaced in a type that is there or not if nothing is where it is there. -/
theorem replacedType?_eq_none {type : Option TypeExpr}
    (h : ∀ inner ∈ type, inner.replaced? bindings = none) : replacedType? bindings type = none := by
  cases type with
  | none => rfl
  | some inner => exact h inner rfl

/-- Nothing is replaced in parameters if nothing is in their types. -/
theorem replacedParameters?_eq_none {parameters : List Parameter}
    (h : ∀ parameter ∈ parameters, ∀ type ∈ parameter.type, type.replaced? bindings = none) :
    replacedParameters? bindings parameters = none := by
  induction parameters with
  | nil => rfl
  | cons parameter rest ih =>
    obtain ⟨name, optional, isRest, type⟩ := parameter
    obtain ⟨first, others⟩ := List.forall_mem_cons.mp h
    rw [replacedParameters?, replacedType?_eq_none first, ih others]

/-- Nothing is replaced in a signature if nothing is in its parts. -/
theorem Signature.replaced?_eq_none {signature : Signature}
    (h : ∀ part ∈ signature.parts, bindings.Leaves part) : signature.replaced? bindings = none := by
  obtain ⟨typeParameters, parameters, returnType, hasBody, ofMember⟩ := signature
  have passed : ∀ parameter ∈ parameters, ∀ type ∈ parameter.type,
      type.replaced? (bindings.without typeParameters) = none := by
    intro parameter mem type typed
    refine h ⟨typeParameters, type⟩ (List.mem_map.mpr ⟨type, List.mem_append_left _ ?_, rfl⟩)
    exact List.mem_flatMap.mpr ⟨parameter, mem, Option.mem_toList.mpr typed⟩
  have returned : ∀ type ∈ returnType, type.replaced? (bindings.without typeParameters) = none := by
    intro type typed
    refine h ⟨typeParameters, type⟩ (List.mem_map.mpr ⟨type, List.mem_append_right _ ?_, rfl⟩)
    exact Option.mem_toList.mpr typed
  rw [replaced?]
  simp only [replacedParameters?_eq_none passed, replacedType?_eq_none returned]

/-- Nothing is replaced in signatures if nothing is in their parts. -/
theorem replacedSignatures?_eq_none {signatures : List Signature}
    (h : ∀ part ∈ signatures.flatMap (·.parts), bindings.Leaves part) :
    replacedSignatures? bindings signatures = none := by
  induction signatures with
  | nil => rfl
  | cons signature rest ih =>
    rw [List.flatMap_cons, List.forall_mem_append] at h
    rw [replacedSignatures?, Signature.replaced?_eq_none h.1, ih h.2]

/-- Nothing is replaced in a member if nothing is in its parts. -/
theorem Member.replaced?_eq_none {member : Member}
    (h : ∀ part ∈ member.parts, bindings.Leaves part) : member.replaced? bindings = none := by
  obtain ⟨name, optional, readonly, form, span, origin⟩ := member
  have single (type : TypeExpr) (mem : ⟨[], type⟩ ∈ form.parts) :
      type.unlessSame (type.replaced? bindings) = none := by
    have none : type.replaced? (bindings.without []) = none := h ⟨[], type⟩ mem
    rw [Bindings.without_nil] at none
    rw [none]
    rfl
  cases form with
  | property type | getter type =>
    cases type with
    | none => rfl
    | some type =>
      have stays := single type (by simp [MemberForm.parts])
      simp [replaced?, stays]
  | setter parameter =>
    rcases parameter with _ | ⟨left, isOptional, rest, _ | type⟩
    · rfl
    · rfl
    · have stays := single type (by simp [MemberForm.parts])
      simp [replaced?, stays]
  | method signatures =>
    have all : ∀ part ∈ signatures.flatMap (·.parts), bindings.Leaves part := h
    simp [replaced?, replacedSignatures?_eq_none all]

/-- Nothing is replaced in members if nothing is in their parts. -/
theorem replacedMembers?_eq_none {members : List Member}
    (h : ∀ part ∈ members.flatMap (·.parts), bindings.Leaves part) :
    replacedMembers? bindings members = none := by
  induction members with
  | nil => rfl
  | cons member rest ih =>
    rw [List.flatMap_cons, List.forall_mem_append] at h
    rw [replacedMembers?, Member.replaced?_eq_none h.1, ih h.2]

/-- In a type that is no name itself, nothing is replaced if nothing is in its parts. -/
theorem TypeExpr.replaced?_eq_none_of_parts {type : TypeExpr}
    (other : ∀ name, type.shape ≠ .reference name [])
    (h : ∀ part ∈ type.shape.parts, bindings.Leaves part) : type.replaced? bindings = none := by
  obtain ⟨shape, text⟩ := type
  have one {inner : TypeExpr} (mem : ⟨[], inner⟩ ∈ shape.parts) :
      inner.replaced? bindings = none := by
    have none : inner.replaced? (bindings.without []) = none := h ⟨[], inner⟩ mem
    rwa [Bindings.without_nil] at none
  cases shape with
  | reference name arguments =>
    rcases arguments with _ | ⟨first, rest⟩
    · exact absurd rfl (other name)
    · have all : replacedTypes? bindings (first :: rest) = none :=
        replacedTypes?_eq_none fun type mem => one (List.mem_map_of_mem mem)
      rw [replaced?, all]
      rfl
  | tuple items | union items | intersection items =>
    have all : replacedTypes? bindings items = none :=
      replacedTypes?_eq_none fun type mem => one (List.mem_map_of_mem mem)
    rw [replaced?, all]
    rfl
  | array element =>
    rw [replaced?, one List.mem_cons_self]
    rfl
  | function signature =>
    rw [replaced?, Signature.replaced?_eq_none h]
    rfl
  | object members signatures =>
    have inside : (∀ part ∈ members.flatMap (·.parts), bindings.Leaves part) ∧
        ∀ part ∈ signatures.flatMap (·.parts), bindings.Leaves part := List.forall_mem_append.mp h
    rw [replaced?, replacedMembers?_eq_none inside.1, replacedSignatures?_eq_none inside.2]
  | indexedAccess object index =>
    rw [replaced?, one List.mem_cons_self, one (List.mem_cons_of_mem _ List.mem_cons_self)]
  | _ => rfl

namespace TypeExpr

/-- Nothing is replaced in a type that mentions no name there is a type for. -/
theorem replaced?_eq_none {type : TypeExpr} (h : ¬ bindings.Reach type) :
    type.replaced? bindings = none := by
  induction type using induction_on_parts generalizing bindings with
  | step type ih =>
    by_cases whole : ∃ name, type.shape = .reference name []
    · obtain ⟨name, shape⟩ := whole
      have unbound : bindings.find? name = none := by
        by_contra bound
        exact h ⟨name, Option.isSome_iff_ne_none.mpr bound, .here shape⟩
      obtain ⟨_, text⟩ := type
      obtain rfl := shape
      rw [replaced?, unbound]
    · rw [not_exists] at whole
      apply replaced?_eq_none_of_parts whole
      intro part mem
      apply ih part mem
      intro reach
      exact h (reach.of_part mem)

/-- Such a type stays as it is. -/
theorem substitute_eq_self {type : TypeExpr} (h : ¬ bindings.Reach type) :
    type.substitute bindings = type := by
  rw [substitute, replaced?_eq_none h]
  rfl

end TypeExpr

end replaced

/-! ### Replacing at places -/

namespace TypeExpr

/-- At each place is what the replacement makes of the type there. Signatures around the place take
away what the replacement has for the names that they declare. -/
theorem at?_substitute {place : List Nat} {type : TypeExpr} {part : TypePart} {bindings : Bindings}
    (h : type.at? place = some part) :
    (type.substitute bindings).at? place =
      some ⟨part.parameters, part.type.substitute (bindings.without part.parameters)⟩ := by
  induction place generalizing type part bindings with
  | nil =>
    cases h
    rw [Bindings.without_nil, at?]
  | cons number rest ih =>
    rw [at?] at h ⊢
    cases outer : type.shape.parts[number]? with
    | none =>
      rw [outer] at h
      cases h
    | some first =>
      rw [outer] at h
      obtain ⟨inner, there, rfl⟩ := Option.map_eq_some_iff.mp h
      -- a name has no parts, so the type is none
      have other : ∀ name, type.shape ≠ .reference name [] := by
        intro name shape
        rw [shape] at outer
        cases outer
      have changed : (type.substitute bindings).shape.parts[number]? =
          some ⟨first.parameters, first.type.substitute (bindings.without first.parameters)⟩ := by
        rw [shape_substitute bindings other, TypeShape.parts_mapTypes, List.getElem?_map, outer]
        rfl
      rw [changed]
      simp only
      rw [ih there, Option.map_some, Bindings.without_append]

/-- With `string` for `T`, the type `[T[], <T>(from: T[]) => T]` keeps the second `T[]` and its
text: it is a part of a signature that declares `T` itself. -/
example :
    let list : TypeExpr := ⟨.array ⟨.reference "T" [], "T"⟩, "T[]"⟩
    let own : TypeParameter := ⟨"T", none, none⟩
    let signature : Signature := ⟨[own], [⟨"from", false, false, some list⟩],
      some ⟨.reference "T" [], "T"⟩, false, false⟩
    let type : TypeExpr := .unwritten (.tuple [list, .unwritten (.function signature)])
    let new := type.substitute [("T", .keyword "string")]
    new.at? [1, 0] = some ⟨[own], list⟩ ∧
      new.at? [0] = some ⟨[], .unwritten (.array (.keyword "string"))⟩ :=
  ⟨rfl, rfl⟩

/-- A replacement changes a type where it mentions names that there are types for, and nowhere else:
what mentions none stays, these names become the types that there are for them, and of everything
else the outline stays. -/
structure ChangesOnlyNames (bindings : Bindings) (type new : TypeExpr) : Prop where
  whole : ¬ bindings.Reach type → new = type
  kept : ∀ place part, type.at? place = some part →
    ¬ (bindings.without part.parameters).Reach part.type → new.at? place = some part
  named : ∀ place part name stands, type.at? place = some part →
    part.type.shape = .reference name [] →
      (bindings.without part.parameters).find? name = some stands →
        new.at? place = some ⟨part.parameters, stands⟩
  around : ∀ place part, type.at? place = some part →
    (∀ name, part.type.shape ≠ .reference name []) →
      ∃ changed, new.at? place = some ⟨part.parameters, changed⟩ ∧
        changed.shape.outline = part.type.shape.outline

/-- Nothing but names is changed where type parameters are replaced. -/
theorem changesOnlyNames_substitute (bindings : Bindings) (type : TypeExpr) :
    type.ChangesOnlyNames bindings (type.substitute bindings) where
  whole := substitute_eq_self
  kept := by
    intro place part there untouched
    rw [at?_substitute there, substitute_eq_self untouched]
  named := by
    intro place part name stands there shape found
    rw [at?_substitute there]
    obtain ⟨parameters, ⟨_, text⟩⟩ := part
    obtain rfl := shape
    rw [substitute_parameter, found]
    rfl
  around := by
    intro place part there other
    refine ⟨_, at?_substitute there, ?_⟩
    rw [shape_substitute _ other, TypeShape.outline_mapTypes]

end TypeExpr

end TypeAtlas
