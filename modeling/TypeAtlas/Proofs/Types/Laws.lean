import TypeAtlas.Proofs.Types.Arguments
import TypeAtlas.Proofs.Types.Parts

/-!
# Laws for all types in a type

A law demands something of the shape of a type and of the form of a member, whatever the types in
them are (`TypeLaw`). A type obeys it if its shape and its members do and so do all types in it,
however deep they are (`TypeExpr.Obeys`). What is in a type are its parts, and the bounds and
defaults of the type parameters that signatures in it declare (`TypeShape.inner`).

That a law is obeyed after something has been done to types is proved here and in the modules that
follow for all laws at once. What is left to prove of a single law is what is done to one shape or
one form. Putting lawful types in place of type parameters is such a step
(`TypeExpr.Obeys.substitute`).
-/

set_option autoImplicit false

namespace TypeAtlas

/-! ### What is in a type -/

/-- The bound and the default of a type parameter. -/
def TypeParameter.types (parameter : TypeParameter) : List TypeExpr :=
  parameter.constraint.toList ++ parameter.fallback.toList

namespace Signature

/-- The bounds and defaults of the type parameters of a signature. -/
def parameterTypes (signature : Signature) : List TypeExpr :=
  signature.typeParameters.flatMap (·.types)

/-- The types in a signature. -/
def inner (signature : Signature) : List TypeExpr :=
  signature.parameterTypes ++ signature.parts.map (·.type)

end Signature

namespace MemberForm

/-- The signatures of a method. -/
def signatures : MemberForm → List Signature
  | .method signatures => signatures
  | .property _ | .getter _ | .setter _ => []

/-- The types in the form of a member. -/
def inner (form : MemberForm) : List TypeExpr :=
  form.signatures.flatMap (·.parameterTypes) ++ form.parts.map (·.type)

end MemberForm

namespace TypeShape

/-- The signatures that are in a shape, but not in a type in it. -/
def signatures : TypeShape → List Signature
  | .function signature => [signature]
  | .object members signatures => members.flatMap (·.form.signatures) ++ signatures
  | _ => []

/-- The types that are in a shape, but not in another one of them. -/
def inner (shape : TypeShape) : List TypeExpr :=
  shape.signatures.flatMap (·.parameterTypes) ++ shape.parts.map (·.type)

/-- The forms of the members of an object type. -/
def forms : TypeShape → List MemberForm
  | .object members _ => members.map (·.form)
  | _ => []

end TypeShape

/-! ### Laws -/

/-- What is demanded of a type and of a member, whatever the types in them are. -/
structure TypeLaw where
  /-- What is demanded of the shape of a type. -/
  shape : TypeShape → Prop
  /-- What is demanded of the form of a member. -/
  form : MemberForm → Prop

section Obeys

variable (law : TypeLaw)

/-- The law holds of the type, of its members and of all types in it. -/
inductive TypeExpr.Obeys : TypeExpr → Prop
  | intro {type : TypeExpr} (shape : law.shape type.shape)
      (forms : ∀ form ∈ type.shape.forms, law.form form)
      (inner : ∀ other ∈ type.shape.inner, Obeys other) : Obeys type

/-- The law is obeyed by all that is in a shape. -/
structure TypeShape.InnerObeys (shape : TypeShape) : Prop where
  forms : ∀ form ∈ shape.forms, law.form form
  inner : ∀ type ∈ shape.inner, type.Obeys law

/-- The law is obeyed by all types in a signature. -/
def Signature.Obeys (signature : Signature) : Prop := ∀ type ∈ signature.inner, type.Obeys law

/-- The law holds of the form of a member and is obeyed by all types in it. -/
structure MemberForm.Obeys (form : MemberForm) : Prop where
  lawful : law.form form
  inner : ∀ type ∈ form.inner, type.Obeys law

/-- The law is obeyed by a member, whatever its name is. -/
def Member.Obeys (member : Member) : Prop := member.form.Obeys law

/-- The law is obeyed by the bounds and defaults of type parameters. -/
def TypeParameter.Obey (parameters : List TypeParameter) : Prop :=
  ∀ parameter ∈ parameters, ∀ type ∈ parameter.types, type.Obeys law

/-- The law is obeyed by whatever stands for a name. -/
def Bindings.Obey (bindings : Bindings) : Prop :=
  ∀ name type, bindings.find? name = some type → type.Obeys law

end Obeys

variable {law : TypeLaw}

/-! ### Forms of members -/

/-- A signature obeys a law if its bounds and defaults, the types of its parameters and its returned
type do. -/
theorem Signature.obeys_iff {signature : Signature} :
    signature.Obeys law ↔
      TypeParameter.Obey law signature.typeParameters ∧
        (∀ parameter ∈ signature.parameters, ∀ type ∈ parameter.type, type.Obeys law) ∧
          ∀ type ∈ signature.returnType, type.Obeys law := by
  simp only [Obeys, TypeParameter.Obey, inner, parameterTypes, parts, List.map_map,
    List.forall_mem_append, List.forall_mem_flatMap, List.forall_mem_map, Option.mem_toList,
    Function.comp_apply, Option.mem_def]

namespace MemberForm

/-- A property obeys a law if its form and its type do. -/
theorem obeys_property {type : Option TypeExpr} :
    (property type).Obeys law ↔
      law.form (property type) ∧ ∀ inner ∈ type, inner.Obeys law :=
  ⟨fun h => ⟨h.lawful, by simpa [inner, signatures, parts] using h.inner⟩,
    fun h => ⟨h.1, by simpa [inner, signatures, parts] using h.2⟩⟩

/-- A getter obeys a law if its form and its type do. -/
theorem obeys_getter {type : Option TypeExpr} :
    (getter type).Obeys law ↔ law.form (getter type) ∧ ∀ inner ∈ type, inner.Obeys law :=
  ⟨fun h => ⟨h.lawful, by simpa [inner, signatures, parts] using h.inner⟩,
    fun h => ⟨h.1, by simpa [inner, signatures, parts] using h.2⟩⟩

/-- A setter obeys a law if its form and the type of what is passed to it do. -/
theorem obeys_setter {parameter : Option Parameter} :
    (setter parameter).Obeys law ↔ law.form (setter parameter) ∧
      ∀ passed ∈ parameter, ∀ inner ∈ passed.type, inner.Obeys law := by
  have types : (∀ type ∈ (setter parameter).inner, type.Obeys law) ↔
      ∀ passed ∈ parameter, ∀ inner ∈ passed.type, inner.Obeys law := by
    cases parameter <;> simp [inner, signatures, parts]
  exact ⟨fun h => ⟨h.lawful, types.mp h.inner⟩, fun h => ⟨h.1, types.mpr h.2⟩⟩

/-- The types in a method are those in its signatures. -/
theorem mem_inner_method {all : List Signature} {type : TypeExpr} :
    type ∈ (method all).inner ↔ ∃ signature ∈ all, type ∈ signature.inner := by
  simp only [inner, signatures, parts, Signature.inner, List.mem_append, List.mem_flatMap,
    List.map_flatMap]
  constructor
  · rintro (⟨signature, mem, bound⟩ | ⟨signature, mem, part⟩)
    · exact ⟨signature, mem, .inl bound⟩
    · exact ⟨signature, mem, .inr part⟩
  · rintro ⟨signature, mem, bound | part⟩
    · exact .inl ⟨signature, mem, bound⟩
    · exact .inr ⟨signature, mem, part⟩

/-- A method obeys a law if its form and all its signatures do. -/
theorem obeys_method {all : List Signature} :
    (method all).Obeys law ↔ law.form (method all) ∧ ∀ signature ∈ all, signature.Obeys law := by
  constructor
  · exact fun h => ⟨h.lawful, fun signature mem type inside =>
      h.inner type (mem_inner_method.mpr ⟨signature, mem, inside⟩)⟩
  · rintro ⟨form, each⟩
    refine ⟨form, fun type mem => ?_⟩
    obtain ⟨signature, listed, inside⟩ := mem_inner_method.mp mem
    exact each signature listed type inside

end MemberForm

/-! ### Forms of types -/

namespace TypeShape

/-- Where there are no members and no signatures, the parts count. -/
theorem innerObeys_iff_parts {shape : TypeShape} (noMembers : shape.forms = [])
    (noSignatures : shape.signatures = []) :
    shape.InnerObeys law ↔ ∀ part ∈ shape.parts, part.type.Obeys law := by
  have inner : shape.inner = shape.parts.map (·.type) := by
    rw [inner, noSignatures]
    rfl
  constructor
  · rintro ⟨_, each⟩ part mem
    exact each _ (inner ▸ List.mem_map_of_mem mem)
  · intro each
    refine ⟨by simp [noMembers], ?_⟩
    rw [inner, List.forall_mem_map]
    exact each

/-- There is no type in a keyword to break a law. -/
@[simp]
theorem innerObeys_keyword {word : String} : (keyword word).InnerObeys law :=
  (innerObeys_iff_parts rfl rfl).mpr (by simp [parts])

/-- There is no type in a literal to break a law. -/
@[simp]
theorem innerObeys_literal {spelling : String} : (literal spelling).InnerObeys law :=
  (innerObeys_iff_parts rfl rfl).mpr (by simp [parts])

/-- There is no type in `this` to break a law. -/
@[simp]
theorem innerObeys_this : this.InnerObeys law :=
  (innerObeys_iff_parts rfl rfl).mpr (by simp [parts])

/-- There is no type in an unsupported one to break a law. -/
@[simp]
theorem innerObeys_unsupported : unsupported.InnerObeys law :=
  (innerObeys_iff_parts rfl rfl).mpr (by simp [parts])

/-- In a named type a law is obeyed if its arguments obey it. -/
@[simp]
theorem innerObeys_reference {name : String} {arguments : List TypeExpr} :
    (reference name arguments).InnerObeys law ↔ ∀ type ∈ arguments, type.Obeys law := by
  rw [innerObeys_iff_parts rfl rfl]
  simp [parts]

/-- In an array type a law is obeyed if its element obeys it. -/
@[simp]
theorem innerObeys_array {element : TypeExpr} :
    (array element).InnerObeys law ↔ element.Obeys law := by
  rw [innerObeys_iff_parts rfl rfl]
  simp [parts]

/-- In a tuple a law is obeyed if its items obey it. -/
@[simp]
theorem innerObeys_tuple {items : List TypeExpr} :
    (tuple items).InnerObeys law ↔ ∀ type ∈ items, type.Obeys law := by
  rw [innerObeys_iff_parts rfl rfl]
  simp [parts]

/-- In a union a law is obeyed if its operands obey it. -/
@[simp]
theorem innerObeys_union {items : List TypeExpr} :
    (union items).InnerObeys law ↔ ∀ type ∈ items, type.Obeys law := by
  rw [innerObeys_iff_parts rfl rfl]
  simp [parts]

/-- In an intersection a law is obeyed if its operands obey it. -/
@[simp]
theorem innerObeys_intersection {items : List TypeExpr} :
    (intersection items).InnerObeys law ↔ ∀ type ∈ items, type.Obeys law := by
  rw [innerObeys_iff_parts rfl rfl]
  simp [parts]

/-- In an indexed access a law is obeyed if its object and its index obey it. -/
@[simp]
theorem innerObeys_indexedAccess {owner index : TypeExpr} :
    (indexedAccess owner index).InnerObeys law ↔ owner.Obeys law ∧ index.Obeys law := by
  rw [innerObeys_iff_parts rfl rfl]
  simp [parts]

/-- In a function type a law is obeyed if its signature obeys it. -/
@[simp]
theorem innerObeys_function {signature : Signature} :
    (function signature).InnerObeys law ↔ signature.Obeys law := by
  have inner : (function signature).inner = signature.inner := by
    simp [TypeShape.inner, signatures, parts, Signature.inner]
  constructor
  · rintro ⟨_, each⟩
    rwa [inner] at each
  · exact fun each => ⟨by simp [forms], by rwa [inner]⟩

/-- The types in an object type are those in its members and in its call signatures. -/
theorem mem_inner_object {members : List Member} {callable : List Signature} {type : TypeExpr} :
    type ∈ (object members callable).inner ↔
      (∃ member ∈ members, type ∈ member.form.inner) ∨
        ∃ signature ∈ callable, type ∈ signature.inner := by
  simp only [TypeShape.inner, signatures, parts, MemberForm.inner, Signature.inner, Member.parts,
    List.mem_append, List.mem_map, List.mem_flatMap, List.flatMap_append]
  grind

/-- In an object type a law is obeyed if its members and its call signatures obey it. -/
@[simp]
theorem innerObeys_object {members : List Member} {callable : List Signature} :
    (object members callable).InnerObeys law ↔
      (∀ member ∈ members, member.Obeys law) ∧ ∀ signature ∈ callable, signature.Obeys law := by
  constructor
  · rintro ⟨forms, inner⟩
    exact ⟨fun member mem => ⟨forms _ (List.mem_map_of_mem mem), fun type inside =>
        inner type (mem_inner_object.mpr (.inl ⟨member, mem, inside⟩))⟩,
      fun signature mem type inside =>
        inner type (mem_inner_object.mpr (.inr ⟨signature, mem, inside⟩))⟩
  · rintro ⟨each, calls⟩
    refine ⟨List.forall_mem_map.mpr fun member mem => (each member mem).lawful, fun type mem => ?_⟩
    rcases mem_inner_object.mp mem with ⟨member, listed, inside⟩ | ⟨signature, listed, inside⟩
    · exact (each member listed).inner type inside
    · exact calls signature listed type inside

end TypeShape

namespace TypeExpr

/-- A type obeys a law exactly if the law holds of its shape and all that is in the shape obeys
it. -/
theorem obeys_iff {type : TypeExpr} :
    type.Obeys law ↔ law.shape type.shape ∧ type.shape.InnerObeys law :=
  ⟨fun ⟨shape, forms, inner⟩ => ⟨shape, forms, inner⟩,
    fun ⟨shape, forms, inner⟩ => ⟨shape, forms, inner⟩⟩

/-- All that is in a lawful type is lawful. -/
theorem Obeys.innerObeys {type : TypeExpr} (h : type.Obeys law) : type.shape.InnerObeys law :=
  (obeys_iff.mp h).2

end TypeExpr

/-- What holds of either of two things holds of the one that is there. -/
theorem forall_mem_orElse {α : Type} {holds : α → Prop} {first second : Option α}
    (h : ∀ a ∈ first, holds a) (hs : ∀ a ∈ second, holds a) :
    ∀ a ∈ (first <|> second), holds a := by
  cases first with
  | some a => exact h
  | none => exact hs

/-! ### Replacing type parameters -/

section mapTypes

variable {change : List TypeParameter → TypeExpr → TypeExpr}

/-- Changing the types in a form changes its signatures and makes no others. -/
theorem MemberForm.signatures_mapTypes (form : MemberForm) :
    (form.mapTypes change).signatures = form.signatures.map (·.mapTypes change) := by
  cases form <;> rfl

/-- Changing the types in a shape changes its signatures and makes no others. -/
theorem TypeShape.signatures_mapTypes (shape : TypeShape) :
    (shape.mapTypes change).signatures = shape.signatures.map (·.mapTypes change) := by
  cases shape <;> simp [signatures, mapTypes, Member.mapTypes, MemberForm.signatures_mapTypes,
    List.flatMap_map, List.map_flatMap]

/-- Changing the types in a shape changes the forms of its members and makes no others. -/
theorem TypeShape.forms_mapTypes (shape : TypeShape) :
    (shape.mapTypes change).forms = shape.forms.map (·.mapTypes change) := by
  cases shape <;> simp [forms, mapTypes, Member.mapTypes]

/-- The bounds and defaults of type parameters stay when parts are changed. -/
theorem forall_mem_inner_of_changed {holds : TypeExpr → Prop} {signatures : List Signature}
    {parts : List TypePart}
    (bounds : ∀ type ∈ signatures.flatMap (·.parameterTypes), holds type)
    (changed : ∀ part ∈ parts, holds (change part.parameters part.type)) :
    ∀ type ∈ (signatures.map (·.mapTypes change)).flatMap (·.parameterTypes) ++
      (parts.map (·.map change)).map (·.type), holds type := by
  simp only [List.flatMap_map, List.map_map, List.forall_mem_append, List.forall_mem_map]
  exact ⟨bounds, changed⟩

end mapTypes

/-- A law is kept where types are put in place of type parameters, in all shapes where this is
allowed. What is allowed in a shape is allowed in its parts. -/
structure TypeLaw.Kept (law : TypeLaw) (allowed : TypeShape → Bindings → Prop) : Prop where
  shape : ∀ {shape : TypeShape} {bindings : Bindings}, allowed shape bindings →
    law.shape shape → law.shape (shape.mapTypes bindings.inside)
  form : ∀ {form : MemberForm} {change : List TypeParameter → TypeExpr → TypeExpr},
    law.form form → law.form (form.mapTypes change)
  parts : ∀ {shape : TypeShape} {bindings : Bindings}, allowed shape bindings →
    ∀ part ∈ shape.parts, allowed part.type.shape (bindings.without part.parameters)

/-- What a signature declares itself is not replaced in it. -/
theorem Bindings.Obey.without {bindings : Bindings} (h : bindings.Obey law)
    (parameters : List TypeParameter) : (bindings.without parameters).Obey law := by
  intro name new found
  rw [find?_without] at found
  split_ifs at found
  exact h name new found

/-- Lawful arguments stand for type parameters with lawful defaults. -/
theorem Bindings.obey_ofArguments {parameters : List TypeParameter} {arguments : List TypeExpr}
    (unknown : (TypeExpr.keyword "unknown").Obeys law)
    (written : TypeParameter.Obey law parameters)
    (given : ∀ argument ∈ arguments, argument.Obeys law) :
    (ofArguments parameters arguments).Obey law := fun _ _ found =>
  forall_find?_ofArguments unknown
    (fun parameter mem fallback same =>
      written parameter mem fallback (List.mem_append_right _ (Option.mem_toList.mpr same)))
    given found

section substitute

variable {allowed : TypeShape → Bindings → Prop}

/-- A type that obeys a law does so with lawful types in place of type parameters, where that is
allowed. -/
theorem TypeExpr.Obeys.substitute (kept : law.Kept allowed) {type : TypeExpr}
    (h : type.Obeys law) {bindings : Bindings} (allows : allowed type.shape bindings)
    (bound : bindings.Obey law) : (type.substitute bindings).Obeys law := by
  induction h generalizing bindings with
  | @intro type shape forms inner ih =>
    by_cases whole : ∃ name, type.shape = .reference name []
    · obtain ⟨name, parameter⟩ := whole
      have itself : type.Obeys law := ⟨shape, forms, inner⟩
      obtain ⟨_, text⟩ := type
      obtain rfl := parameter
      rw [substitute_parameter]
      cases found : bindings.find? name with
      | none => exact itself
      | some new => exact bound name new found
    · rw [not_exists] at whole
      rw [obeys_iff, shape_substitute bindings whole]
      refine ⟨kept.shape allows shape, ?_, ?_⟩
      · rw [TypeShape.forms_mapTypes, List.forall_mem_map]
        exact fun form mem => kept.form (forms form mem)
      · rw [TypeShape.inner, TypeShape.signatures_mapTypes, TypeShape.parts_mapTypes]
        exact forall_mem_inner_of_changed
          (fun other mem => inner other (List.mem_append_left _ mem))
          fun part mem => ih part.type (List.mem_append_right _ (List.mem_map_of_mem mem))
            (kept.parts allows part mem) (bound.without _)

/-- Putting lawful types into a lawful member leaves it lawful, where this is allowed. -/
theorem Member.Obeys.substitute (kept : law.Kept allowed) {member : Member}
    (h : member.Obeys law) {bindings : Bindings}
    (allows : ∀ part ∈ member.parts, allowed part.type.shape (bindings.without part.parameters))
    (bound : bindings.Obey law) : (member.substitute bindings).Obeys law := by
  rw [substitute_eq]
  refine ⟨kept.form h.lawful, ?_⟩
  rw [Member.mapTypes, MemberForm.inner, MemberForm.signatures_mapTypes, MemberForm.parts_mapTypes]
  exact forall_mem_inner_of_changed (fun type mem => h.inner type (List.mem_append_left _ mem))
    fun part mem => TypeExpr.Obeys.substitute kept
      (h.inner part.type (List.mem_append_right _ (List.mem_map_of_mem mem))) (allows part mem)
      (bound.without _)

end substitute

end TypeAtlas
