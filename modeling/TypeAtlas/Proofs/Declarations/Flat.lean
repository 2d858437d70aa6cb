import TypeAtlas.Proofs.Declarations.Answers
import TypeAtlas.Proofs.Types.Flat

/-!
# Declarations without unions in unions

Arguments take the place of type parameters where members are inherited, where aliases are replaced
by what they stand for and where properties are looked up. Which type parameters may be given a
union, and in which places of a named type a union may be an argument, is said once for all
declarations, and declarations are contained if all types in them keep to it
(`Declarations.Contained`). Inheriting keeps this and leaves what is declared flat
(`Declarations.Contained.withInheritance`).

Answers to questions are another matter, since types are joined in them. A union that is looked up
need not be contained: an operand of it may be a wide type parameter, and yet it is flat because the
types that are joined are opened up first. So what all answers have in common is that they are flat,
and contained or unions of contained types (`TypeExpr.Joined`). Main statement:
`Source.flat_declarationsOf`.
-/

set_option autoImplicit false

namespace TypeAtlas

/-! ### Members -/

section

variable (connective : Connective) (admits : String → Nat → Prop)

/-- All types in a member are contained. -/
def Member.Contained (width : Width) (member : Member) : Prop :=
  ∀ part ∈ member.parts, part.type.Contained connective admits (width.without part.parameters)

end

variable {connective : Connective} {admits : String → Nat → Prop} {inside outside : Width}

namespace Member.Contained

variable {member : Member}

/-- An inherited member is contained where its arguments are carried to. -/
theorem inheritedFrom (h : member.Contained connective admits inside) {bindings : Bindings}
    (carry : bindings.Carry connective admits inside outside) (owner : String) :
    (member.inheritedFrom owner bindings).Contained connective admits outside := by
  intro part mem
  rw [parts_inheritedFrom, substitute_eq, parts_mapTypes] at mem
  obtain ⟨part, listed, rfl⟩ := List.mem_map.mp mem
  exact (h part listed).substitute (carry.without part.parameters)

/-- The type of the value of a contained member is contained. -/
theorem valueType? (h : member.Contained connective admits inside) :
    ∀ type ∈ member.valueType?, type.Contained connective admits inside := by
  intro type typed
  rcases member.mem_valueType?_cases typed with part | ⟨signatures, form, signature, mem, rfl⟩
  · exact (h ⟨[], type⟩ part).mono fun _ wide => ⟨wide, List.forall_mem_nil _⟩
  · refine .intro (fun items combined => ?_) (fun name arguments shape => ?_) fun part listed => ?_
    · cases connective <;> cases combined
    · cases shape
    · refine h part ?_
      rw [parts, form, MemberForm.parts]
      exact List.mem_flatMap.mpr ⟨signature, mem, listed⟩

end Member.Contained

/-! ### Widths in declarations -/

/-- Some type parameter of the name is wide. -/
def Width.anywhere (wide : String → String → Prop) : Width := fun name => ∃ owner, wide owner name

/-- Which names are wide in a declaration. Its own type parameters are as wide as they are said to
be. Any other name may come to be taken for a type parameter of another declaration. -/
def Declaration.width (wide : String → String → Prop) (entry : Declaration) : Width := fun name =>
  Width.anywhere wide name ∧
    ((∃ parameter ∈ entry.typeParameters, parameter.name = name) → wide entry.name name)

namespace Declarations

section

variable (connective : Connective) (admits : String → Nat → Prop) (wide : String → String → Prop)

/-- The types in declarations are contained, for type parameters that are as wide as they are said
to be. Where a combined type is admitted as an argument, or is a default, the type parameter is
wide. -/
structure Contained (decls : Declarations) : Prop where
  admitted : ∀ entry, decls.Has entry → ∀ (place : Nat) parameter,
    entry.typeParameters[place]? = some parameter → admits entry.name place →
      wide entry.name parameter.name
  fallbacks : ∀ entry, decls.Has entry → ∀ parameter ∈ entry.typeParameters,
    ∀ fallback ∈ parameter.fallback,
      fallback.Contained connective admits (Width.anywhere wide) ∧
        (fallback.Spreads connective (Width.anywhere wide) → wide entry.name parameter.name)
  bases : ∀ entry, decls.Has entry → ∀ base ∈ entry.bases,
    base.Contained connective admits (entry.width wide)
  interfaces : ∀ decl ∈ decls.interfaces, ∀ member ∈ decl.members,
    member.Contained connective admits ((Declaration.interface decl).width wide)
  aliases : ∀ decl ∈ decls.aliases,
    decl.declared.Contained connective admits ((Declaration.typeAlias decl).width wide)
  classes : ∀ decl ∈ decls.classes, ∀ member ∈ decl.members,
    member.Contained connective admits ((Declaration.class decl).width wide)

end

variable {wide : String → String → Prop} {decls : Declarations}

/-- The members of a declaration are contained in it. -/
theorem Contained.members (h : decls.Contained connective admits wide) {entry : Declaration}
    (has : decls.Has entry) :
    ∀ member ∈ entry.members, member.Contained connective admits (entry.width wide) := by
  cases entry with
  | interface decl => exact h.interfaces decl has
  | typeAlias decl =>
    simp only [Declaration.members]
    split
    · rename_i members signatures shape
      intro member mem part inside
      refine (h.aliases decl has).part part ?_
      rw [shape, TypeShape.parts]
      exact List.mem_append_left _ (List.mem_flatMap.mpr ⟨member, mem, inside⟩)
    · exact List.forall_mem_nil _
  | «class» decl => exact h.classes decl has
  | enum decl => exact List.forall_mem_nil _

/-- What stands for a type parameter is contained where the arguments are, and if it is combined or
wide, the type parameter is. -/
theorem Contained.stands (h : decls.Contained connective admits wide) {entry : Declaration}
    (has : decls.Has entry) (less : ∀ name, outside name → Width.anywhere wide name)
    {type : TypeExpr} (contained : type.Contained connective admits outside)
    {arguments : List TypeExpr} (shape : type.shape = .reference entry.name arguments) {place : Nat}
    {parameter : TypeParameter} (listed : entry.typeParameters[place]? = some parameter)
    {new : TypeExpr}
    (stands : (arguments[place]? <|> parameter.fallback).getD (.keyword "unknown") = new) :
    new.Contained connective admits outside ∧
      (new.Spreads connective outside → wide entry.name parameter.name) := by
  -- What stands for a type parameter is its argument, or its default, or else `unknown`.
  cases given : arguments[place]? with
  | some argument =>
    obtain rfl : argument = new := by rwa [given] at stands
    cases contained with
    | intro _ admitted parts =>
      have inside : ⟨[], argument⟩ ∈ type.shape.parts := by
        rw [shape]
        exact List.mem_map_of_mem (List.mem_of_getElem? given)
      exact ⟨(parts _ inside).mono fun _ wide => ⟨wide, List.forall_mem_nil _⟩, fun spreads =>
        h.admitted entry has place parameter listed
          (admitted _ arguments shape place argument given spreads)⟩
  | none =>
    rw [given] at stands
    cases written : parameter.fallback with
    | some fallback =>
      obtain rfl : fallback = new := by rwa [written] at stands
      obtain ⟨contained, spreads⟩ :=
        h.fallbacks entry has parameter (List.mem_of_getElem? listed) fallback written
      exact ⟨contained.mono less, fun spread => spreads (spread.mono less)⟩
    | none =>
      obtain rfl : .keyword "unknown" = new := by rwa [written] at stands
      refine ⟨.of_parts_eq_nil rfl, ?_⟩
      rintro (combined | ⟨_, other, _⟩)
      · cases connective <;> cases combined
      · cases other

/-- Arguments of a contained type may be put in place of the type parameters of what it names. -/
theorem Contained.carry (h : decls.Contained connective admits wide) {entry : Declaration}
    (has : decls.Has entry) (less : ∀ name, outside name → Width.anywhere wide name)
    {type : TypeExpr} (contained : type.Contained connective admits outside)
    {arguments : List TypeExpr} (shape : type.shape = .reference entry.name arguments) :
    (Bindings.ofArguments entry.typeParameters arguments).Carry connective admits
      (entry.width wide) outside where
  contained name new found := by
    obtain ⟨place, parameter, listed, _, stands⟩ := Bindings.exists_of_find?_ofArguments found
    exact (h.stands has less contained shape listed stands).1
  spreads name new found spreads := by
    obtain ⟨place, parameter, listed, rfl, stands⟩ := Bindings.exists_of_find?_ofArguments found
    have wider := (h.stands has less contained shape listed stands).2 spreads
    exact ⟨⟨_, wider⟩, fun _ => wider⟩
  free name free width := by
    refine ⟨less name width, fun ⟨parameter, mem, same⟩ => ?_⟩
    have bound := Bindings.isSome_find?_ofArguments mem arguments
    rw [same, free] at bound
    cases bound

/-! ### Inheritance -/

section inheritance

variable (h : decls.Contained connective admits wide) (lawful : decls.Obey (flat connective))
  (less : ∀ name, outside name → Width.anywhere wide name) {bases : List TypeExpr}
  (good : ∀ base ∈ bases, base.Obeys (flat connective) ∧
    base.Contained connective admits outside)

include h lawful less good

/-- What a walk puts in place of type parameters is flat, and may be put there. -/
theorem Contained.carry_of_mem_ancestors {seen : List String} :
    ∀ ancestor ∈ decls.ancestors bases seen,
      ancestor.bindings.Obey (flat connective) ∧
        ∀ entry, decls.Has entry → entry.name = ancestor.name →
          (decls.bequest ancestor.name).IsFrom entry →
            ancestor.bindings.Carry connective admits (entry.width wide) outside := by
  refine @forall_mem_ancestors decls
    (fun base => base.Obeys (flat connective) ∧ base.Contained connective admits outside)
    (fun name bindings => bindings.Obey (flat connective) ∧
      ∀ entry, decls.Has entry → entry.name = name → (decls.bequest name).IsFrom entry →
        bindings.Carry connective admits (entry.width wide) outside) ?_ ?_ bases seen good
  · -- a supertype gives its arguments to the declaration that it names
    rintro base name arguments ⟨obeys, contained⟩ shape
    have given := obeys.innerObeys
    rw [shape, TypeShape.innerObeys_reference] at given
    refine ⟨Bindings.obey_ofArguments ((modest_flat connective).obeys_keyword _)
      (lawful.bequest name).typeParameters given, fun entry has named passed => ?_⟩
    subst named
    rw [passed.typeParameters]
    exact h.carry has less contained shape
  · -- and with them in place the supertypes of that declaration are good
    rintro name bindings ⟨bound, carries⟩ base mem
    rcases decls.bequest_cases name with nothing | ⟨entry, has, _, named, passed⟩
    · rw [nothing] at mem
      cases mem
    · have carry := carries entry has named passed
      have contained := h.bases entry has base (passed.bases ▸ mem)
      exact ⟨((lawful.bequest name).bases base mem).substitute_flat contained carry bound,
        contained.substitute carry⟩

/-- Inherited members are flat, and the types in them are contained where they are inherited. -/
theorem Contained.inheritedMembers (name : String) :
    ∀ member ∈ decls.inheritedMembers name bases,
      member.Obeys (flat connective) ∧ member.Contained connective admits outside := by
  unfold Declarations.inheritedMembers
  rw [List.forall_mem_flatMap]
  intro ancestor met
  obtain ⟨bound, carries⟩ := h.carry_of_mem_ancestors lawful less good ancestor met
  rw [passedOn, List.forall_mem_map]
  intro member mem
  rcases decls.bequest_cases ancestor.name with nothing | ⟨entry, has, _, named, passed⟩
  · rw [nothing] at mem
    cases mem
  · have carry := carries entry has named passed
    have inside := passed.members member mem
    have contained := h.members has member inside
    exact ⟨(lawful.members has member inside).inheritedFrom (kept_flat connective admits)
      (fun part listed => ⟨_, _, (contained part listed).of_shape rfl,
        carry.without part.parameters⟩) bound ancestor.name,
      contained.inheritedFrom carry ancestor.name⟩

end inheritance

/-- Declarations have the types in them contained if those do whose names, type parameters and
supertypes they have. -/
theorem Contained.of_entries {after : Declarations} (h : decls.Contained connective admits wide)
    (entries : ∀ entry, after.Has entry → ∃ before, decls.Has before ∧ entry.name = before.name ∧
      entry.typeParameters = before.typeParameters ∧ entry.bases = before.bases)
    (members : ∀ entry, after.Has entry → ∀ member ∈ entry.members,
      member.Contained connective admits (entry.width wide))
    (aliases : ∀ decl ∈ after.aliases,
      decl.declared.Contained connective admits ((Declaration.typeAlias decl).width wide)) :
    after.Contained connective admits wide where
  admitted entry has place parameter := by
    obtain ⟨before, had, name, parameters, _⟩ := entries entry has
    rw [name, parameters]
    exact h.admitted before had place parameter
  fallbacks entry has := by
    obtain ⟨before, had, name, parameters, _⟩ := entries entry has
    rw [name, parameters]
    exact h.fallbacks before had
  bases entry has := by
    obtain ⟨before, had, name, parameters, bases⟩ := entries entry has
    have width : entry.width wide = before.width wide := by
      unfold Declaration.width
      rw [name, parameters]
    rw [bases, width]
    exact h.bases before had
  interfaces decl mem := members (.interface decl) mem
  aliases := aliases
  classes decl mem := members (.class decl) mem

/-- A declaration inherits contained members. -/
theorem Contained.append (h : decls.Contained connective admits wide)
    (lawful : decls.Obey (flat connective)) {entry : Declaration} (has : decls.Has entry) :
    ∀ member ∈ Member.append entry.members (decls.inheritedMembers entry.name entry.bases),
      member.Obeys (flat connective) ∧ member.Contained connective admits (entry.width wide) :=
  Member.forall_mem_append
    (fun member mem => ⟨lawful.members has member mem, h.members has member mem⟩)
    (h.inheritedMembers lawful (fun _ wider => wider.1)
      (fun base mem => ⟨lawful.bases has base mem, h.bases entry has base mem⟩) entry.name)

/-- Flat and contained declarations stay so when they inherit. -/
theorem Contained.withInheritance (h : decls.Contained connective admits wide)
    (lawful : decls.Obey (flat connective)) :
    decls.withInheritance.Obey (flat connective) ∧
      decls.withInheritance.Contained connective admits wide := by
  have interfaces (decl : InterfaceDecl) (mem : decl ∈ decls.interfaces) :=
    h.append lawful (show decls.Has (.interface decl) from mem)
  have classes (decl : ClassDecl) (mem : decl ∈ decls.classes) :=
    h.append lawful (show decls.Has (.class decl) from mem)
  refine ⟨⟨?_, lawful.aliases, ?_⟩, h.of_entries (forall_has_iff.mpr ⟨?_, ?_, ?_, ?_⟩)
    (forall_has_iff.mpr ⟨?_, ?_, ?_, ?_⟩) h.aliases⟩
  · refine List.forall_mem_map.mpr fun decl mem => ?_
    exact { lawful.interfaces decl mem with members := fun member inside =>
      (interfaces decl mem member inside).1 }
  · refine List.forall_mem_map.mpr fun decl mem => ?_
    exact { lawful.classes decl mem with members := fun member inside =>
      (classes decl mem member inside).1 }
  -- names, type parameters and supertypes are those of before
  · exact List.forall_mem_map.mpr fun decl mem => ⟨.interface decl, mem, rfl, rfl, rfl⟩
  · exact fun decl mem => ⟨.typeAlias decl, mem, rfl, rfl, rfl⟩
  · exact List.forall_mem_map.mpr fun decl mem => ⟨.class decl, mem, rfl, rfl, rfl⟩
  · exact fun decl mem => ⟨.enum decl, mem, rfl, rfl, rfl⟩
  -- and members are there that are inherited
  · exact List.forall_mem_map.mpr fun decl mem member inside =>
      (interfaces decl mem member inside).2
  · exact fun decl mem => h.members (show decls.Has (.typeAlias decl) from mem)
  · exact List.forall_mem_map.mpr fun decl mem member inside => (classes decl mem member inside).2
  · exact fun _ _ => List.forall_mem_nil _

end Declarations

/-! ### Answers -/

section

variable (connective : Connective) (admits : String → Nat → Prop) (width : Width)

/-- A type is flat, and it is contained or a union of contained types. Of these some may be as wide
as a union, for types that are joined are not written in one. -/
structure TypeExpr.Joined (type : TypeExpr) : Prop where
  lawful : type.Obeys (flat connective)
  contained : type.Contained connective admits width ∨
    ∃ items, type.shape = .union items ∧ ∀ item ∈ items, item.Contained connective admits width

end

namespace TypeExpr.Joined

variable {type : TypeExpr} (h : type.Joined connective admits outside)

include h

/-- A joined type that is no union is contained itself. -/
theorem contained_of_not_union (other : ∀ items, type.shape ≠ .union items) :
    type.Contained connective admits outside :=
  h.contained.elim id fun ⟨items, shape, _⟩ => absurd shape (other items)

/-- What is in a joined type, but not in the bounds of a signature, is contained. -/
theorem part : ∀ part ∈ type.shape.parts, part.parameters = [] →
    part.type.Obeys (flat connective) ∧ part.type.Contained connective admits outside := by
  intro part mem plain
  refine ⟨h.lawful.innerObeys.inner part.type (List.mem_append_right _ (List.mem_map_of_mem mem)), ?_⟩
  rcases h.contained with contained | ⟨items, shape, operands⟩
  · refine (contained.part part mem).mono fun name wide => ⟨wide, ?_⟩
    rw [plain]
    exact List.forall_mem_nil _
  · rw [shape] at mem
    obtain ⟨item, listed, rfl⟩ := List.mem_map.mp mem
    exact operands item listed

/-- The operands of a joined type, or it alone, are flat and contained. -/
theorem operands : ∀ operand ∈ type.operands?.getD [type],
    operand.Obeys (flat connective) ∧ operand.Contained connective admits outside := by
  unfold operands?
  cases shape : type.shape
  case union items =>
    intro operand mem
    exact h.part ⟨[], operand⟩ (by rw [shape]; exact List.mem_map_of_mem mem) rfl
  all_goals
    refine List.forall_mem_singleton.mpr ⟨h.lawful, h.contained_of_not_union ?_⟩
    rw [shape]
    exact fun _ other => by cases other

end TypeExpr.Joined

/-- The operands of a flat union are no unions, and neither is a type that is none. -/
theorem TypeExpr.operands?_of_mem_operands {type : TypeExpr}
    (h : (flat .union).shape type.shape) :
    ∀ operand ∈ type.operands?.getD [type], Connective.union.operands? operand.shape = none := by
  unfold operands?
  cases shape : type.shape
  case union items =>
    rw [shape] at h
    exact h items rfl
  all_goals
    refine List.forall_mem_singleton.mpr ?_
    rw [shape]
    rfl

namespace Declarations

variable {wide : String → String → Prop} {decls : Declarations}

/-- What a declaration says of its names is flat, with arguments of flat types in place of type
parameters. -/
theorem Contained.joined_substitute (h : decls.Contained connective admits wide)
    (lawful : decls.Obey (flat connective)) {entry : Declaration} (has : decls.Has entry)
    (less : ∀ name, outside name → Width.anywhere wide name) {type : TypeExpr}
    (joined : type.Joined connective admits outside) {arguments : List TypeExpr}
    (shape : type.shape = .reference entry.name arguments) {said : TypeExpr}
    (obeys : said.Obeys (flat connective))
    (contained : said.Contained connective admits (entry.width wide)) :
    (said.substitute (.ofArguments entry.typeParameters arguments)).Joined connective admits
      outside := by
  have carry := h.carry has less (joined.contained_of_not_union fun items => by simp [shape]) shape
  have given := joined.lawful.innerObeys
  rw [shape, TypeShape.innerObeys_reference] at given
  have bound := Bindings.obey_ofArguments ((modest_flat connective).obeys_keyword _)
    (lawful.typeParameters has) given
  exact ⟨obeys.substitute_flat contained carry bound, .inl (contained.substitute carry)⟩

/-- Of declarations with contained flat types all answers are flat. -/
theorem Contained.keeps (h : decls.Contained connective admits wide)
    (lawful : decls.Obey (flat connective))
    (less : ∀ name, outside name → Width.anywhere wide name) (hops : Nat) :
    (Scope.mk decls hops).Keeps (TypeExpr.Joined connective admits outside) where
  aliasValue {type name arguments} joined shape value made := by
    obtain ⟨decl, mem, rfl, rfl⟩ := Scope.exists_of_mem_aliasValue? made
    exact h.joined_substitute lawful (show decls.Has (.typeAlias decl) from mem) less joined shape
      (lawful.aliases decl mem).declared (h.aliases decl mem)
  member {type owner arguments} joined shape name value made := by
    obtain ⟨entry, has, rfl, member, mem, said, typed, rfl⟩ := Scope.exists_of_mem_memberOf? made
    exact h.joined_substitute lawful has less joined shape
      ((lawful.members has member mem).valueType? (modest_flat connective) said typed)
      ((h.members has member mem).valueType? said typed)
  property {type members signatures} joined shape member mem value typed := by
    have inside := joined.lawful.innerObeys
    rw [shape, TypeShape.innerObeys_object] at inside
    have contained := joined.contained_of_not_union fun items => by simp [shape]
    refine ⟨(inside.1 member mem).valueType? (modest_flat connective) value typed, .inl ?_⟩
    refine Member.Contained.valueType? (fun part listed => contained.part part ?_) value typed
    rw [shape, TypeShape.parts]
    exact List.mem_append_left _ (List.mem_flatMap.mpr ⟨member, mem, listed⟩)
  part joined part mem plain :=
    have inside := joined.part part mem plain
    ⟨inside.1, .inl inside.2⟩
  join {types} each type made := by
    rcases TypeExpr.of_mem_join type made with ⟨other, mem, operand⟩ | ⟨items, shape, operands⟩
    · have inside := (each other mem).operands type operand
      exact ⟨inside.1, .inl inside.2⟩
    · have inside (item : TypeExpr) (mem : item ∈ items) :
          item.Obeys (flat connective) ∧ item.Contained connective admits outside := by
        obtain ⟨other, listed, operand⟩ := operands item mem
        exact (each other listed).operands item operand
      refine ⟨TypeExpr.obeys_iff.mpr ⟨?_, ?_⟩,
        .inr ⟨items, shape, fun item mem => (inside item mem).2⟩⟩
      · -- what is joined is opened up first, so an operand of a flat type is all that comes here
        rw [shape]
        intro all combined item mem
        cases connective with
        | intersection => cases combined
        | union =>
          cases combined
          obtain ⟨other, listed, operand⟩ := operands item mem
          exact TypeExpr.operands?_of_mem_operands
            (TypeExpr.obeys_iff.mp (each other listed).lawful).1 item operand
      · rw [shape, TypeShape.innerObeys_union]
        exact fun item mem => (inside item mem).1

section aliases

variable (h : decls.Contained connective admits wide) (lawful : decls.Obey (flat connective))
  (hops : Nat) {decl : AliasDecl} (mem : decl ∈ decls.aliases)

include h lawful mem

/-- The declared type of an alias counts as joined. -/
theorem Contained.joined_declared :
    decl.declared.Joined connective admits ((Declaration.typeAlias decl).width wide) :=
  ⟨(lawful.aliases decl mem).declared, .inl (h.aliases decl mem)⟩

/-- What an alias stands for is flat once aliases are replaced. -/
theorem Contained.obeys_apparent :
    ((Scope.mk decls hops).apparent decl.declared).Obeys (flat connective) :=
  ((h.keeps lawful (fun _ wider => wider.1) hops).apparent (h.joined_declared lawful mem)).lawful

/-- What an alias yields that is an indexed access is flat. -/
theorem Contained.obeys_access :
    ∀ value ∈ (Scope.mk decls hops).access? decl.declared, value.Obeys (flat connective) :=
  fun value made => ((h.keeps lawful (fun _ wider => wider.1) hops).access
    (h.joined_declared lawful mem) value made).lawful

end aliases

/-- Flat and contained declarations stay so when their aliases are expanded. -/
theorem Contained.withExpandedAliases (h : decls.Contained connective admits wide)
    (lawful : decls.Obey (flat connective)) (hops : Nat) :
    (decls.withExpandedAliases hops).Obey (flat connective) ∧
      (decls.withExpandedAliases hops).Contained connective admits wide := by
  refine ⟨⟨lawful.interfaces, ?_, lawful.classes⟩,
    h.of_entries (forall_has_iff.mpr ⟨?_, ?_, ?_, ?_⟩) (forall_has_iff.mpr ⟨h.interfaces, ?_,
      h.classes, fun _ _ => List.forall_mem_nil _⟩) (List.forall_mem_map.mpr h.aliases)⟩
  · refine List.forall_mem_map.mpr fun decl mem => ?_
    exact { lawful.aliases decl mem with expanded := h.obeys_apparent lawful hops mem }
  · exact fun decl mem => ⟨.interface decl, mem, rfl, rfl, rfl⟩
  · exact List.forall_mem_map.mpr fun decl mem => ⟨.typeAlias decl, mem, rfl, rfl, rfl⟩
  · exact fun decl mem => ⟨.class decl, mem, rfl, rfl, rfl⟩
  · exact fun decl mem => ⟨.enum decl, mem, rfl, rfl, rfl⟩
  · exact List.forall_mem_map.mpr fun decl mem =>
      @Contained.members _ _ _ _ h (.typeAlias decl) mem

end Declarations

/-- Of a tree in which unions are written flat, and in which types are contained, the declarations
are flat with all that is done to them, and types stay contained. -/
theorem Source.flat_declarationsOf {tree : Node} {admits : String → Nat → Prop}
    {wide : String → String → Prop} (written : tree.All Node.Flat)
    (contained : (Declarations.ofList tree.declarations).Contained connective admits wide)
    (hops : Nat) :
    (declarationsOf tree hops).Obey (flat connective) ∧
      (declarationsOf tree hops).Contained connective admits wide := by
  have lawful := Declarations.obey_ofList (Node.obeys_of_mem_declarations (modest_flat connective)
    (Node.flat_toType written connective))
  obtain ⟨inherited, within⟩ := contained.withInheritance lawful
  exact within.withExpandedAliases inherited hops

end TypeAtlas
