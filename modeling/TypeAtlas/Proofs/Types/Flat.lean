import TypeAtlas.Proofs.Types.OfTree

/-!
# Unions in unions

That no operand of a union is a union itself is a law for all types, and so it is with intersections
(`flat`). It holds of what a tree is read as if no operand in the tree is of the kind that it is an
operand of, parentheses and `readonly` not being counted (`Node.flat_toType`): a union that is
written in a union without them is opened up.

A union comes to be in another one where it takes the place of a type parameter that is an operand.
So it is said of each type parameter whether unions may be put in its place, which is its width.
Types are contained if no operand of a union is a union or as wide as one, and if unions are put as
arguments only where they may be (`TypeExpr.Contained`). Then they stay so when arguments take the
place of type parameters (`TypeExpr.Contained.substitute`), and they stay flat (`kept_flat`).
-/

set_option autoImplicit false

namespace TypeAtlas

/-! ### Combined types -/

/-- What types are combined with. -/
inductive Connective where
  | union | intersection
deriving DecidableEq, Repr

namespace Connective

/-- The operands of a type that is combined with the connective. -/
def operands? : Connective → TypeShape → Option (List TypeExpr)
  | .union, .union items => some items
  | .intersection, .intersection items => some items
  | _, _ => none

/-- The kind of the nodes in which types are combined with the connective. -/
def kind : Connective → Kind
  | .union => .unionType
  | .intersection => .intersectionType

/-- Changing the types in a shape changes its operands and makes no others. -/
theorem operands?_mapTypes (connective : Connective) (shape : TypeShape)
    (change : List TypeParameter → TypeExpr → TypeExpr) :
    connective.operands? (shape.mapTypes change) =
      (connective.operands? shape).map (·.map (change [])) := by
  cases connective <;> cases shape <;> rfl

/-- Operands are what a combined type is made of. -/
theorem parts_of_operands? {connective : Connective} {shape : TypeShape} {items : List TypeExpr}
    (h : connective.operands? shape = some items) :
    shape.parts = items.map fun item => ⟨[], item⟩ := by
  cases connective <;> cases shape <;> cases h <;> rfl

end Connective

/-- No operand is combined with the connective that it is an operand of. -/
def flat (connective : Connective) : TypeLaw where
  shape shape := ∀ items, connective.operands? shape = some items →
    ∀ item ∈ items, connective.operands? item.shape = none
  form _ := True

/-- The law of flat types demands nothing of what is made up where no type is written. -/
theorem modest_flat (connective : Connective) : (flat connective).Modest where
  keyword _ _ other := by cases connective <;> cases other
  reference _ _ _ other := by cases connective <;> cases other
  array _ _ other := by cases connective <;> cases other
  function _ _ other := by cases connective <;> cases other
  property _ := trivial
  getter _ := trivial
  setter _ := trivial
  method _ _ := trivial
  overloaded _ _ _ := trivial

/-! ### Combined nodes -/

namespace Node

/-- No operand of the node is of the kind that the node combines types of, with what is around the
operand left out. -/
def Flat (node : Node) : Prop :=
  ∀ connective : Connective, node.kind = connective.kind →
    ∀ part ∈ node.operands connective.kind, part.1.bare.kind ≠ connective.kind

/-- What holds everywhere in a node holds everywhere in what is left of it. -/
theorem All.bare {holds : Node → Prop} {node : Node} (h : node.All holds) :
    node.bare.All holds := by
  fun_induction Node.bare node with
  | case1 node around inner opened ih => exact ih (h.children inner.1 inner.2)
  | case2 => exact h
  | case3 => exact h

/-- A type has operands only if what is left of its node is of this kind, and the operands are then
read from those of the node. -/
theorem kind_bare_of_operands? {connective : Connective} {node : Node} {items : List TypeExpr}
    (h : connective.operands? node.toType.shape = some items) :
    node.bare.kind = connective.kind ∧
      items = (node.bare.operands connective.kind).map fun part => part.1.toType := by
  cases connective with
  | union =>
    cases shape : node.toType.shape <;> rw [shape] at h <;> cases h
    exact node.readAs_bare.union _ shape
  | intersection =>
    cases shape : node.toType.shape <;> rw [shape] at h <;> cases h
    exact node.readAs_bare.intersection _ shape

/-- Whether no operand of the node is of the kind that the node combines types of. -/
def isFlat (node : Node) : Bool :=
  [Connective.union, .intersection].all fun connective =>
    node.kind != connective.kind ||
      (node.operands connective.kind).all fun part => part.1.bare.kind != connective.kind

/-- The test for flat nodes finds out whether they are. -/
theorem isFlat_iff {node : Node} : node.isFlat ↔ node.Flat := by
  simp only [isFlat, List.all_eq_true, Bool.or_eq_true, bne_iff_ne, or_iff_not_imp_left, ne_eq,
    not_not]
  exact ⟨fun h connective => h connective (by cases connective <;> simp),
    fun h connective _ => h connective⟩

/-- It can be computed whether a tree is written flat. -/
theorem every_isFlat_iff {tree : Node} : tree.every isFlat ↔ tree.All Flat := by
  simp only [every_iff, isFlat_iff]

/-- What is written flat is read as flat types. -/
theorem flat_toType {tree : Node} (h : tree.All Flat) (connective : Connective) :
    tree.All fun node => (flat connective).shape node.toType.shape := by
  refine h.imp fun node all items combined item mem => ?_
  obtain ⟨kind, rfl⟩ := kind_bare_of_operands? combined
  obtain ⟨part, listed, rfl⟩ := List.mem_map.mp mem
  cases again : connective.operands? part.1.toType.shape with
  | none => rfl
  | some inner =>
    exact absurd (kind_bare_of_operands? again).1 (all.bare.own connective kind part listed)

end Node

/-! ### Widths -/

/-- Of each name, whether a combined type may be put in its place. -/
abbrev Width := String → Prop

/-- The width of names where some are those of type parameters that are left alone. -/
def Width.without (width : Width) (parameters : List TypeParameter) : Width := fun name =>
  width name ∧ ∀ parameter ∈ parameters, parameter.name ≠ name

section Contained

variable (connective : Connective) (admits : String → Nat → Prop)

/-- A type is combined with the connective, or a name that such a type may be put in place of. -/
def TypeExpr.Spreads (width : Width) (type : TypeExpr) : Prop :=
  (connective.operands? type.shape).isSome ∨
    ∃ name, type.shape = .reference name [] ∧ width name

/-- No operand in a type is combined with the connective of which it is an operand, nor may such a
type be put in its place, and where such a type may be an argument, it is admitted. -/
inductive TypeExpr.Contained : Width → TypeExpr → Prop
  | intro {width : Width} {type : TypeExpr}
      (operands : ∀ items, connective.operands? type.shape = some items →
        ∀ item ∈ items, ¬ item.Spreads connective width)
      (arguments : ∀ name arguments, type.shape = .reference name arguments →
        ∀ (place : Nat) argument, arguments[place]? = some argument →
          argument.Spreads connective width → admits name place)
      (parts : ∀ part ∈ type.shape.parts, Contained (width.without part.parameters) part.type) :
      Contained width type

/-- What is put in place of names may be there: where `inside` tells which names are wide, types
stay contained, and `outside` tells then which names are. -/
structure Bindings.Carry (bindings : Bindings) (inside outside : Width) : Prop where
  contained : ∀ name new, bindings.find? name = some new →
    new.Contained connective admits outside
  spreads : ∀ name new, bindings.find? name = some new → new.Spreads connective outside →
    inside name
  free : ∀ name, bindings.find? name = none → outside name → inside name

end Contained

variable {connective : Connective} {admits : String → Nat → Prop} {width narrower inside outside : Width}
  {type : TypeExpr} {bindings : Bindings}

/-- With more names wide a type spreads where it did. -/
theorem TypeExpr.Spreads.mono (less : ∀ name, narrower name → width name)
    (h : type.Spreads connective narrower) : type.Spreads connective width :=
  h.imp_right fun ⟨name, shape, wide⟩ => ⟨name, shape, less name wide⟩

/-- The name of a type parameter is as wide as it is said to be. -/
theorem TypeExpr.spreads_iff_of_reference {name : String}
    (shape : type.shape = .reference name []) :
    type.Spreads connective width ↔ width name := by
  rw [Spreads, shape]
  constructor
  · rintro (combined | ⟨_, same, wide⟩)
    · cases connective <;> cases combined
    · cases same
      exact wide
  · exact fun wide => .inr ⟨name, rfl, wide⟩

namespace TypeExpr.Contained

/-- Where fewer names are wide, more is contained. -/
theorem mono (h : type.Contained connective admits width)
    (less : ∀ name, narrower name → width name) : type.Contained connective admits narrower := by
  induction h generalizing narrower with
  | intro operands arguments parts ih =>
    refine .intro (fun items combined item mem spreads => ?_)
      (fun name given shape place argument found spreads => ?_) fun part mem => ?_
    · exact operands items combined item mem (spreads.mono less)
    · exact arguments name given shape place argument found (spreads.mono less)
    · exact ih part mem fun name ⟨wide, free⟩ => ⟨less name wide, free⟩

/-- Whether a type is contained depends on its shape only. -/
theorem of_shape (h : type.Contained connective admits width) {other : TypeExpr}
    (same : other.shape = type.shape) : other.Contained connective admits width := by
  cases h with
  | intro operands arguments parts =>
    rw [← same] at operands arguments parts
    exact .intro operands arguments parts

/-- The types in a contained type are contained, with the type parameters of a signature around them
left alone. -/
theorem part (h : type.Contained connective admits width) :
    ∀ part ∈ type.shape.parts,
      part.type.Contained connective admits (width.without part.parameters) := by
  cases h
  assumption

/-- Types that are made of nothing are contained. -/
theorem of_parts_eq_nil (none : type.shape.parts = []) :
    type.Contained connective admits width := by
  refine .intro (fun items combined item mem => ?_)
    (fun name arguments shape place argument found => ?_) fun part mem => ?_
  · rw [Connective.parts_of_operands? combined, List.map_eq_nil_iff] at none
    rw [none] at mem
    cases mem
  · rw [shape, TypeShape.parts, List.map_eq_nil_iff] at none
    rw [none] at found
    cases found
  · rw [none] at mem
    cases mem

/-- A union of contained types is contained if none of them is combined or wide. -/
theorem of_union {items : List TypeExpr} (shape : type.shape = .union items)
    (plain : ∀ item ∈ items, ¬ item.Spreads connective width)
    (each : ∀ item ∈ items, item.Contained connective admits width) :
    type.Contained connective admits width := by
  refine .intro (fun operands combined item mem => ?_) (fun name arguments other => ?_)
    fun part mem => ?_
  · rw [shape] at combined
    cases connective <;> cases combined
    exact plain item mem
  · rw [shape] at other
    cases other
  · rw [shape] at mem
    obtain ⟨item, listed, rfl⟩ := List.mem_map.mp mem
    exact (each item listed).mono fun _ wide => wide.1

/-- A named type with contained arguments is contained if those are admitted that are combined or
wide. -/
theorem of_reference {name : String} {arguments : List TypeExpr}
    (shape : type.shape = .reference name arguments)
    (admitted : ∀ (place : Nat) argument, arguments[place]? = some argument →
      argument.Spreads connective width → admits name place)
    (each : ∀ argument ∈ arguments, argument.Contained connective admits width) :
    type.Contained connective admits width := by
  refine .intro (fun operands combined item mem => ?_) (fun other given same => ?_)
    fun part mem => ?_
  · rw [shape] at combined
    cases connective <;> cases combined
  · rw [shape] at same
    cases same
    exact admitted
  · rw [shape] at mem
    obtain ⟨item, listed, rfl⟩ := List.mem_map.mp mem
    exact (each item listed).mono fun _ wide => wide.1

end TypeExpr.Contained

/-! ### Replacing type parameters -/

/-- Only a named type becomes a named type when the types in it are changed. -/
theorem TypeShape.eq_reference_of_mapTypes {shape : TypeShape}
    {change : List TypeParameter → TypeExpr → TypeExpr} {name : String} {given : List TypeExpr}
    (h : shape.mapTypes change = .reference name given) :
    ∃ arguments, shape = .reference name arguments ∧ given = arguments.map (change []) := by
  cases shape <;> cases h
  exact ⟨_, rfl, rfl⟩

/-- Inside of a signature its own type parameters are left alone. -/
theorem Bindings.Carry.without (h : bindings.Carry connective admits inside outside)
    (parameters : List TypeParameter) :
    (bindings.without parameters).Carry connective admits (inside.without parameters)
      (outside.without parameters) := by
  have fewer : ∀ name, outside.without parameters name → outside name := fun _ wide => wide.1
  refine ⟨fun name new found => ?_, fun name new found spreads => ?_, fun name free wide => ?_⟩
  · rw [find?_without] at found
    split_ifs at found
    exact (h.contained name new found).mono fewer
  · rw [find?_without] at found
    split_ifs at found with own
    exact ⟨h.spreads name new found (spreads.mono fewer), by simpa using own⟩
  · rw [find?_without] at free
    have other : ¬ parameters.any fun parameter => parameter.name == name := by simpa using wide.2
    rw [if_neg other] at free
    exact ⟨h.free name free wide.1, wide.2⟩

/-- What is combined after a replacement was before, or a wide name was replaced. -/
theorem TypeExpr.Spreads.of_substitute (carry : bindings.Carry connective admits inside outside)
    (h : (type.substitute bindings).Spreads connective outside) :
    type.Spreads connective inside := by
  -- a type that is not itself a type parameter is combined after the replacement if it was before
  by_cases whole : ∃ name, type.shape = .reference name []
  · obtain ⟨name, parameter⟩ := whole
    refine .inr ⟨name, parameter, ?_⟩
    obtain ⟨_, text⟩ := type
    obtain rfl := parameter
    rw [substitute_parameter] at h
    cases found : bindings.find? name with
    | some new =>
      rw [found] at h
      exact carry.spreads name new found h
    | none =>
      rw [found] at h
      exact carry.free name found ((spreads_iff_of_reference rfl).mp h)
  · rw [not_exists] at whole
    rw [Spreads, shape_substitute bindings whole] at h
    obtain combined | ⟨name, same, _⟩ := h
    · rw [Connective.operands?_mapTypes, Option.isSome_map] at combined
      exact .inl combined
    · exact absurd same (TypeShape.mapTypes_ne_reference whole _ name)

/-- Contained types stay so with types in place of type parameters that may be there. -/
theorem TypeExpr.Contained.substitute (h : type.Contained connective admits inside)
    (carry : bindings.Carry connective admits inside outside) :
    (type.substitute bindings).Contained connective admits outside := by
  -- by induction on what is contained in the type, for all that may be put in place at once: inside
  -- of a signature other names are wide, and other type parameters are replaced
  induction h generalizing bindings outside with
  | @intro inside type operands arguments parts ih =>
    by_cases whole : ∃ name, type.shape = .reference name []
    · obtain ⟨name, parameter⟩ := whole
      obtain ⟨_, text⟩ := type
      obtain rfl := parameter
      rw [substitute_parameter]
      cases found : bindings.find? name with
      | some new => exact carry.contained name new found
      | none => exact .of_parts_eq_nil rfl
    · rw [not_exists] at whole
      have shape := shape_substitute bindings whole
      refine .intro (fun items combined item mem spreads => ?_)
        (fun name given same place argument found spreads => ?_) fun part mem => ?_
      · rw [shape, Connective.operands?_mapTypes] at combined
        obtain ⟨before, all, rfl⟩ := Option.map_eq_some_iff.mp combined
        obtain ⟨item, listed, rfl⟩ := List.mem_map.mp mem
        rw [Bindings.inside_nil] at spreads
        exact operands before all item listed (spreads.of_substitute carry)
      · rw [shape] at same
        obtain ⟨before, written, rfl⟩ := TypeShape.eq_reference_of_mapTypes same
        rw [List.getElem?_map] at found
        obtain ⟨argument, listed, rfl⟩ := Option.map_eq_some_iff.mp found
        rw [Bindings.inside_nil] at spreads
        exact arguments name before written place argument listed (spreads.of_substitute carry)
      · rw [shape, TypeShape.parts_mapTypes] at mem
        obtain ⟨part, listed, rfl⟩ := List.mem_map.mp mem
        exact ih part listed (carry.without part.parameters)

/-- Contained types stay flat with types in place of type parameters that may be there. -/
theorem kept_flat (connective : Connective) (admits : String → Nat → Prop) :
    (flat connective).Kept fun shape bindings => ∃ inside outside : Width,
      (TypeExpr.unwritten shape).Contained connective admits inside ∧
        bindings.Carry connective admits inside outside where
  shape := by
    rintro shape bindings ⟨inside, outside, contained, carry⟩ _ items combined item mem
    rw [Connective.operands?_mapTypes] at combined
    obtain ⟨before, all, rfl⟩ := Option.map_eq_some_iff.mp combined
    obtain ⟨item, listed, rfl⟩ := List.mem_map.mp mem
    rw [Bindings.inside_nil]
    cases again : connective.operands? (item.substitute bindings).shape with
    | none => rfl
    | some further =>
      cases contained with
      | intro operands arguments parts =>
        have spreads : (item.substitute bindings).Spreads connective outside :=
          .inl (Option.isSome_iff_exists.mpr ⟨further, again⟩)
        exact absurd (spreads.of_substitute carry) (operands before all item listed)
  form _ := trivial
  parts := by
    rintro shape bindings ⟨inside, outside, contained, carry⟩ part mem
    exact ⟨inside.without part.parameters, outside.without part.parameters,
      (contained.part part mem).of_shape rfl, carry.without part.parameters⟩

/-- Contained flat types stay flat with flat types in place of type parameters that may be there. -/
theorem TypeExpr.Obeys.substitute_flat (h : type.Obeys (flat connective))
    (contained : type.Contained connective admits inside)
    (carry : bindings.Carry connective admits inside outside)
    (bound : bindings.Obey (flat connective)) : (type.substitute bindings).Obeys
    (flat connective) :=
  h.substitute (kept_flat connective admits) ⟨inside, outside, contained.of_shape rfl, carry⟩ bound

end TypeAtlas
