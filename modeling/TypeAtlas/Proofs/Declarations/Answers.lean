import TypeAtlas.Proofs.Declarations.Joined
import TypeAtlas.Proofs.Declarations.Laws
import TypeAtlas.Source

/-!
# What all answers have in common

What a type stands for, what a property of it is and what an indexed access yields come from types
that are in the declarations and from the type that is asked about. So a property of types is one of
all answers if the values of aliases have it, the types of members, the parts of a type that has it,
and the unions of types that do (`Scope.Keeps`). This is one induction on the fuel of the three
questions (`Scope.keepsWithin`).

Obeying a law that stays where arguments take the place of type parameters is such a property
(`Declarations.Obey.keeps`), and so lawful declarations stay lawful when aliases are replaced by
what they stand for. Main statement: `Source.obey_declarationsOf`, for the declarations of every
tree with all that is done to them.
-/

set_option autoImplicit false

namespace TypeAtlas

/-! ### Joined types -/

/-- One of several types or an operand of one is all that is left of them, or a union of such
types is. -/
theorem TypeExpr.of_mem_join {types : List TypeExpr} : ∀ type ∈ join types,
    (∃ other ∈ types, type ∈ other.operands?.getD [other]) ∨
      ∃ items, type.shape = .union items ∧
        ∀ item ∈ items, ∃ other ∈ types, item ∈ other.operands?.getD [other] := by
  have chosen : ∀ item ∈ firstOfEachText (types.flatMap choices),
      ∃ other ∈ types, item ∈ other.choices := by
    intro item mem
    exact List.mem_flatMap.mp (mem_of_mem_firstOfEachText mem)
  intro type made
  cases join_eq_some_iff.mp made with
  | one left => exact .inl (chosen type (left ▸ List.mem_singleton_self type))
  | several left _ =>
    subst left
    exact .inr ⟨_, rfl, chosen⟩

namespace Scope

/-! ### Answers for lists -/

section lists

variable {α β : Type} {holds : β → Prop}

/-- What a step keeps holds of where steps lead. -/
theorem holds_of_settle {holds : α → Prop} {step : α → Except Unanswered (Option α)}
    (keeps : ∀ a, holds a → ∀ b, step a = .ok (some b) → holds b) :
    (n : Nat) → {a b : α} → holds a → settle step n a = .ok b → holds b
  | 0, _, _, h, led => by
      cases led
      exact h
  | n + 1, a, b, h, led => by
      rw [settle] at led
      split at led
      · cases led
      · cases led
        exact h
      · exact holds_of_settle keeps n (keeps a h _ (by assumption)) led

/-- A property of each answer is one of all answers that are collected. -/
theorem forall_mem_collect {ask : α → Except Unanswered (Option β)} :
    {list : List α} → (∀ a ∈ list, ∀ b, ask a = .ok (some b) → holds b) →
      ∀ answers, collect ask list = .ok answers → ∀ b ∈ answers, holds b
  | [], _, answers, given => by
      cases given
      exact List.forall_mem_nil _
  | a :: rest, each, answers, given => by
      obtain ⟨first, others⟩ := List.forall_mem_cons.mp each
      rw [collect] at given
      split at given
      · cases given
      · rename_i answer asked
        cases later : collect ask rest with
        | error why =>
          rw [later] at given
          cases given
        | ok more =>
          rw [later] at given
          cases given
          refine List.forall_mem_append.mpr ⟨fun b mem => ?_, forall_mem_collect others more later⟩
          exact first b (Option.mem_toList.mp mem ▸ asked)

/-- A property of each answer is one of all answers, if every question has one. -/
theorem forall_mem_collectAll {ask : α → Except Unanswered (Option β)} :
    {list : List α} → (∀ a ∈ list, ∀ b, ask a = .ok (some b) → holds b) →
      ∀ answers, collectAll ask list = .ok (some answers) → ∀ b ∈ answers, holds b
  | [], _, answers, given => by
      cases given
      exact List.forall_mem_nil _
  | a :: rest, each, answers, given => by
      obtain ⟨first, others⟩ := List.forall_mem_cons.mp each
      rw [collectAll] at given
      split at given
      · cases given
      · cases given
      · rename_i answer asked
        cases later : collectAll ask rest with
        | error why =>
          rw [later] at given
          cases given
        | ok more =>
          cases more with
          | none =>
            rw [later] at given
            cases given
          | some more =>
            rw [later] at given
            cases given
            exact List.forall_mem_cons.mpr
              ⟨first answer asked, forall_mem_collectAll others more later⟩

/-- A property of each answer is one of the first answer that is found. -/
theorem holds_of_firstAnswer {ask : α → Except Unanswered (Option β)} :
    {list : List α} → (∀ a ∈ list, ∀ b, ask a = .ok (some b) → holds b) →
      ∀ b, firstAnswer ask list = .ok (some b) → holds b
  | [], _, b, given => by cases given
  | a :: rest, each, b, given => by
      obtain ⟨first, others⟩ := List.forall_mem_cons.mp each
      rw [firstAnswer] at given
      split at given
      · cases given
      · exact holds_of_firstAnswer others b given
      · cases given
        exact first b (by assumption)

end lists

/-! ### Declared types -/

/-- What an alias stands for is declared by it. -/
theorem exists_of_mem_aliasValue? {scope : Scope} {name : String} {arguments : List TypeExpr}
    {value : TypeExpr} (h : value ∈ scope.aliasValue? name arguments) :
    ∃ decl ∈ scope.declarations.aliases, decl.name = name ∧
      decl.declared.substitute (.ofArguments decl.typeParameters arguments) = value := by
  obtain ⟨decl, found, same⟩ := Option.map_eq_some_iff.mp h
  obtain ⟨mem, named⟩ := Declarations.mem_of_alias? found
  exact ⟨decl, mem, named, same⟩

/-- The type of a member of a name is that of a member of a declaration of the name. -/
theorem exists_of_mem_memberOf? {scope : Scope} {owner name : String} {arguments : List TypeExpr}
    {value : TypeExpr} (h : value ∈ scope.memberOf? owner name arguments) :
    ∃ entry, scope.declarations.Has entry ∧ entry.name = owner ∧
      ∃ member ∈ entry.members, ∃ said ∈ member.valueType?,
        said.substitute (.ofArguments entry.typeParameters arguments) = value := by
  have among {entry : Declaration} (has : scope.declarations.Has entry) (named : entry.name = owner)
      (made : ((Member.named? entry.members name).bind (·.valueType?)).map
        (·.substitute (.ofArguments entry.typeParameters arguments)) = some value) :
      ∃ entry, scope.declarations.Has entry ∧ entry.name = owner ∧
        ∃ member ∈ entry.members, ∃ said ∈ member.valueType?,
          said.substitute (.ofArguments entry.typeParameters arguments) = value := by
    obtain ⟨said, found, same⟩ := Option.map_eq_some_iff.mp made
    obtain ⟨member, first, typed⟩ := Option.bind_eq_some_iff.mp found
    exact ⟨entry, has, named, member, List.mem_of_find?_eq_some first, said, typed, same⟩
  unfold memberOf? at h
  cases isInterface : scope.declarations.interface? owner with
  | some decl =>
    simp only [isInterface] at h
    exact @among (.interface decl) (Declarations.mem_of_interface? isInterface).1
      (Declarations.mem_of_interface? isInterface).2 h
  | none =>
    cases isClass : scope.declarations.class? owner with
    | some decl =>
      simp only [isInterface, isClass] at h
      exact @among (.class decl) (Declarations.mem_of_class? isClass).1
        (Declarations.mem_of_class? isClass).2 h
    | none =>
      simp only [isInterface, isClass] at h
      cases h

/-! ### Answers -/

/-- A property of types goes over to whatever questions about them are answered with: to what stands
for a named type, to the types of members, to the parts of a type and to joined types. -/
structure Keeps (scope : Scope) (holds : TypeExpr → Prop) : Prop where
  aliasValue : ∀ {type : TypeExpr} {name : String} {arguments : List TypeExpr}, holds type →
    type.shape = .reference name arguments →
      ∀ value ∈ scope.aliasValue? name arguments, holds value
  member : ∀ {type : TypeExpr} {owner : String} {arguments : List TypeExpr}, holds type →
    type.shape = .reference owner arguments →
      ∀ name, ∀ value ∈ scope.memberOf? owner name arguments, holds value
  property : ∀ {type : TypeExpr} {members : List Member} {signatures : List Signature},
    holds type → type.shape = .object members signatures →
      ∀ member ∈ members, ∀ value ∈ member.valueType?, holds value
  part : ∀ {type : TypeExpr}, holds type → ∀ part ∈ type.shape.parts, part.parameters = [] →
    holds part.type
  join : ∀ {types : List TypeExpr}, (∀ type ∈ types, holds type) →
    ∀ type ∈ TypeExpr.join types, holds type

variable {scope : Scope} {holds : TypeExpr → Prop}

/-- What replaces a type at once has the property, if the answers to indexed accesses have it. -/
theorem Keeps.hop (keeps : scope.Keeps holds)
    {access : TypeExpr → TypeExpr → Except Unanswered (Option TypeExpr)}
    (yields : ∀ object index, holds object → holds index → ∀ answer,
      access object index = .ok (some answer) → holds answer)
    {type : TypeExpr} (has : holds type) :
    ∀ next, scope.hop access type = .ok (some next) → holds next := by
  intro next led
  unfold Scope.hop at led
  split at led
  · rename_i name arguments shape
    exact keeps.aliasValue has shape next (Except.ok.inj led)
  · rename_i object index shape
    have parts : type.shape.parts = [⟨[], object⟩, ⟨[], index⟩] := by
      rw [shape]
      rfl
    exact yields object index (keeps.part has ⟨[], object⟩ (by simp [parts]) rfl)
      (keeps.part has ⟨[], index⟩ (by simp [parts]) rfl) next led
  · cases led

/-- What a key selects has the property, if the properties of the object and what it stands for have
it. -/
theorem Keeps.select (keeps : scope.Keeps holds)
    {property : TypeExpr → String → Except Unanswered (Option TypeExpr)}
    {apparent : TypeExpr → Except Unanswered TypeExpr} {object : TypeExpr}
    (selects : ∀ name answer, property object name = .ok (some answer) → holds answer)
    (stands : ∀ answer, apparent object = .ok answer → holds answer) (key : TypeExpr) :
    ∀ answer, select property apparent object key = .ok (some answer) → holds answer := by
  intro answer given
  unfold Scope.select at given
  split at given
  · exact selects _ answer given
  · cases shown : apparent object with
    | error why =>
      rw [shown] at given
      cases given
    | ok array =>
      rw [shown] at given
      have element : array.element? = some answer := Except.ok.inj given
      unfold TypeExpr.element? at element
      split at element
      · rename_i shape
        cases element
        exact keeps.part (stands array shown) ⟨[], answer⟩ (by rw [shape]; simp [TypeShape.parts])
          rfl
      · cases element
  · cases given

/-- With some fuel, the answers to the three questions about types that have a property have it
too. -/
structure KeepsWithin (scope : Scope) (holds : TypeExpr → Prop) (fuel : Nat) : Prop where
  apparent : ∀ type, holds type → ∀ answer, scope.apparentWithin fuel type = .ok answer →
    holds answer
  property : ∀ type, holds type → ∀ name answer,
    scope.propertyWithin fuel type name = .ok (some answer) → holds answer
  access : ∀ object index, holds object → holds index → ∀ answer,
    scope.accessWithin fuel object index = .ok (some answer) → holds answer

/-- A property is one of the type that is stood for, or of the types in it. -/
theorem KeepsWithin.propertyWithin_succ {fuel : Nat} (within : scope.KeepsWithin holds fuel)
    (keeps : scope.Keeps holds) {type : TypeExpr} (has : holds type) (name : String) :
    ∀ answer, scope.propertyWithin (fuel + 1) type name = .ok (some answer) → holds answer := by
  intro answer given
  rw [propertyWithin] at given
  split at given
  · cases given
  · rename_i shown stands
    have apparent : holds shown := within.apparent type has shown stands
    split at given
    · rename_i members signatures shape
      obtain ⟨member, found, value⟩ := Option.bind_eq_some_iff.mp (Except.ok.inj given)
      exact keeps.property apparent shape member (List.mem_of_find?_eq_some found) answer value
    · rename_i owner arguments shape
      exact keeps.member apparent shape name answer (Except.ok.inj given)
    -- the properties of the operands of a union are joined
    · rename_i items shape
      have operands : ∀ item ∈ items, holds item := fun item mem =>
        keeps.part apparent ⟨[], item⟩ (by rw [shape]; simpa [TypeShape.parts]) rfl
      cases found : collect (fun item => scope.propertyWithin fuel item name) items with
      | error why =>
        rw [found] at given
        cases given
      | ok types =>
        rw [found] at given
        have each : ∀ type ∈ types, holds type :=
          forall_mem_collect (fun item mem => within.property item (operands item mem) name) types
            found
        exact keeps.join each answer (Except.ok.inj given)
    -- of an intersection the first part with the property answers
    · rename_i items shape
      have operands : ∀ item ∈ items, holds item := fun item mem =>
        keeps.part apparent ⟨[], item⟩ (by rw [shape]; simpa [TypeShape.parts]) rfl
      exact holds_of_firstAnswer (fun item mem => within.property item (operands item mem) name)
        answer given
    · cases given

/-- An indexed access yields the properties and the elements that its keys select. -/
theorem KeepsWithin.accessWithin_succ {fuel : Nat} (within : scope.KeepsWithin holds fuel)
    (keeps : scope.Keeps holds) {object : TypeExpr} (has : holds object) (index : TypeExpr) :
    ∀ answer, scope.accessWithin (fuel + 1) object index = .ok (some answer) → holds answer := by
  intro answer given
  rw [accessWithin] at given
  split at given
  · cases given
  · rename_i keys _
    cases found : collectAll (Scope.select (scope.propertyWithin fuel) (scope.apparentWithin fuel)
        object) (keys.operands?.getD [keys]) with
    | error why =>
      rw [found] at given
      cases given
    | ok types =>
      rw [found] at given
      obtain ⟨types, rfl, joined⟩ := Option.bind_eq_some_iff.mp (Except.ok.inj given)
      have each : ∀ type ∈ types, holds type :=
        forall_mem_collectAll (fun key _ => keeps.select (within.property object has)
          (within.apparent object has) key) types found
      exact keeps.join each answer joined

/-- With any fuel, the answers to the three questions keep what the scope keeps. -/
theorem keepsWithin (keeps : scope.Keeps holds) : (fuel : Nat) → scope.KeepsWithin holds fuel
  | 0 =>
    { apparent := fun _ _ _ given => by cases given
      property := fun _ _ _ _ given => by cases given
      access := fun _ _ _ _ _ given => by cases given }
  | fuel + 1 =>
    have within := keepsWithin keeps fuel
    { apparent := fun type has answer given => by
        rw [apparentWithin] at given
        exact holds_of_settle (fun type has => keeps.hop within.access has) scope.hops has given
      property := fun _ has name => within.propertyWithin_succ keeps has name
      access := fun _ index has _ => within.accessWithin_succ keeps has index }

/-- What a type stands for has the property. -/
theorem Keeps.apparent (keeps : scope.Keeps holds) {type : TypeExpr} (has : holds type) :
    holds (scope.apparent type) := by
  unfold Scope.apparent
  split
  · rename_i answer stands
    exact (keepsWithin keeps patience).apparent type has answer stands
  · exact has

/-- What an indexed access finds has the property. -/
theorem Keeps.access (keeps : scope.Keeps holds) {type : TypeExpr} (has : holds type) :
    ∀ value ∈ scope.access? type, holds value := by
  unfold Scope.access?
  intro value made
  split at made
  · rename_i object index shape
    have parts : type.shape.parts = [⟨[], object⟩, ⟨[], index⟩] := by
      rw [shape]
      rfl
    split at made
    · rename_i found answered
      refine (keepsWithin keeps patience).access object index
        (keeps.part has ⟨[], object⟩ (by simp [parts]) rfl)
        (keeps.part has ⟨[], index⟩ (by simp [parts]) rfl) value ?_
      rw [answered]
      exact congrArg Except.ok made
    · cases made
  · cases made

end Scope

/-! ### Lawful answers -/

variable {law : TypeLaw}

/-- The value of a member has a type in it, or is a function of one of its signatures. -/
theorem Member.mem_valueType?_cases {member : Member} {type : TypeExpr}
    (h : type ∈ member.valueType?) :
    ⟨[], type⟩ ∈ member.parts ∨ ∃ signatures, member.form = .method signatures ∧
      ∃ signature ∈ signatures, type = .unwritten (.function signature) := by
  unfold valueType? at h
  rw [parts]
  split at h
  · rename_i form
    cases h
    exact .inl (by simp [form, MemberForm.parts])
  · rename_i form
    cases h
    exact .inl (by simp [form, MemberForm.parts])
  · rename_i parameter form
    obtain ⟨passed, rfl, same⟩ := Option.bind_eq_some_iff.mp h
    exact .inl (by simp [form, MemberForm.parts, same])
  · rename_i signatures form
    obtain ⟨signature, first, rfl⟩ := Option.map_eq_some_iff.mp h
    exact .inr ⟨signatures, form, signature, List.mem_of_mem_head? first, rfl⟩

/-- The type of the value of a member obeys the law that the member obeys. -/
theorem Member.Obeys.valueType? (modest : law.Modest) {member : Member} (h : member.Obeys law) :
    ∀ type ∈ member.valueType?, type.Obeys law := by
  intro type typed
  rcases member.mem_valueType?_cases typed with inside | ⟨signatures, form, signature, mem, rfl⟩
  · exact MemberForm.Obeys.inner h type (List.mem_append_right _ (List.mem_map_of_mem inside))
  · rw [Obeys, form, MemberForm.obeys_method] at h
    exact TypeExpr.obeys_iff.mpr ⟨modest.function signature, TypeShape.innerObeys_function.mpr
      (h.2 signature mem)⟩

/-- A law stays where types are put in place of type parameters, and where they are joined. -/
structure TypeLaw.Lasting (law : TypeLaw) : Prop extends law.Modest where
  kept : law.Kept fun _ _ => True
  union : ∀ items, law.shape (.union items)

/-- The operands of a type, or it alone, obey the law that the type obeys. -/
theorem TypeExpr.Obeys.operands {type : TypeExpr} (h : type.Obeys law) :
    ∀ operand ∈ type.operands?.getD [type], operand.Obeys law := by
  unfold operands?
  cases shape : type.shape
  case union items =>
    have inside := h.innerObeys
    rw [shape, TypeShape.innerObeys_union] at inside
    exact inside
  all_goals exact List.forall_mem_singleton.mpr h

namespace Declarations

variable {decls : Declarations}

/-- In place of type parameters with lawful defaults, lawful arguments keep a lasting law. -/
theorem Obey.substitute_ofArguments (lasting : law.Lasting) {parameters : List TypeParameter}
    (bounds : TypeParameter.Obey law parameters) {arguments : List TypeExpr}
    (given : ∀ argument ∈ arguments, argument.Obeys law) {type : TypeExpr} (h : type.Obeys law) :
    (type.substitute (.ofArguments parameters arguments)).Obeys law :=
  h.substitute lasting.kept trivial
    (Bindings.obey_ofArguments (lasting.obeys_keyword _) bounds given)

/-- Of lawful declarations all answers are lawful. -/
theorem Obey.keeps (lasting : law.Lasting) (h : decls.Obey law) (hops : Nat) :
    (Scope.mk decls hops).Keeps (TypeExpr.Obeys law) where
  aliasValue {type name arguments} obeys shape value made := by
    have given := obeys.innerObeys
    rw [shape, TypeShape.innerObeys_reference] at given
    obtain ⟨decl, mem, _, rfl⟩ := Scope.exists_of_mem_aliasValue? made
    have lawful := h.aliases decl mem
    exact Obey.substitute_ofArguments lasting lawful.typeParameters given lawful.declared
  member {type owner arguments} obeys shape name value made := by
    have given := obeys.innerObeys
    rw [shape, TypeShape.innerObeys_reference] at given
    obtain ⟨entry, has, _, member, mem, said, typed, rfl⟩ := Scope.exists_of_mem_memberOf? made
    exact Obey.substitute_ofArguments lasting (h.typeParameters has) given
      ((h.members has member mem).valueType? lasting.toModest said typed)
  property {type members signatures} obeys shape member mem value typed := by
    have inside := obeys.innerObeys
    rw [shape, TypeShape.innerObeys_object] at inside
    exact (inside.1 member mem).valueType? lasting.toModest value typed
  part obeys part mem _ :=
    obeys.innerObeys.inner part.type (List.mem_append_right _ (List.mem_map_of_mem mem))
  join {types} each type joined := by
    rcases TypeExpr.of_mem_join type joined with ⟨other, mem, operand⟩ | ⟨items, shape, operands⟩
    · exact (each other mem).operands type operand
    · rw [TypeExpr.obeys_iff, shape, TypeShape.innerObeys_union]
      refine ⟨lasting.union items, fun item mem => ?_⟩
      obtain ⟨other, listed, operand⟩ := operands item mem
      exact (each other listed).operands item operand

/-- What aliases stand for is made of lawful types. -/
theorem Obey.withExpandedAliases (lasting : law.Lasting) (h : decls.Obey law) (hops : Nat) :
    (decls.withExpandedAliases hops).Obey law where
  interfaces := h.interfaces
  aliases := List.forall_mem_map.mpr fun decl mem =>
    have own := h.aliases decl mem
    { own with expanded := (h.keeps lasting hops).apparent own.declared }
  classes := h.classes

end Declarations

/-- The declarations of every tree obey a lasting law that holds of what its nodes are read as, with
all that they inherit and with aliases replaced. -/
theorem Source.obey_declarationsOf (lasting : law.Lasting) {tree : Node}
    (lawful : tree.All fun inner => law.shape inner.toType.shape) (hops : Nat) :
    (declarationsOf tree hops).Obey law :=
  have read := Declarations.obey_ofList (Node.obeys_of_mem_declarations lasting.toModest lawful)
  (read.withInheritance lasting.toModest lasting.kept).withExpandedAliases lasting hops

end TypeAtlas
