import TypeAtlas.Proofs.Declarations.Fresh
import TypeAtlas.Proofs.Types.Laws

/-!
# What is read from a tree is lawful

A law that is modest demands nothing of types that are made up where none is written, and allows the
members that a body can have (`TypeLaw.Modest`). If it also holds of the shape that each node of a
tree is read as, then whatever is read from the tree obeys it (`Node.readsLawfully`): types,
signatures, and the members and type parameters that nodes declare. The proof follows the readers.
Each of them looks at smaller nodes, or at the same node with a reader that has been dealt with
before. The type of a value that has none written is lawful as well (`Node.obeys_inferredType`).
-/

set_option autoImplicit false

namespace TypeAtlas

/-! ### All nodes of a tree -/

/-- Something holds of a node and of all nodes in it. -/
inductive Node.All (holds : Node → Prop) : Node → Prop
  | intro {node : Node} (own : holds node)
      (children : ∀ child ∈ node.children, All holds child) : All holds node

namespace Node.All

variable {holds others : Node → Prop} {node : Node}

/-- What holds everywhere in a node holds of the node itself. -/
theorem own (h : node.All holds) : holds node := by
  cases h
  assumption

/-- What holds everywhere in a node holds everywhere in its children. -/
theorem children (h : node.All holds) : ∀ child ∈ node.children, child.All holds := by
  cases h
  assumption

/-- What holds of all nodes in any node holds of all nodes. -/
theorem of_forall (each : ∀ node, holds node) (node : Node) : node.All holds :=
  .intro (each node) fun child mem =>
    have := sizeOf_lt_of_mem mem
    of_forall each child
termination_by sizeOf node

/-- What follows for each node from what holds of all nodes in it holds of all nodes too. -/
theorem imp (h : node.All holds) (follows : ∀ inner : Node, inner.All holds → others inner) :
    node.All others := by
  induction h with
  | intro own children ih => exact .intro (follows _ (.intro own children)) ih

/-- Operands are in the node that they are operands of. -/
theorem operands {node : Node} (h : node.All holds) (kind : Kind) :
    ∀ part ∈ node.operands kind, part.1.All holds := by
  rw [Node.operands]
  intro part mem
  obtain ⟨child, _, inside⟩ := List.mem_flatMap.mp mem
  have below : child.1.All holds := h.children child.1 child.2
  split_ifs at inside
  · obtain ⟨inner, opened, rfl⟩ := List.mem_map.mp inside
    exact operands below kind inner opened
  · obtain rfl := List.mem_singleton.mp inside
    exact below
termination_by sizeOf node
decreasing_by exact sizeOf_lt_of_mem child.2

end Node.All

/-- Whether a test passes for a node and for all nodes in it. -/
def Node.every (test : Node → Bool) (node : Node) : Bool :=
  test node && node.children.attach.all fun child => every test child.1
termination_by sizeOf node
decreasing_by exact sizeOf_lt_of_mem child.2

/-- A test passes for all nodes in a node exactly if it holds of all of them. -/
theorem Node.every_iff {test : Node → Bool} (node : Node) :
    node.every test ↔ node.All fun inner => test inner := by
  have below (child : { child : Node // child ∈ node.children }) :
      child.1.every test ↔ child.1.All fun inner => test inner :=
    have := sizeOf_lt_of_mem child.2
    every_iff child.1
  rw [every, Bool.and_eq_true, List.all_eq_true]
  constructor
  · exact fun ⟨own, children⟩ => .intro own fun child mem =>
      (below ⟨child, mem⟩).mp (children ⟨child, mem⟩ (List.mem_attach _ _))
  · exact fun h => ⟨h.own, fun child _ => (below child).mpr (h.children child.1 child.2)⟩
termination_by sizeOf node

/-! ### Modest laws -/

/-- A law demands nothing of the types that are made up where none is written, and it allows the
members of a body: those of parts, and overloaded ones. -/
structure TypeLaw.Modest (law : TypeLaw) : Prop where
  keyword : ∀ word, law.shape (.keyword word)
  reference : ∀ name arguments, law.shape (.reference name arguments)
  array : ∀ element, law.shape (.array element)
  function : ∀ signature, law.shape (.function signature)
  property : ∀ type, law.form (.property type)
  getter : ∀ type, law.form (.getter type)
  setter : ∀ parameter, law.form (.setter parameter)
  method : ∀ signature : Signature, signature.ofMember = true → law.form (.method [signature])
  overloaded : ∀ signatures more : List Signature, law.form (.method signatures) →
    law.form (.method (signatures ++ more.map fun signature => { signature with ofMember := false }))

namespace TypeLaw.Modest

variable {law : TypeLaw}

/-- A keyword that is made up obeys a modest law. -/
theorem obeys_keyword (modest : law.Modest) (word : String) :
    (TypeExpr.keyword word).Obeys law :=
  TypeExpr.obeys_iff.mpr ⟨modest.keyword word, TypeShape.innerObeys_keyword⟩

/-- A named type that is made up obeys a modest law if its arguments do. -/
theorem obeys_namedType (modest : law.Modest) {name : String} {arguments : List TypeExpr}
    (given : ∀ type ∈ arguments, type.Obeys law) : (TypeExpr.reference name arguments).Obeys law :=
  TypeExpr.obeys_iff.mpr ⟨modest.reference name arguments, TypeShape.innerObeys_reference.mpr given⟩

end TypeLaw.Modest

/-! ### Members of a body -/

namespace Member

/-- A member with the signatures of a later one of the same body, if both are methods. -/
def overloaded (first later : Member) : Member :=
  match first.form, later.form with
  | .method signatures, .method more =>
    { first with
      form := .method (signatures ++ more.map fun signature =>
        { signature with ofMember := false }) }
  | _, _ => first

/-- Pushing a member adds it by its name. -/
theorem pushTo_eq (member : Member) (members : List Member) :
    member.pushTo members = addNamed (·.name) overloaded member members := by
  induction members with
  | nil => rfl
  | cons first rest ih =>
    rw [pushTo, addNamed, ih]
    split_ifs
    · unfold overloaded
      cases first.form <;> cases member.form <;> rfl
    · rfl

/-- A member keeps its name when it is overloaded. -/
theorem name_overloaded (first later : Member) : (first.overloaded later).name = first.name := by
  unfold overloaded
  split <;> rfl

variable {law : TypeLaw}

/-- Lawful members of one name are lawful as one overloaded member. -/
theorem Obeys.overloaded (modest : law.Modest) {first later : Member} (h : first.Obeys law)
    (hl : later.Obeys law) : (first.overloaded later).Obeys law := by
  unfold Member.overloaded
  split
  · rename_i signatures more isMethod also
    rw [Member.Obeys, isMethod, MemberForm.obeys_method] at h
    rw [Member.Obeys, also, MemberForm.obeys_method] at hl
    rw [Member.Obeys, MemberForm.obeys_method, List.forall_mem_append, List.forall_mem_map]
    exact ⟨modest.overloaded signatures more h.1, h.2, hl.2⟩
  · exact h

/-- If all parts declare lawful members, so are the members made of the parts. -/
theorem obeys_of_mem_ofParts (modest : law.Modest) {parts : List (Option Member)}
    (h : ∀ member, some member ∈ parts → member.Obeys law) :
    ∀ member ∈ ofParts parts, member.Obeys law := by
  unfold ofParts
  refine List.foldlRecOn (motive := fun members : List Member => ∀ member ∈ members,
    member.Obeys law) parts _ (List.forall_mem_nil _) ?_
  intro members all part mem
  cases part with
  | none => exact all
  | some member =>
    simp only [pushTo_eq]
    exact forall_mem_addNamed (fun _ each => each.overloaded modest (h member mem))
      (h member mem) all

end Member

/-! ### Readers of types -/

namespace Node

variable {law : TypeLaw}

/-- The member of a node has the form that it is given. -/
theorem form_of_toMember? {node : Node} {form : MemberForm} {member : Member}
    (h : node.toMember? form = some member) : member.form = form := by
  unfold toMember? at h
  split at h
  · split_ifs at h
    cases h
    rfl
  · cases h

/-- A member that a node declares with a lawful form is lawful. -/
theorem obeys_toMember? {node : Node} {form : MemberForm} (h : form.Obeys law) :
    ∀ member ∈ node.toMember? form, member.Obeys law := by
  intro member made
  rw [Member.Obeys, form_of_toMember? made]
  exact h

/-- What a method returns is annotated, or a type of the language, or the promise of one of
these. -/
theorem obeys_toMethod? (modest : law.Modest) {node : Node} {signature : Signature}
    (h : signature.Obeys law) : ∀ member ∈ node.toMethod? signature, member.Obeys law := by
  obtain ⟨bounds, parameters, annotated⟩ := Signature.obeys_iff.mp h
  unfold toMethod?
  simp only
  -- what is annotated, or else inferred from the body
  have returns : ∀ type ∈ (signature.returnType <|> (node.part? .body).map fun body =>
      inferredReturn body.1), type.Obeys law := by
    refine forall_mem_orElse annotated fun type inferred => ?_
    obtain ⟨body, _, rfl⟩ := Option.map_eq_some_iff.mp inferred
    exact modest.obeys_keyword _
  generalize (signature.returnType <|> (node.part? .body).map fun body =>
    inferredReturn body.1) = returned at returns ⊢
  -- and what becomes of it in an asynchronous function
  have promises : ∀ type ∈ (if node.modifiers.isAsync &&
      !(returned.bind (·.referenceName?) == some "Promise") then
        some (TypeExpr.reference "Promise" [returned.getD (.keyword "any")]) else returned),
      type.Obeys law := by
    intro type made
    split_ifs at made
    · cases made
      refine modest.obeys_namedType (List.forall_mem_singleton.mpr ?_)
      cases returned with
      | none => exact modest.obeys_keyword _
      | some type => exact returns type rfl
    · exact returns type made
  generalize (if node.modifiers.isAsync &&
    !(returned.bind (·.referenceName?) == some "Promise") then
      some (TypeExpr.reference "Promise" [returned.getD (.keyword "any")]) else returned) =
    promised at promises ⊢
  refine obeys_toMember? ?_
  split_ifs
  · exact MemberForm.obeys_setter.mpr ⟨modest.setter _, fun parameter first =>
      parameters parameter (List.mem_of_mem_head? first)⟩
  · exact MemberForm.obeys_getter.mpr ⟨modest.getter _, promises⟩
  · exact MemberForm.obeys_method.mpr ⟨modest.method _ rfl, List.forall_mem_singleton.mpr
      (Signature.obeys_iff.mpr ⟨bounds, parameters, promises⟩)⟩

variable (law) in
/-- What is read from a node obeys a law, whatever it is read as. -/
structure ReadsLawfully (node : Node) : Prop where
  toTypes : ∀ type ∈ node.toTypes, type.Obeys law
  toFirstType? : ∀ type ∈ node.toFirstType?, type.Obeys law
  toTypeParameter? : ∀ parameter ∈ node.toTypeParameter?, ∀ type ∈ parameter.types,
    type.Obeys law
  toTypeParameterList : TypeParameter.Obey law node.toTypeParameterList
  toTypeParameters : TypeParameter.Obey law node.toTypeParameters
  toParameter? : ∀ parameter ∈ node.toParameter?, ∀ type ∈ parameter.type, type.Obeys law
  toParameters : ∀ parameter ∈ node.toParameters, ∀ type ∈ parameter.type, type.Obeys law
  toSignature : ∀ hasBody, (node.toSignature hasBody).Obeys law
  toObjectMember? : ∀ member ∈ node.toObjectMember?, member.Obeys law
  toMembers : ∀ member, some member ∈ node.toMembers → member.Obeys law
  toCallSignatures : ∀ signature ∈ node.toCallSignatures, signature.Obeys law
  toType : node.toType.Obeys law
  toTupleItem : node.toTupleItem.Obeys law
  toAscription? : ∀ type ∈ node.toAscription?, type.Obeys law

section below

variable {node : Node} (below : ∀ child ∈ node.children, child.ReadsLawfully law)

include below

/-- The types that are read from the parts of a node are lawful. -/
theorem obeys_toTypes : ∀ type ∈ node.toTypes, type.Obeys law := by
  rw [toTypes, List.forall_mem_map]
  exact fun item _ => (below item.1 item.2).toType

/-- The first type that is read from the parts of a node is lawful. -/
theorem obeys_toFirstType? : ∀ type ∈ node.toFirstType?, type.Obeys law := by
  rw [toFirstType?]
  intro type made
  obtain ⟨first, _, rfl⟩ := Option.map_eq_some_iff.mp made
  exact (below first.1 first.2).toType

/-- The bound and the default of a type parameter are lawful. -/
theorem obeys_toTypeParameter? :
    ∀ parameter ∈ node.toTypeParameter?, ∀ type ∈ parameter.types, type.Obeys law := by
  rw [toTypeParameter?]
  intro parameter made type mem
  split at made
  · split at made
    · cases made
      rcases List.mem_append.mp mem with bound | fallback
      · simp only at bound
        split at bound
        · rename_i bounded _
          exact (below bounded.1 bounded.2).toFirstType? type (Option.mem_toList.mp bound)
        · cases bound
      · simp only at fallback
        split at fallback
        · rename_i value _
          exact (below value.1 value.2).toFirstType? type (Option.mem_toList.mp fallback)
        · cases fallback
    · cases made
  · cases made

/-- The bounds and defaults in a list of type parameters are lawful. -/
theorem obey_toTypeParameterList : TypeParameter.Obey law node.toTypeParameterList := by
  rw [toTypeParameterList]
  intro parameter mem
  obtain ⟨child, _, made⟩ := List.mem_filterMap.mp mem
  exact (below child.1 child.2).toTypeParameter? parameter made

/-- The bounds and defaults of the type parameters that a node declares are lawful. -/
theorem obey_toTypeParameters : TypeParameter.Obey law node.toTypeParameters := by
  rw [toTypeParameters]
  split
  · rename_i parameters _
    exact (below parameters.1 parameters.2).toTypeParameterList
  · exact List.forall_mem_nil _

/-- The type of a parameter is lawful. -/
theorem obeys_toParameter? :
    ∀ parameter ∈ node.toParameter?, ∀ type ∈ parameter.type, type.Obeys law := by
  rw [toParameter?]
  intro parameter made type typed
  split at made
  · cases made
    simp only at typed
    split at typed
    · rename_i ascription _
      exact (below ascription.1 ascription.2).toAscription? type typed
    · cases typed
  · cases made

/-- The types of the parameters of a function are lawful. -/
theorem obeys_toParameters :
    ∀ parameter ∈ node.toParameters, ∀ type ∈ parameter.type, type.Obeys law := by
  rw [toParameters]
  intro parameter mem
  obtain ⟨child, _, made⟩ := List.mem_filterMap.mp mem
  exact (below child.1 child.2).toParameter? parameter made

/-- A signature is lawful, also if its returned type is inferred from a body. -/
theorem obeys_toSignature (hasBody : Bool) : (node.toSignature hasBody).Obeys law := by
  rw [toSignature, Signature.obeys_iff]
  refine ⟨obey_toTypeParameters below, ?_, ?_⟩
  · simp only
    split
    · rename_i parameters _
      exact (below parameters.1 parameters.2).toParameters
    · split
      · rintro parameter mem type typed
        obtain rfl := List.mem_singleton.mp mem
        cases typed
      · exact List.forall_mem_nil _
  · intro type typed
    simp only at typed
    split at typed
    · rename_i returned _
      split_ifs at typed
      · cases typed
        exact (below returned.1 returned.2).toType
      · exact (below returned.1 returned.2).toAscription? type typed
    · cases typed

/-- A member of an object type is lawful. -/
theorem obeys_toObjectMember? (modest : law.Modest) :
    ∀ member ∈ node.toObjectMember?, member.Obeys law := by
  rw [toObjectMember?]
  split
  · refine obeys_toMember? (MemberForm.obeys_property.mpr ⟨modest.property _, fun type typed => ?_⟩)
    split at typed
    · rename_i ascription _
      exact (below ascription.1 ascription.2).toAscription? type typed
    · cases typed
  · exact obeys_toMethod? modest (obeys_toSignature below false)
  · intro member made
    cases made

/-- The members in the body of an object type are lawful. -/
theorem obeys_of_mem_toMembers :
    ∀ member, some member ∈ node.toMembers → member.Obeys law := by
  rw [toMembers]
  intro member mem
  obtain ⟨child, _, made⟩ := List.mem_map.mp mem
  split_ifs at made
  exact (below child.1 child.2).toObjectMember? member made

/-- The call signatures of an object type are lawful. -/
theorem obeys_toCallSignatures : ∀ signature ∈ node.toCallSignatures, signature.Obeys law := by
  rw [toCallSignatures]
  intro signature mem
  obtain ⟨child, _, made⟩ := List.mem_filterMap.mp mem
  split_ifs at made
  cases made
  exact (below child.1 child.2).toSignature false

/-- All that is in the type of a node is lawful if all below the node is. -/
theorem innerObeys_toType (modest : law.Modest)
    (operands : ∀ kind, ∀ part ∈ node.operands kind, part.1.ReadsLawfully law) :
    node.toType.shape.InnerObeys law := by
  have first (inner : { child : Node // child ∈ node.children }) : inner.1.toType.Obeys law :=
    (below inner.1 inner.2).toType
  rw [toType]
  split
  -- a type in parentheses is the type itself
  case h_1 =>
    split
    · exact (first _).innerObeys
    · exact TypeShape.innerObeys_unsupported
  -- one after `readonly` keeps its shape
  case h_2 =>
    split
    · exact (first _).innerObeys
    · exact TypeShape.innerObeys_unsupported
  -- a named type with arguments
  case h_7 =>
    simp only [TypeExpr.written, TypeShape.innerObeys_reference]
    split
    · rename_i arguments _
      exact (below arguments.1 arguments.2).toTypes
    · exact List.forall_mem_nil _
  -- an array
  case h_8 =>
    split
    · exact TypeShape.innerObeys_array.mpr (first _)
    · exact TypeShape.innerObeys_unsupported
  -- a tuple
  case h_9 =>
    simp only [TypeExpr.written, TypeShape.innerObeys_tuple, List.forall_mem_map]
    exact fun item _ => (below item.1 item.2).toTupleItem
  -- a union, whose operands may lie deeper than its children
  case h_10 =>
    simp only [TypeExpr.written, TypeShape.innerObeys_union, List.forall_mem_map]
    exact fun item mem => (operands _ item mem).toType
  case h_11 =>
    simp only [TypeExpr.written, TypeShape.innerObeys_intersection, List.forall_mem_map]
    exact fun item mem => (operands _ item mem).toType
  case h_12 => exact TypeShape.innerObeys_function.mpr (obeys_toSignature below false)
  -- an object type
  case h_13 =>
    exact TypeShape.innerObeys_object.mpr
      ⟨Member.obeys_of_mem_ofParts modest (obeys_of_mem_toMembers below),
        obeys_toCallSignatures below⟩
  -- an indexed access
  case h_14 =>
    split
    · exact TypeShape.innerObeys_indexedAccess.mpr ⟨first _, first _⟩
    · exact TypeShape.innerObeys_unsupported
  -- a literal
  case h_15 => split_ifs <;> simp [TypeExpr.written]
  all_goals simp [TypeExpr.written]

/-- An item of a tuple is lawful if the type of its node is. -/
theorem obeys_toTupleItem (modest : law.Modest) (itself : node.toType.Obeys law) :
    node.toTupleItem.Obeys law := by
  rw [toTupleItem]
  split
  case h_3 => exact itself
  all_goals
    split
    · rename_i inner _
      exact (below inner.1 inner.2).toType
    · exact modest.obeys_keyword _

/-- A type that is ascribed is lawful if the type of its node is. -/
theorem obeys_toAscription? (modest : law.Modest) (itself : node.toType.Obeys law) :
    ∀ type ∈ node.toAscription?, type.Obeys law := by
  rw [toAscription?]
  intro type made
  split at made
  · obtain ⟨inner, _, rfl⟩ := Option.map_eq_some_iff.mp made
    exact (below inner.1 inner.2).toType
  · cases made
    exact TypeExpr.obeys_iff.mpr ⟨modest.keyword _, TypeShape.innerObeys_keyword⟩
  · cases made
    exact modest.obeys_keyword _
  · cases made
    exact itself

end below

/-- Where a law holds of the shape that each node is read as, whatever is read from them obeys
it. -/
theorem readsLawfully (modest : law.Modest) (node : Node)
    (lawful : node.All fun inner => law.shape inner.toType.shape) : node.ReadsLawfully law :=
  have below (child : Node) (mem : child ∈ node.children) : child.ReadsLawfully law :=
    have := sizeOf_lt_of_mem mem
    readsLawfully modest child (lawful.children child mem)
  have operands (kind : Kind) (part : { part : Node // sizeOf part < sizeOf node })
      (mem : part ∈ node.operands kind) : part.1.ReadsLawfully law :=
    have := part.2
    readsLawfully modest part.1 (lawful.operands kind part mem)
  have itself : node.toType.Obeys law :=
    TypeExpr.obeys_iff.mpr ⟨lawful.own, innerObeys_toType below modest operands⟩
  { toTypes := obeys_toTypes below
    toFirstType? := obeys_toFirstType? below
    toTypeParameter? := obeys_toTypeParameter? below
    toTypeParameterList := obey_toTypeParameterList below
    toTypeParameters := obey_toTypeParameters below
    toParameter? := obeys_toParameter? below
    toParameters := obeys_toParameters below
    toSignature := obeys_toSignature below
    toObjectMember? := obeys_toObjectMember? below modest
    toMembers := obeys_of_mem_toMembers below
    toCallSignatures := obeys_toCallSignatures below
    toType := itself
    toTupleItem := obeys_toTupleItem below modest itself
    toAscription? := obeys_toAscription? below modest itself }
termination_by sizeOf node

/-! ### Types of values -/

/-- Type arguments that are written are lawful, and so are those that are not. -/
theorem obeys_getD_toTypes (modest : law.Modest) {node : Node}
    (lawful : node.All fun inner => law.shape inner.toType.shape)
    (arguments : Option { child : Node // child ∈ node.children }) :
    ∀ type ∈ (arguments.map fun list => list.1.toTypes).getD [], type.Obeys law := by
  cases arguments with
  | none => exact List.forall_mem_nil _
  | some list => exact (list.1.readsLawfully modest (lawful.children list.1 list.2)).toTypes

/-- The type of a first value is lawful. -/
theorem obeys_inferredType (modest : law.Modest) (node : Node)
    (lawful : node.All fun inner => law.shape inner.toType.shape) :
    node.inferredType.Obeys law := by
  have keyword (word : String) : (TypeExpr.keyword word).Obeys law := modest.obeys_keyword word
  have array {element : TypeExpr} (h : element.Obeys law) :
      (TypeExpr.unwritten (.array element)).Obeys law :=
    TypeExpr.obeys_iff.mpr ⟨modest.array element, TypeShape.innerObeys_array.mpr h⟩
  have first (inner : { child : Node // child ∈ node.children }) :
      inner.1.inferredType.Obeys law :=
    obeys_inferredType modest inner.1 (lawful.children inner.1 inner.2)
  obtain ⟨bounds, parameters, annotated⟩ :=
    Signature.obeys_iff.mp ((node.readsLawfully modest lawful).toSignature true)
  rw [inferredType]
  split
  -- a regular expression
  case h_6 => exact modest.obeys_namedType (List.forall_mem_nil _)
  -- what `new` makes is named by its class
  case h_9 =>
    split
    · exact modest.obeys_namedType (obeys_getD_toTypes modest lawful _)
    · exact keyword _
  -- a list is an array of what its first item is
  case h_10 =>
    split
    · exact array (first _)
    · exact array (keyword _)
  -- a function has the signature that is written, with a type that is returned in any case
  case h_11 | h_12 =>
    refine TypeExpr.obeys_iff.mpr ⟨modest.function _, TypeShape.innerObeys_function.mpr
      (Signature.obeys_iff.mpr ⟨bounds, parameters, fun type made => ?_⟩)⟩
    cases made
    split
    · exact annotated _ (by assumption)
    · exact keyword _
    · exact keyword _
  -- after `as` the type is written
  case h_13 =>
    split
    · rename_i type _ _
      exact (type.1.readsLawfully modest (lawful.children type.1 type.2)).toType
    · exact keyword _
  -- what is around a value changes nothing
  case h_14 | h_15 =>
    split
    · exact first _
    · exact keyword _
  all_goals exact keyword _
termination_by sizeOf node
decreasing_by exact sizeOf_lt_of_mem inner.2

end Node

end TypeAtlas
