import TypeAtlas.Proofs.Declarations.Acyclic
import TypeAtlas.Proofs.Types.OfTree

/-!
# Laws for all types in declarations

Declarations obey a law if all members of interfaces and classes do and all types in declarations of
any kind, however deep they are (`Declarations.Obey`). Declarations of a tree obey a modest law that
holds of what its nodes are read as (`Node.obeys_of_mem_declarations`), merging those of one name
keeps the law (`Declarations.Obey.add`), and so does inheriting if putting arguments in place of
type parameters does (`Declarations.Obey.withInheritance`).
-/

set_option autoImplicit false

namespace TypeAtlas

/-! ### Lawful declarations -/

section Obeys

variable (law : TypeLaw)

/-- The law is obeyed by all members of an interface and by all types in it. -/
structure InterfaceDecl.Obeys (decl : InterfaceDecl) : Prop where
  typeParameters : TypeParameter.Obey law decl.typeParameters
  bases : ∀ base ∈ decl.bases, base.Obeys law
  members : ∀ member ∈ decl.members, member.Obeys law

/-- The law is obeyed by all types in an alias, as it is written and with aliases replaced. -/
structure AliasDecl.Obeys (decl : AliasDecl) : Prop where
  typeParameters : TypeParameter.Obey law decl.typeParameters
  declared : decl.declared.Obeys law
  expanded : decl.expanded.Obeys law

/-- The law is obeyed by all members of a class and by all types in it. -/
structure ClassDecl.Obeys (decl : ClassDecl) : Prop where
  typeParameters : TypeParameter.Obey law decl.typeParameters
  base : ∀ base ∈ decl.base, base.Obeys law
  interfaces : ∀ type ∈ decl.interfaces, type.Obeys law
  members : ∀ member ∈ decl.members, member.Obeys law

/-- The law is obeyed by a declaration of any kind. There are no types in an enumeration. -/
def Declaration.Obeys : Declaration → Prop
  | .interface decl => decl.Obeys law
  | .typeAlias decl => decl.Obeys law
  | .class decl => decl.Obeys law
  | .enum _ => True

/-- The law is obeyed by all declarations. -/
structure Declarations.Obey (decls : Declarations) : Prop where
  interfaces : ∀ decl ∈ decls.interfaces, decl.Obeys law
  aliases : ∀ decl ∈ decls.aliases, decl.Obeys law
  classes : ∀ decl ∈ decls.classes, decl.Obeys law

end Obeys

variable {law : TypeLaw}

/-! ### Declarations of a tree -/

namespace Node

section tree

variable (modest : law.Modest) {node : Node}
  (lawful : node.All fun inner => law.shape inner.toType.shape)

include modest lawful

/-- What is read from a child is lawful if the law holds of the shape that each node of the tree is
read as. -/
theorem child_readsLawfully (child : { child : Node // child ∈ node.children }) :
    child.1.ReadsLawfully law :=
  child.1.readsLawfully modest (lawful.children child.1 child.2)

/-- An interface that a node declares obeys the law. -/
theorem obeys_toInterface? {decl : InterfaceDecl} (h : node.toInterface? = some decl) :
    decl.Obeys law := by
  have child := child_readsLawfully modest lawful
  obtain ⟨name, _, rfl⟩ := Option.map_eq_some_iff.mp h
  refine ⟨(node.readsLawfully modest lawful).toTypeParameters, ?_, ?_⟩
  · simp only [List.forall_mem_flatMap]
    intro clause _
    split_ifs
    · exact (child clause).toTypes
    · exact List.forall_mem_nil _
  · simp only
    split
    · exact Member.obeys_of_mem_ofParts modest (child _).toMembers
    · exact List.forall_mem_nil _

/-- An alias that a node declares obeys the law. -/
theorem obeys_toAlias? {decl : AliasDecl} (h : node.toAlias? = some decl) : decl.Obeys law := by
  unfold toAlias? at h
  split at h
  · rename_i value _ _
    have declared := (child_readsLawfully modest lawful value).toType
    split_ifs at h
    cases h
    exact ⟨(node.readsLawfully modest lawful).toTypeParameters, declared, declared⟩
  · cases h

/-- A property that a parameter of a constructor declares obeys the law. -/
theorem obeys_of_mem_parameterProperties {member : Member}
    (h : some member ∈ node.parameterProperties) : member.Obeys law := by
  unfold parameterProperties at h
  split at h
  · cases h
  · rename_i parameters _
    obtain ⟨child, _, same⟩ := List.mem_map.mp h
    simp only at same
    split_ifs at same
    obtain ⟨parameter, made, rfl⟩ := Option.map_eq_some_iff.mp same
    have within := lawful.children parameters.1 parameters.2
    exact MemberForm.obeys_property.mpr ⟨modest.property _,
      (child_readsLawfully modest within child).toParameter? parameter made⟩

/-- The type of a field of a class obeys the law. -/
theorem obeys_fieldType? : ∀ type ∈ node.fieldType?, type.Obeys law := by
  unfold fieldType?
  refine forall_mem_orElse ?_ fun type made => ?_
  · split
    · exact (child_readsLawfully modest lawful _).toAscription?
    · intro type made
      cases made
  · obtain ⟨value, _, rfl⟩ := Option.map_eq_some_iff.mp made
    exact obeys_inferredType modest value.1 (lawful.children value.1 value.2)

/-- A member of the body of a class obeys the law. -/
theorem obeys_of_mem_toClassMembers {member : Member} (h : some member ∈ node.toClassMembers) :
    member.Obeys law := by
  have signature (hasBody : Bool) := (node.readsLawfully modest lawful).toSignature hasBody
  unfold toClassMembers at h
  split at h
  · cases h
  · split at h
    case h_1 =>
      exact obeys_toMember?
        (MemberForm.obeys_property.mpr ⟨modest.property _, obeys_fieldType? modest lawful⟩) member
        (List.mem_singleton.mp h).symm
    case h_2 =>
      split_ifs at h
      · exact obeys_of_mem_parameterProperties modest lawful h
      · exact obeys_toMethod? modest (signature true) member (List.mem_singleton.mp h).symm
    case h_3 | h_4 =>
      exact obeys_toMethod? modest (signature false) member (List.mem_singleton.mp h).symm
    case h_5 => cases h

/-- A supertype that a node names obeys the law. -/
theorem obeys_toBase? : ∀ type ∈ node.toBase?, type.Obeys law := by
  unfold toBase?
  intro type made
  split at made
  · cases made
  · cases made
    exact TypeExpr.obeys_iff.mpr ⟨modest.reference _ _, TypeShape.innerObeys_reference.mpr
      (obeys_getD_toTypes modest lawful _)⟩

omit modest in
/-- What holds of all types in a node holds of those in its clauses of supertypes. -/
theorem all_of_mem_heritage {clause : Node} (h : clause ∈ node.heritage) :
    clause.All fun inner => law.shape inner.toType.shape := by
  obtain ⟨child, _, inside⟩ := List.mem_flatMap.mp h
  split_ifs at inside
  · obtain ⟨clause, _, rfl⟩ := List.mem_map.mp inside
    exact (lawful.children child.1 child.2).children clause.1 clause.2
  · cases inside

/-- A class that a node declares obeys the law. -/
theorem obeys_toClass? {decl : ClassDecl} (h : node.toClass? = some decl) : decl.Obeys law := by
  obtain ⟨name, _, rfl⟩ := Option.map_eq_some_iff.mp h
  refine ⟨(node.readsLawfully modest lawful).toTypeParameters, ?_, ?_, ?_⟩
  · refine List.foldlRecOn (motive := fun base : Option TypeExpr => ∀ type ∈ base,
      type.Obeys law) node.heritage _ (by simp) fun base all clause mem => ?_
    split_ifs
    · exact obeys_toBase? modest (all_of_mem_heritage lawful mem)
    · exact all
  · simp only [List.forall_mem_flatMap]
    intro clause mem
    split_ifs
    · exact (clause.readsLawfully modest (all_of_mem_heritage lawful mem)).toTypes
    · exact List.forall_mem_nil _
  · simp only
    split
    · rename_i body _
      refine Member.obeys_of_mem_ofParts modest fun member mem => ?_
      obtain ⟨child, _, inside⟩ := List.mem_flatMap.mp mem
      exact obeys_of_mem_toClassMembers modest
        ((lawful.children body.1 body.2).children child.1 child.2) inside
    · exact List.forall_mem_nil _

/-- What a node declares obeys the law. -/
theorem obeys_toDeclaration? {new : Declaration} (h : node.toDeclaration? = some new) :
    new.Obeys law := by
  unfold toDeclaration? at h
  split at h
  case h_1 =>
    obtain ⟨decl, made, rfl⟩ := Option.map_eq_some_iff.mp h
    exact obeys_toInterface? modest lawful made
  case h_2 =>
    obtain ⟨decl, made, rfl⟩ := Option.map_eq_some_iff.mp h
    exact obeys_toAlias? modest lawful made
  case h_3 | h_4 =>
    obtain ⟨decl, made, rfl⟩ := Option.map_eq_some_iff.mp h
    exact obeys_toClass? modest lawful made
  case h_5 =>
    obtain ⟨decl, made, rfl⟩ := Option.map_eq_some_iff.mp h
    trivial
  case h_6 => cases h

end tree

/-- The nodes that a program declares something with are in it. -/
theorem All.of_mem_ambientParts {holds : Node → Prop} {node part : Node} (h : node.All holds)
    (mem : part ∈ node.ambientParts) : part.All holds := by
  unfold ambientParts at mem
  split_ifs at mem
  · obtain ⟨child, _, rfl⟩ := List.mem_map.mp mem
    exact h.children child.1 child.2
  · obtain rfl := List.mem_singleton.mp mem
    exact h

/-- What holds everywhere in a node holds everywhere in the parts that declare something. -/
theorem All.of_mem_declaringParts {holds : Node → Prop} {node part : Node} (h : node.All holds)
    (mem : part ∈ node.declaringParts) : part.All holds := by
  unfold declaringParts at mem
  split_ifs at mem
  · obtain ⟨child, listed, inside⟩ := List.mem_flatMap.mp mem
    exact (h.children child (List.mem_of_mem_filter listed)).of_mem_ambientParts inside
  · exact h.of_mem_ambientParts mem

/-- Each declaration of a tree is lawful. -/
theorem obeys_of_mem_declarations (modest : law.Modest) {tree : Node}
    (lawful : tree.All fun inner => law.shape inner.toType.shape) :
    ∀ new ∈ tree.declarations, new.Obeys law := by
  intro new mem
  unfold declarations at mem
  split_ifs at mem
  · obtain ⟨statement, _, inside⟩ := List.mem_flatMap.mp mem
    obtain ⟨part, listed, made⟩ := List.mem_filterMap.mp inside
    exact obeys_toDeclaration? modest
      ((lawful.children statement.1 statement.2).of_mem_declaringParts listed) made
  · cases mem

end Node

/-! ### Merging -/

/-- Appended members are members of either list. -/
theorem Member.forall_mem_append {holds : Member → Prop} {members more : List Member}
    (h : ∀ member ∈ members, holds member) (hm : ∀ member ∈ more, holds member) :
    ∀ member ∈ append members more, holds member := by
  rw [append_eq]
  intro member mem
  rcases List.mem_append.mp mem with old | new
  · exact h member old
  · exact hm member (List.mem_of_find?_eq_some (named?_newMembers new).1)

/-- Merged members differ from others only in where they come from. -/
theorem Member.obeys_of_mem_mergedMembers {members more : List Member}
    (h : ∀ member ∈ members, member.Obeys law) (hm : ∀ member ∈ more, member.Obeys law) :
    ∀ member ∈ mergedMembers members more, member.Obeys law :=
  forall_mem_append h (List.forall_mem_map.mpr hm)

/-- Two declarations of an interface that obey the law leave one that does. -/
theorem InterfaceDecl.Obeys.merge {first later : InterfaceDecl} (h : first.Obeys law)
    (hl : later.Obeys law) : (first.merge later).Obeys law where
  typeParameters := h.typeParameters
  bases := List.forall_mem_append.mpr ⟨h.bases, hl.bases⟩
  members := Member.obeys_of_mem_mergedMembers h.members hl.members

/-- Two declarations of a class that obey the law leave one that does. -/
theorem ClassDecl.Obeys.merge {first later : ClassDecl} (h : first.Obeys law)
    (hl : later.Obeys law) : (first.merge later).Obeys law where
  typeParameters := h.typeParameters
  base := forall_mem_orElse h.base hl.base
  interfaces := List.forall_mem_append.mpr ⟨h.interfaces, hl.interfaces⟩
  members := Member.obeys_of_mem_mergedMembers h.members hl.members

namespace Declarations

variable {decls : Declarations}

/-- Adding a declaration that obeys the law leaves all obeying it. -/
theorem Obey.add (h : decls.Obey law) :
    {new : Declaration} → new.Obeys law → (decls.add new).Obey law
  | .interface decl, own =>
      have new : decl.Obeys law := own
      { h with
        interfaces := Table.forall_mem_add InterfaceDecl.name_merge
          (fun _ first => first.merge new) new h.interfaces }
  | .typeAlias decl, own =>
      have new : decl.Obeys law := own
      { h with aliases := Table.forall_mem_add _ (fun _ first => first) new h.aliases }
  | .class decl, own =>
      have new : decl.Obeys law := own
      { h with
        classes := Table.forall_mem_add ClassDecl.name_merge
          (fun _ first => first.merge new) new h.classes }
  | .enum _, _ => { h with }

/-- Lawful declarations are so once they are merged by name. -/
theorem obey_ofList {list : List Declaration} (h : ∀ new ∈ list, new.Obeys law) :
    (ofList list).Obey law := by
  have none : ({} : Declarations).Obey law :=
    ⟨List.forall_mem_nil _, List.forall_mem_nil _, List.forall_mem_nil _⟩
  unfold ofList
  refine List.foldlRecOn (motive := Obey law) list _ none ?_
  exact fun decls all new mem => all.add (h new mem)

end Declarations

/-! ### Inheritance -/

variable (law) in
/-- The law is obeyed by what a declaration passes on. -/
structure Bequest.Obeys (bequest : Bequest) : Prop where
  typeParameters : TypeParameter.Obey law bequest.typeParameters
  members : ∀ member ∈ bequest.members, member.Obeys law
  bases : ∀ base ∈ bequest.bases, base.Obeys law

/-- Inheriting changes the parts of a member only by putting arguments into them. -/
theorem Member.parts_inheritedFrom (member : Member) (owner : String) (bindings : Bindings) :
    (member.inheritedFrom owner bindings).parts = (member.substitute bindings).parts := by
  unfold inheritedFrom
  simp only
  split_ifs <;> rfl

/-- An inherited member obeys a law that is kept where its arguments are put in. -/
theorem Member.Obeys.inheritedFrom {allowed : TypeShape → Bindings → Prop}
    (kept : law.Kept allowed) {member : Member} (h : member.Obeys law) {bindings : Bindings}
    (allows : ∀ part ∈ member.parts, allowed part.type.shape (bindings.without part.parameters))
    (bound : bindings.Obey law) (owner : String) :
    (member.inheritedFrom owner bindings).Obeys law := by
  have replaced := h.substitute kept allows bound
  unfold Member.inheritedFrom
  simp only
  split_ifs
  · exact replaced
  · exact replaced

namespace Declarations

variable {decls : Declarations}

section entries

variable {entry : Declaration} (h : decls.Obey law) (has : decls.Has entry)

include h has

/-- The type parameters of a declaration obey the law. -/
theorem Obey.typeParameters : TypeParameter.Obey law entry.typeParameters := by
  cases entry with
  | interface decl => exact (h.interfaces decl has).typeParameters
  | typeAlias decl => exact (h.aliases decl has).typeParameters
  | «class» decl => exact (h.classes decl has).typeParameters
  | enum decl => exact List.forall_mem_nil _

/-- The members of a declaration obey the law. -/
theorem Obey.members : ∀ member ∈ entry.members, member.Obeys law := by
  cases entry with
  | interface decl => exact (h.interfaces decl has).members
  | typeAlias decl =>
    simp only [Declaration.members]
    split
    · rename_i members signatures shape
      have inside := (h.aliases decl has).declared.innerObeys
      rw [shape, TypeShape.innerObeys_object] at inside
      exact inside.1
    · exact List.forall_mem_nil _
  | «class» decl => exact (h.classes decl has).members
  | enum decl => exact List.forall_mem_nil _

/-- The supertypes of a declaration obey the law. -/
theorem Obey.bases : ∀ base ∈ entry.bases, base.Obeys law := by
  cases entry with
  | interface decl => exact (h.interfaces decl has).bases
  | «class» decl =>
    exact fun base mem => (h.classes decl has).base base (Option.mem_toList.mp mem)
  | typeAlias decl | enum decl => exact List.forall_mem_nil _

end entries

/-- What a name passes on obeys the law. -/
theorem Obey.bequest (h : decls.Obey law) (name : String) : (decls.bequest name).Obeys law := by
  rcases decls.bequest_cases name with nothing | ⟨entry, has, _, _, passed⟩
  · rw [nothing]
    exact ⟨List.forall_mem_nil _, List.forall_mem_nil _, List.forall_mem_nil _⟩
  · refine ⟨?_, fun member mem => h.members has member (passed.members member mem), ?_⟩
    · rw [passed.typeParameters]
      exact h.typeParameters has
    · rw [passed.bases]
      exact h.bases has

/-- A walk keeps a property of supertypes and of what stands for type parameters: arguments of a
good supertype are good to stand for the type parameters of what it names, and with them in place
its own supertypes are good. -/
theorem forall_mem_ancestors {good : TypeExpr → Prop} {fits : String → Bindings → Prop}
    (here : ∀ base name arguments, good base → base.shape = .reference name arguments →
      fits name (.ofArguments (decls.bequest name).typeParameters arguments))
    (above : ∀ name bindings, fits name bindings →
      ∀ base ∈ (decls.bequest name).bases, good (base.substitute bindings))
    {bases : List TypeExpr} {seen : List String} (all : ∀ base ∈ bases, good base) :
    ∀ ancestor ∈ decls.ancestors bases seen, fits ancestor.name ancestor.bindings := by
  fun_induction ancestors decls bases seen with
  | case1 seen => exact List.forall_mem_nil _
  | case2 base rest seen name arguments shape old ih =>
    exact ih (List.forall_mem_cons.mp all).2
  | case3 base rest seen name arguments shape new bequest bindings higher ihAbove _ =>
    rename_i ihRest
    obtain ⟨first, others⟩ := List.forall_mem_cons.mp all
    have met : fits name bindings := here base name arguments first shape
    rw [List.forall_mem_append, List.forall_mem_cons]
    exact ⟨⟨met, ihAbove (List.forall_mem_map.mpr (above name bindings met))⟩, ihRest others⟩
  | case4 base rest seen shape ih => exact ih (List.forall_mem_cons.mp all).2

section withInheritance

variable (modest : law.Modest) (kept : law.Kept fun _ _ => True)

include modest kept

/-- What is inherited from supertypes that obey a lasting law obeys it. -/
theorem Obey.inheritedMembers (h : decls.Obey law) (name : String) {bases : List TypeExpr}
    (lawful : ∀ base ∈ bases, base.Obeys law) :
    ∀ member ∈ decls.inheritedMembers name bases, member.Obeys law := by
  have bound : ∀ ancestor ∈ decls.ancestors bases [name], ancestor.bindings.Obey law := by
    refine @forall_mem_ancestors decls (TypeExpr.Obeys law) (fun _ bindings => bindings.Obey law)
      (fun base name arguments obeys shape => ?_) (fun name bindings fits base mem => ?_) _ _ lawful
    · have given := obeys.innerObeys
      rw [shape, TypeShape.innerObeys_reference] at given
      exact Bindings.obey_ofArguments (modest.obeys_keyword _) (h.bequest name).typeParameters given
    · exact ((h.bequest name).bases base mem).substitute kept trivial fits
  unfold Declarations.inheritedMembers
  rw [List.forall_mem_flatMap]
  intro ancestor met
  rw [passedOn, List.forall_mem_map]
  intro member mem
  exact ((h.bequest ancestor.name).members member mem).inheritedFrom kept (fun _ _ => trivial)
    (bound ancestor met) ancestor.name

/-- Inheriting adds members with arguments in place of type parameters. -/
theorem Obey.withInheritance (h : decls.Obey law) : decls.withInheritance.Obey law where
  interfaces := List.forall_mem_map.mpr fun decl mem =>
    have own := h.interfaces decl mem
    { own with
      members := Member.forall_mem_append own.members
        (h.inheritedMembers modest kept decl.name own.bases) }
  aliases := h.aliases
  classes := List.forall_mem_map.mpr fun decl mem =>
    have own := h.classes decl mem
    { own with
      members := Member.forall_mem_append own.members
        (h.inheritedMembers modest kept decl.name fun base given =>
          own.base base (Option.mem_toList.mp given)) }

end withInheritance

end Declarations

end TypeAtlas
