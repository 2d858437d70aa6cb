import Mathlib.Tactic.SplitIfs
import TypeAtlas.Declarations.Inheritance
import TypeAtlas.Declarations.OfTree
import TypeAtlas.Declarations.Scope
import TypeAtlas.Proofs.Types.Bare

/-!
# Declarations of any kind

Interfaces, aliases, classes and enumerations have a name, and all but the last have type
parameters, supertypes and members, be there none of them (`Declaration.members` and its like). What
a name passes on is from one of them (`Declarations.bequest_cases`).

An interface, a class and an alias of an object type have the members that the parts of their bodies
declare (`Node.memberParts`), put together by name (`Node.members_of_toDeclaration?`). What all
parts of bodies have in common is therefore said once for all declarations.
-/

set_option autoImplicit false

namespace TypeAtlas

/-! ### Declarations of any kind -/

namespace Declaration

/-- What kind of thing is declared. -/
def kind : Declaration → DeclarationKind
  | .interface _ => .interfaceDecl
  | .typeAlias _ => .aliasDecl
  | .class _ => .classDecl
  | .enum _ => .enumDecl

/-- The name that is declared. -/
def name : Declaration → String
  | .interface decl => decl.name
  | .typeAlias decl => decl.name
  | .class decl => decl.name
  | .enum decl => decl.name

/-- The type parameters of a declaration. -/
def typeParameters : Declaration → List TypeParameter
  | .interface decl => decl.typeParameters
  | .typeAlias decl => decl.typeParameters
  | .class decl => decl.typeParameters
  | .enum _ => []

/-- The supertypes whose members a declaration inherits. -/
def bases : Declaration → List TypeExpr
  | .interface decl => decl.bases
  | .class decl => decl.base.toList
  | .typeAlias _ | .enum _ => []

/-- The members of a declaration: those of an interface, of a class, or of an object type that an
alias stands for. -/
def members : Declaration → List Member
  | .interface decl => decl.members
  | .typeAlias decl =>
    match decl.declared.shape with
    | .object members _ => members
    | _ => []
  | .class decl => decl.members
  | .enum _ => []

end Declaration

/-- A declaration passes on members that it has. -/
structure Bequest.IsFrom (bequest : Bequest) (entry : Declaration) : Prop where
  typeParameters : bequest.typeParameters = entry.typeParameters
  members : ∀ member ∈ bequest.members, member ∈ entry.members
  bases : bequest.bases = entry.bases

namespace Declarations

/-- A declaration is one of those there are. -/
def Has (decls : Declarations) : Declaration → Prop
  | .interface decl => decl ∈ decls.interfaces
  | .typeAlias decl => decl ∈ decls.aliases
  | .class decl => decl ∈ decls.classes
  | .enum decl => decl ∈ decls.enums

/-- What holds of the declarations of each kind holds of all. -/
theorem forall_has_iff {decls : Declarations} {holds : Declaration → Prop} :
    (∀ entry, decls.Has entry → holds entry) ↔
      (∀ decl ∈ decls.interfaces, holds (.interface decl)) ∧
        (∀ decl ∈ decls.aliases, holds (.typeAlias decl)) ∧
          (∀ decl ∈ decls.classes, holds (.class decl)) ∧
            ∀ decl ∈ decls.enums, holds (.enum decl) := by
  refine ⟨fun h => ⟨fun decl => h (.interface decl), fun decl => h (.typeAlias decl),
    fun decl => h (.class decl), fun decl => h (.enum decl)⟩, ?_⟩
  rintro ⟨interfaces, aliases, classes, enums⟩ (decl | decl | decl | decl)
  · exact interfaces decl
  · exact aliases decl
  · exact classes decl
  · exact enums decl

/-- What kind of declaration of a name passes its members on. -/
def passingKind (decls : Declarations) (name : String) : DeclarationKind :=
  if (decls.interface? name).isSome then .interfaceDecl
  else if (decls.class? name).isSome then .classDecl
  else .aliasDecl

/-- What a name passes on is nothing, or it is from the declaration of the name that passes members
on. -/
theorem bequest_cases (decls : Declarations) (name : String) :
    decls.bequest name = ⟨[], [], []⟩ ∨ ∃ entry, decls.Has entry ∧
      entry.kind = decls.passingKind name ∧ entry.name = name ∧
        (decls.bequest name).IsFrom entry := by
  unfold bequest bequest? passingKind
  cases isInterface : decls.interface? name with
  | some decl =>
    exact .inr ⟨.interface decl, (Declarations.mem_of_interface? isInterface).1, rfl,
      (Declarations.mem_of_interface? isInterface).2,
      rfl, fun _ mem => (List.mem_filter.mp mem).1, rfl⟩
  | none =>
    cases isClass : decls.class? name with
    | some decl =>
      exact .inr ⟨.class decl, (Declarations.mem_of_class? isClass).1, rfl,
        (Declarations.mem_of_class? isClass).2,
        rfl, fun _ mem => (List.mem_filter.mp mem).1, rfl⟩
    | none =>
      cases isAlias : decls.alias? name with
      | none => exact .inl rfl
      | some decl =>
        simp only
        split
        · rename_i members signatures shape
          refine .inr ⟨.typeAlias decl, (Declarations.mem_of_alias? isAlias).1, rfl,
            (Declarations.mem_of_alias? isAlias).2, rfl, fun member mem => ?_, rfl⟩
          simpa [Declaration.members, shape] using mem
        · exact .inl rfl

/-- A member that a name passes on is one of a declaration of this name and of the kind that passes
on. -/
theorem exists_of_mem_bequest {decls : Declarations} {name : String} {member : Member}
    (h : member ∈ (decls.bequest name).members) :
    ∃ entry, decls.Has entry ∧ entry.kind = decls.passingKind name ∧ entry.name = name ∧
      member ∈ entry.members := by
  rcases decls.bequest_cases name with nothing | ⟨entry, has, kind, named, passed⟩
  · rw [nothing] at h
    cases h
  · exact ⟨entry, has, kind, named, passed.members member h⟩

end Declarations

/-! ### Bodies -/

namespace Node

/-- What the parts of the body of a declaration declare, those with errors left out. -/
def memberParts (node : Node) : List (Option Member) :=
  match node.kind with
  | .interfaceDeclaration =>
    match node.part? .body with
    | some body => body.1.toMembers
    | none => []
  | .typeAliasDeclaration =>
    match node.part? .value with
    | some value => if value.1.bare.kind = .objectType then value.1.bare.toMembers else []
    | none => []
  | .classDeclaration | .abstractClassDeclaration =>
    match node.part? .body with
    | some body => body.1.named.flatMap fun child => child.1.toClassMembers
    | none => []
  | _ => []

/-- A declaration has the members of its body. -/
theorem members_of_toDeclaration? {node : Node} {new : Declaration}
    (h : node.toDeclaration? = some new) : new.members = Member.ofParts node.memberParts := by
  unfold toDeclaration? at h
  unfold memberParts
  split at h
  case h_1 kind =>
    obtain ⟨decl, made, rfl⟩ := Option.map_eq_some_iff.mp h
    obtain ⟨name, _, rfl⟩ := Option.map_eq_some_iff.mp made
    simp only [Declaration.members, kind]
    cases node.part? .body <;> rfl
  case h_2 kind =>
    obtain ⟨decl, made, rfl⟩ := Option.map_eq_some_iff.mp h
    unfold toAlias? at made
    split at made
    · rename_i name value _ found
      split_ifs at made
      cases made
      simp only [Declaration.members, kind, found]
      split_ifs with object
      · simp only [shape_toType_of_bare_objectType object]
        rfl
      · split
        · exact absurd (value.1.readAs_bare.object _ _ (by assumption)).1 object
        · rfl
    · cases made
  case h_3 kind | h_4 kind =>
    obtain ⟨decl, made, rfl⟩ := Option.map_eq_some_iff.mp h
    obtain ⟨name, _, rfl⟩ := Option.map_eq_some_iff.mp made
    simp only [Declaration.members, kind]
    cases node.part? .body <;> rfl
  case h_5 kind =>
    obtain ⟨decl, made, rfl⟩ := Option.map_eq_some_iff.mp h
    simp only [Declaration.members, kind]
    rfl
  case h_6 => cases h

/-- The nodes that a program declares something with, in order. -/
def declaringNodes (tree : Node) : List Node :=
  if tree.kind = .program then tree.named.flatMap fun statement => statement.1.declaringParts
  else []

/-- The declarations in a tree are what its declaring nodes declare, in order. -/
theorem declarations_eq (tree : Node) :
    tree.declarations = tree.declaringNodes.filterMap (·.toDeclaration?) := by
  unfold declarations declaringNodes
  split_ifs
  · rw [List.filterMap_flatMap]
  · rfl

/-- Each declaration of a program is made by one of its nodes. -/
theorem exists_of_mem_declarations {tree : Node} {new : Declaration} (h : new ∈ tree.declarations) :
    ∃ node ∈ tree.declaringNodes, node.toDeclaration? = some new := by
  rw [declarations_eq] at h
  exact List.mem_filterMap.mp h

/-- What holds of each member that a part declares holds of each that parts of a body declare. -/
theorem forall_mem_memberParts {holds : Member → Prop} {node : Node}
    (object : ∀ (part : Node) member, part.toObjectMember? = some member → holds member)
    (inClass : ∀ (part : Node) member, some member ∈ part.toClassMembers → holds member) :
    ∀ member, some member ∈ node.memberParts → holds member := by
  have members (body : Node) (member : Member) (mem : some member ∈ body.toMembers) :
      holds member := by
    rw [toMembers] at mem
    obtain ⟨child, _, made⟩ := List.mem_map.mp mem
    split_ifs at made
    exact object child.1 member made
  intro member mem
  unfold memberParts at mem
  split at mem
  case h_1 =>
    split at mem
    · exact members _ member mem
    · cases mem
  case h_2 =>
    split at mem
    · split_ifs at mem
      · exact members _ member mem
      · cases mem
    · cases mem
  case h_3 | h_4 =>
    split at mem
    · obtain ⟨child, _, inside⟩ := List.mem_flatMap.mp mem
      exact inClass child.1 member inside
    · cases mem
  case h_5 => cases mem

end Node

end TypeAtlas
