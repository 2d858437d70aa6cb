import Mathlib.Data.List.Forall2
import TypeAtlas.Proofs.Declarations.Ancestry
import TypeAtlas.Proofs.Declarations.Fresh
import TypeAtlas.Proofs.Declarations.Members

/-!
# What a declaration inherits

Members are added unless their name is taken, so of several with one name the first is kept
(`Member.named?_newMembers`). The members at hand come from the supertypes in the order of the walk,
and what is kept of a name is therefore the member of the first declaration in that order that has
it (`Declarations.fromFirst_of_named?`). Inheriting leaves the name, the form, the marks and the
stretch of a member as they were written (`Member.inheritedAs_inheritedFrom`).

Main statement: `Declarations.isCompletedBy_withInheritance`. The members of every interface and
class stay, and it gains one member for each name that it does not have and that some declaration
above it has. What it asks of the declarations, that nothing has been inherited yet, is so for those
of every tree (`Declarations.fresh_ofList_declarations`).
-/

set_option autoImplicit false

namespace TypeAtlas

/-! ### Members as they are inherited -/

/-- The forms of members, without the types in them. -/
inductive FormKind where
  | property | method | getter | setter
deriving DecidableEq, Repr

/-- The form without the types in it. -/
def MemberForm.kind : MemberForm → FormKind
  | .property _ => .property
  | .method _ => .method
  | .getter _ => .getter
  | .setter _ => .setter

namespace Member

/-- Two members agree in everything but their types and where they come from. -/
structure Alike (member other : Member) : Prop where
  name : member.name = other.name
  kind : member.form.kind = other.form.kind
  optional : member.optional = other.optional
  readonly : member.readonly = other.readonly
  span : member.span = other.span

/-- A member is inherited as it was written in the declaration of its owner. -/
structure InheritedAs (member written : Member) (owner : String) : Prop where
  alike : member.Alike written
  origin : member.origin = .inherited owner

/-- Putting types into a member changes nothing but types in it. -/
theorem alike_of_replaced? {bindings : Bindings} {member new : Member}
    (h : member.replaced? bindings = some new) :
    new.Alike member ∧ new.origin = member.origin := by
  obtain ⟨name, optional, readonly, form, span, origin⟩ := member
  unfold replaced? at h
  obtain ⟨newForm, formed, rfl⟩ := Option.map_eq_some_iff.mp h
  refine ⟨⟨rfl, ?_, rfl, rfl, rfl⟩, rfl⟩
  split at formed
  · cases formed
  · cases formed
  · cases formed
  · cases formed
  all_goals
    obtain ⟨new, _, rfl⟩ := Option.map_eq_some_iff.mp formed
    rfl

/-- Replacing type parameters changes nothing but types. -/
theorem alike_substitute (bindings : Bindings) (member : Member) :
    (member.substitute bindings).Alike member ∧
      (member.substitute bindings).origin = member.origin := by
  unfold substitute
  cases h : member.replaced? bindings with
  | none => exact ⟨⟨rfl, rfl, rfl, rfl, rfl⟩, rfl⟩
  | some new => exact alike_of_replaced? h

/-- A member is inherited under its own name. -/
theorem name_inheritedFrom (owner : String) (bindings : Bindings) (member : Member) :
    (member.inheritedFrom owner bindings).name = member.name := by
  unfold inheritedFrom
  simp only
  split_ifs
  · exact (member.alike_substitute bindings).1.name
  · exact (member.alike_substitute bindings).1.name

/-- A member that has not been inherited before is inherited as it was written. -/
theorem inheritedAs_inheritedFrom {member : Member} (fresh : member.isInherited = false)
    (owner : String) (bindings : Bindings) :
    (member.inheritedFrom owner bindings).InheritedAs member owner := by
  obtain ⟨alike, origin⟩ := member.alike_substitute bindings
  have still : (member.substitute bindings).isInherited = false := by
    rw [← fresh, isInherited, isInherited, origin]
  unfold inheritedFrom
  simp only [still]
  exact ⟨⟨alike.name, alike.kind, alike.optional, alike.readonly, alike.span⟩, rfl⟩

end Member

namespace Declarations

/-! ### Members as they are written -/

/-- The members that the declaration of a name has: an interface, else a class, else an alias of an
object type. -/
def writtenMembers (decls : Declarations) (name : String) : List Member :=
  match decls.interface? name, decls.class? name, decls.alias? name with
  | some decl, _, _ => decl.members
  | none, some decl, _ => decl.members
  | none, none, some decl =>
    match decl.declared.shape with
    | .object members _ => members
    | _ => []
  | none, none, none => []

variable {decls : Declarations}

/-- As long as nothing has been inherited, all members of a name are its own. -/
theorem Fresh.writtenMembers (h : decls.Fresh) {name : String} {member : Member}
    (mem : member ∈ decls.writtenMembers name) : member.isInherited = false := by
  unfold Declarations.writtenMembers at mem
  cases isInterface : decls.interface? name with
  | some decl =>
    simp only [isInterface] at mem
    exact h.interfaces decl (Declarations.mem_of_interface? isInterface).1 member mem
  | none =>
    cases isClass : decls.class? name with
    | some decl =>
      simp only [isInterface, isClass] at mem
      exact h.classes decl (Declarations.mem_of_class? isClass).1 member mem
    | none =>
      cases isAlias : decls.alias? name with
      | some decl =>
        simp only [isInterface, isClass, isAlias] at mem
        split at mem
        case h_1 members signatures shape =>
          exact h.aliases decl (Declarations.mem_of_alias? isAlias).1 members signatures shape
            member mem
        case h_2 => cases mem
      | none =>
        simp only [isInterface, isClass, isAlias] at mem
        cases mem

/-- Before anything is inherited a declaration passes on all its members. -/
theorem Fresh.bequest_members (h : decls.Fresh) (name : String) :
    (decls.bequest name).members = decls.writtenMembers name := by
  have own : (decls.writtenMembers name).filter (!·.isInherited) = decls.writtenMembers name :=
    List.filter_eq_self.mpr fun member mem => by simp [h.writtenMembers mem]
  unfold bequest bequest?
  unfold Declarations.writtenMembers at own ⊢
  cases isInterface : decls.interface? name with
  | some decl => simpa only [isInterface, Option.getD_some] using own
  | none =>
    cases isClass : decls.class? name with
    | some decl => simpa only [isInterface, isClass, Option.getD_some] using own
    | none =>
      cases isAlias : decls.alias? name with
      | some decl =>
        simp only
        cases decl.declared.shape <;> rfl
      | none => rfl

/-! ### The order of precedence -/

/-- The names of the supertypes at hand. -/
def names (bases : List TypeExpr) : List String := bases.filterMap (·.referenceName?)

/-- The declarations above a declaration in depth-first preorder: the first occurrences in the
lineage, where each comes before those above it. -/
def preorder (decls : Declarations) (name : String) (bases : List TypeExpr) : List String :=
  (decls.lineage [name] (names bases)).eraseDups

/-- The preorder of what is above a declaration has exactly the names that can be reached. -/
theorem mem_preorder_iff {name : String} {bases : List TypeExpr} {owner : String} :
    owner ∈ decls.preorder name bases ↔ decls.Reachable name (names bases) owner := by
  rw [preorder, List.mem_eraseDups, mem_lineage_iff]

/-- A member is inherited as it was written in the first declaration of the order that has one of
its name. -/
def FromFirst (decls : Declarations) (order : List String) (member : Member) : Prop :=
  ∃ before owner after written, order = before ++ owner :: after ∧
    (∀ other ∈ before, member.name ∉ (decls.writtenMembers other).map (·.name)) ∧
      Member.named? (decls.writtenMembers owner) member.name = some written ∧
        member.InheritedAs written owner

/-- What a declaration of a name gains by inheriting: one member for each name that it does not have
and that a declaration has which can be reached, as it was written in the first of these. -/
structure Completes (decls : Declarations) (name : String) (bases : List TypeExpr)
    (members added : List Member) : Prop where
  distinct : (added.map (·.name)).Nodup
  mem_iff : ∀ other, other ∈ added.map (·.name) ↔ other ∉ members.map (·.name) ∧
    ∃ owner, decls.Reachable name (names bases) owner ∧
      other ∈ (decls.writtenMembers owner).map (·.name)
  first : ∀ member ∈ added, decls.FromFirst (decls.preorder name bases) member

/-- Before inheriting, an ancestor passes on one member for each that it has, of the same name. -/
theorem name_of_mem_passedOn (fresh : decls.Fresh) (ancestor : Ancestor) :
    (decls.passedOn ancestor).map (·.name) =
      (decls.writtenMembers ancestor.name).map (·.name) := by
  rw [passedOn, fresh.bequest_members, List.map_map]
  exact List.map_congr_left fun member _ => Member.name_inheritedFrom _ _ member

/-- Members are inherited under exactly those names that a member of a reachable declaration has. -/
theorem mem_map_name_inheritedMembers (fresh : decls.Fresh) (plain : decls.NoBareParameter)
    {name other : String} {bases : List TypeExpr} :
    other ∈ (decls.inheritedMembers name bases).map (·.name) ↔
      ∃ owner, decls.Reachable name (names bases) owner ∧
        other ∈ (decls.writtenMembers owner).map (·.name) := by
  have owners (owner : String) : (∃ ancestor ∈ decls.ancestors bases [name],
      ancestor.name = owner) ↔ decls.Reachable name (names bases) owner := by
    rw [← mem_preorder_iff, preorder, names, ← map_name_ancestors_self plain, List.mem_map]
  simp only [inheritedMembers, List.map_flatMap, List.mem_flatMap, name_of_mem_passedOn fresh]
  constructor
  · rintro ⟨ancestor, met, mem⟩
    exact ⟨ancestor.name, (owners _).mp ⟨ancestor, met, rfl⟩, mem⟩
  · rintro ⟨owner, reached, mem⟩
    obtain ⟨ancestor, met, rfl⟩ := (owners owner).mpr reached
    exact ⟨ancestor, met, mem⟩

/-- The member that is found of a name is that of the first declaration that has one. -/
theorem fromFirst_of_named? (fresh : decls.Fresh) (plain : decls.NoBareParameter)
    {name : String} {bases : List TypeExpr} {member : Member}
    (h : Member.named? (decls.inheritedMembers name bases) member.name = some member) :
    decls.FromFirst (decls.preorder name bases) member := by
  rw [Member.named?, inheritedMembers, List.find?_flatMap, List.findSome?_eq_some_iff] at h
  obtain ⟨before, ancestor, after, order, found, absent⟩ := h
  rw [passedOn, fresh.bequest_members, List.find?_map, Option.map_eq_some_iff] at found
  obtain ⟨written, has, same⟩ := found
  have named : written.name = member.name := by
    simpa [Member.name_inheritedFrom] using List.find?_some has
  have keyed : (fun other : Member => other.name == member.name) ∘
      Member.inheritedFrom ancestor.name ancestor.bindings =
        fun other => other.name == member.name := by
    funext other
    rw [Function.comp_apply, Member.name_inheritedFrom]
  refine ⟨before.map (·.name), ancestor.name, after.map (·.name), written, ?_, ?_, ?_, ?_⟩
  · rw [preorder, names, ← map_name_ancestors_self plain, order, List.map_append, List.map_cons]
  · intro other mem
    obtain ⟨earlier, inside, rfl⟩ := List.mem_map.mp mem
    rw [← name_of_mem_passedOn fresh, List.mem_map]
    rintro ⟨early, passed, same⟩
    exact List.find?_eq_none.mp (absent earlier inside) early passed (by simpa using same)
  · rwa [keyed] at has
  · have own := fresh.writtenMembers (List.mem_of_find?_eq_some has)
    rw [← same]
    exact Member.inheritedAs_inheritedFrom own _ _

/-- The members of a declaration stay, and those that are added complete them. -/
theorem completes_newMembers (fresh : decls.Fresh) (plain : decls.NoBareParameter) (name : String)
    (bases : List TypeExpr) (members : List Member) :
    decls.Completes name bases members
      (Member.newMembers members (decls.inheritedMembers name bases)) where
  distinct := Member.nodup_map_name_newMembers _ _
  mem_iff other := by
    rw [Member.mem_map_name_newMembers, mem_map_name_inheritedMembers fresh plain, and_comm]
  first member mem := fromFirst_of_named? fresh plain (Member.named?_newMembers mem).1

/-! ### Declarations that have inherited -/

/-- An interface that is looked up after inheriting is the one from before with inherited members
behind its own. -/
theorem interface?_withInheritance (decls : Declarations) (name : String) :
    decls.withInheritance.interface? name = (decls.interface? name).map fun decl =>
      { decl with
        members := Member.append decl.members (decls.inheritedMembers decl.name decl.bases) } := by
  rw [interface?_eq, interface?_eq, interfaces_withInheritance, List.find?_map]
  rfl

/-- A class that is looked up after inheriting is the one from before with inherited members behind
its own. -/
theorem class?_withInheritance (decls : Declarations) (name : String) :
    decls.withInheritance.class? name = (decls.class? name).map fun decl =>
      { decl with
        members :=
          Member.append decl.members (decls.inheritedMembers decl.name decl.base.toList) } := by
  rw [class?_eq, class?_eq, classes_withInheritance, List.find?_map]
  rfl

/-- Declarations are completed if every interface and every class is, after the members that it has,
and nothing else is changed. -/
structure IsCompletedBy (decls completed : Declarations) : Prop where
  interfaces : List.Forall₂ (fun decl after => ∃ added,
    after = { decl with members := decl.members ++ added } ∧
      decls.Completes decl.name decl.bases decl.members added) decls.interfaces completed.interfaces
  classes : List.Forall₂ (fun decl after => ∃ added,
    after = { decl with members := decl.members ++ added } ∧
      decls.Completes decl.name decl.base.toList decl.members added) decls.classes completed.classes
  aliases : completed.aliases = decls.aliases
  enums : completed.enums = decls.enums

/-- Inheriting completes declarations, whatever cycles and diamonds their supertypes form. -/
theorem isCompletedBy_withInheritance (decls : Declarations) (fresh : decls.Fresh)
    (plain : decls.NoBareParameter) : decls.IsCompletedBy decls.withInheritance where
  interfaces := by
    rw [interfaces_withInheritance, List.forall₂_map_right_iff, List.forall₂_same]
    intro decl _
    exact ⟨_, by rw [Member.append_eq], completes_newMembers fresh plain _ _ _⟩
  classes := by
    rw [classes_withInheritance, List.forall₂_map_right_iff, List.forall₂_same]
    intro decl _
    exact ⟨_, by rw [Member.append_eq], completes_newMembers fresh plain _ _ _⟩
  aliases := rfl
  enums := rfl

/-- Two interfaces that extend each other, of which the second has a member. -/
def extendingEachOther : Declarations :=
  .ofList
    [.interface ⟨"Cat", default, [], [.reference "Animal" []], []⟩,
      .interface ⟨"Animal", default, [], [.reference "Cat" []],
        [⟨"name", false, true, .property none, default, .own⟩]⟩]

/-- The two interfaces that extend each other meet the conditions and are completed. -/
theorem isCompletedBy_extendingEachOther :
    extendingEachOther.Fresh ∧ extendingEachOther.NoBareParameter ∧
      extendingEachOther.IsCompletedBy extendingEachOther.withInheritance := by
  have fresh : extendingEachOther.Fresh :=
    .ofList (by simp [Declaration.Fresh, Member.NoneInherited, Member.isInherited])
  have plain : extendingEachOther.NoBareParameter := by
    refine ⟨fun decl mem base _ parameter own => ?_, List.forall_mem_nil _⟩
    rcases List.mem_pair.mp mem with rfl | rfl <;> cases own
  exact ⟨fresh, plain, isCompletedBy_withInheritance extendingEachOther fresh plain⟩

end Declarations

end TypeAtlas
