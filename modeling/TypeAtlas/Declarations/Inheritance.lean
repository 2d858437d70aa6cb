import TypeAtlas.Declarations.Basic
import TypeAtlas.Types.Substitution

/-!
The members that declarations have from their supertypes.

The supertypes of a declaration are walked depth first, each name once. Type arguments written at a
supertype take the place of its type parameters. Of two members with one name the first counts,
so a member that a declaration has itself is never replaced.

The walk ends because only interfaces and classes have supertypes: each step either shortens the
list of supertypes at hand or leaves one interface or class less that has not been seen
(`unseen_append_le`, `unseen_cons_lt`).
-/

set_option autoImplicit false

namespace TypeAtlas

/-- What a declaration passes on to those that name it as a supertype. -/
structure Bequest where
  typeParameters : List TypeParameter
  /-- The members it declares itself. -/
  members : List Member
  /-- Its own supertypes. -/
  bases : List TypeExpr

/-- A supertype that is met on a walk, with the types for its type parameters. -/
structure Ancestor where
  name : String
  bindings : Bindings

/-- The member as it is inherited from a declaration. One that was inherited before keeps its
origin. -/
def Member.inheritedFrom (owner : String) (bindings : Bindings) (member : Member) : Member :=
  let member := member.substitute bindings
  if member.isInherited then member else { member with origin := .inherited owner }

namespace Declarations

/-- What the declaration of a name passes on: an interface, else a class, else an alias of an
object type. -/
def bequest? (decls : Declarations) (name : String) : Option Bequest :=
  match decls.interface? name with
  | some decl => some ⟨decl.typeParameters, decl.members.filter (!·.isInherited), decl.bases⟩
  | none =>
    match decls.class? name with
    | some decl =>
      some ⟨decl.typeParameters, decl.members.filter (!·.isInherited), decl.base.toList⟩
    | none =>
      match decls.alias? name with
      | some decl =>
        match decl.declared.shape with
        | .object members _ => some ⟨decl.typeParameters, members, []⟩
        | _ => none
      | none => none

/-- What a name passes on, which is nothing if no declaration of it passes anything on. -/
def bequest (decls : Declarations) (name : String) : Bequest :=
  (decls.bequest? name).getD ⟨[], [], []⟩

/-! ### Names that have not been seen -/

/-- The names of interfaces and classes: those that can have supertypes. -/
def heirs (decls : Declarations) : List String :=
  decls.interfaces.map (·.name) ++ decls.classes.map (·.name)

/-- How many of them have not been seen. -/
def unseen (decls : Declarations) (seen : List String) : Nat :=
  decls.heirs.countP fun name => !seen.contains name

/-- Whatever else has been seen, no more names are unseen. -/
theorem unseen_append_le (decls : Declarations) (more seen : List String) :
    decls.unseen (more ++ seen) ≤ decls.unseen seen :=
  List.countP_mono_left fun name _ h => by simp_all

/-- Once an interface or class has been seen, one name less is unseen. -/
theorem unseen_cons_lt {decls : Declarations} {name : String} {seen : List String}
    (h : name ∈ decls.heirs) (new : seen.contains name = false) :
    decls.unseen (name :: seen) < decls.unseen seen := by
  obtain ⟨before, after, split⟩ := List.append_of_mem h
  have fewer : ∀ names : List String,
      (names.countP fun other => !(name :: seen).contains other) ≤
        names.countP fun other => !seen.contains other :=
    fun names => List.countP_mono_left fun other _ hother => by simp_all
  have hbefore := fewer before
  have hafter := fewer after
  simp only [unseen, split, List.countP_append, List.countP_cons, new]
  simp only [List.contains_cons, beq_self_eq_true, Bool.true_or, Bool.not_true, Bool.not_false,
    if_true, Bool.false_eq_true, if_false]
  simp only [List.contains_cons] at hbefore hafter
  omega

/-- A name that is no interface and no class has no supertypes. -/
theorem bequest_bases_of_not_mem_heirs {decls : Declarations} {name : String}
    (h : name ∉ decls.heirs) : (decls.bequest name).bases = [] := by
  simp only [heirs, List.mem_append, List.mem_map, not_or, not_exists, not_and] at h
  have noInterface : decls.interface? name = none := by
    simpa [interface?_eq] using h.1
  have noClass : decls.class? name = none := by
    simpa [class?_eq] using h.2
  simp only [bequest, bequest?, noInterface, noClass]
  cases decls.alias? name with
  | none => rfl
  | some decl =>
    simp only
    split <;> rfl

/-! ### The walk -/

/-- The supertypes that a walk meets, each name once and none that has been seen, in the order in
which they are met: each before its own supertypes, and these before the next one at hand. -/
def ancestors (decls : Declarations) : List TypeExpr → (seen : List String) → List Ancestor
  | [], _ => []
  | base :: rest, seen =>
    match base.shape with
    | .reference name arguments =>
      if _old : seen.contains name then decls.ancestors rest seen
      else
        let bequest := decls.bequest name
        let bindings := Bindings.ofArguments bequest.typeParameters arguments
        let above :=
          decls.ancestors (bequest.bases.map (·.substitute bindings)) (name :: seen)
        ⟨name, bindings⟩ :: above ++ decls.ancestors rest (above.map (·.name) ++ name :: seen)
    | _ => decls.ancestors rest seen
termination_by bases seen => (decls.unseen seen, bases.length)
decreasing_by
  · exact Prod.Lex.right _ (Nat.lt_succ_self _)
  · by_cases heir : name ∈ decls.heirs
    · exact Prod.Lex.left _ _ (unseen_cons_lt heir (by simpa using _old))
    · rw [bequest_bases_of_not_mem_heirs heir]
      rcases Nat.lt_or_eq_of_le (unseen_append_le decls [name] seen) with less | same
      · exact Prod.Lex.left _ _ less
      · simp only [List.singleton_append] at same
        rw [same]
        exact Prod.Lex.right _ (Nat.succ_pos _)
  · rcases Nat.lt_or_eq_of_le
      (unseen_append_le decls (above.map (·.name) ++ [name]) seen) with less | same
    · exact Prod.Lex.left _ _ (by simpa using less)
    · simp only [List.append_assoc, List.singleton_append] at same
      rw [same]
      exact Prod.Lex.right _ (Nat.lt_succ_self _)
  · exact Prod.Lex.right _ (Nat.lt_succ_self _)

section ancestors

variable {decls : Declarations} {base : TypeExpr} {rest : List TypeExpr} {seen : List String}

/-- With no names at hand, the walk over supertypes finds nobody. -/
@[simp]
theorem ancestors_nil (decls : Declarations) (seen : List String) :
    decls.ancestors [] seen = [] := by
  rw [ancestors]

/-- A name that has been seen is passed over. -/
theorem ancestors_cons_of_mem {name : String} {arguments : List TypeExpr}
    (shape : base.shape = .reference name arguments) (old : name ∈ seen) :
    decls.ancestors (base :: rest) seen = decls.ancestors rest seen := by
  rw [ancestors]
  simp only [shape, dif_pos (List.contains_iff_mem.mpr old)]

/-- A new name is met before what is above it, and this before the supertypes beside it. -/
theorem ancestors_cons_of_not_mem {name : String} {arguments : List TypeExpr}
    (shape : base.shape = .reference name arguments) (new : name ∉ seen) :
    decls.ancestors (base :: rest) seen =
      ⟨name, .ofArguments (decls.bequest name).typeParameters arguments⟩ ::
        decls.ancestors ((decls.bequest name).bases.map (·.substitute
          (.ofArguments (decls.bequest name).typeParameters arguments))) (name :: seen) ++
        decls.ancestors rest ((decls.ancestors ((decls.bequest name).bases.map (·.substitute
          (.ofArguments (decls.bequest name).typeParameters arguments)))
            (name :: seen)).map (·.name) ++ name :: seen) := by
  rw [ancestors]
  simp only [shape, dif_neg (mt List.contains_iff_mem.mp new)]

/-- What is no named type is passed over. -/
theorem ancestors_cons_of_not_reference
    (shape : ∀ name arguments, base.shape ≠ .reference name arguments) :
    decls.ancestors (base :: rest) seen = decls.ancestors rest seen := by
  rw [ancestors]
  split
  · exact absurd (by assumption) (shape _ _)
  · rfl

end ancestors

/-- The members that a supertype passes on. -/
def passedOn (decls : Declarations) (ancestor : Ancestor) : List Member :=
  (decls.bequest ancestor.name).members.map (·.inheritedFrom ancestor.name ancestor.bindings)

/-- The members that the supertypes of a declaration pass on to it. The declaration itself passes
nothing on to it. -/
def inheritedMembers (decls : Declarations) (name : String) (bases : List TypeExpr) : List Member :=
  (decls.ancestors bases [name]).flatMap decls.passedOn

/-- The declarations with the members that they inherit. -/
def withInheritance (decls : Declarations) : Declarations :=
  { decls with
    interfaceTable := decls.interfaceTable.map
      (fun decl =>
        { decl with
          members := Member.append decl.members (decls.inheritedMembers decl.name decl.bases) })
      fun _ => rfl
    classTable := decls.classTable.map
      (fun decl =>
        { decl with
          members :=
            Member.append decl.members (decls.inheritedMembers decl.name decl.base.toList) })
      fun _ => rfl }

section withInheritance

variable (decls : Declarations)

/-- Each interface keeps what is declared and gets the inherited members behind its own. -/
theorem interfaces_withInheritance :
    decls.withInheritance.interfaces = decls.interfaces.map fun decl =>
      { decl with
        members := Member.append decl.members (decls.inheritedMembers decl.name decl.bases) } := rfl

/-- Each class keeps what is declared and gets the inherited members behind its own. -/
theorem classes_withInheritance :
    decls.withInheritance.classes = decls.classes.map fun decl =>
      { decl with
        members :=
          Member.append decl.members (decls.inheritedMembers decl.name decl.base.toList) } := rfl

end withInheritance

end Declarations

end TypeAtlas
