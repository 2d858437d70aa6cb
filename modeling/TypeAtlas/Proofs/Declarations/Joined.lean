import Mathlib.Data.List.Forall2
import Mathlib.Data.List.Induction
import TypeAtlas.Declarations.Scope

/-!
# Joined types

To join types is to take the operands of each union among them one by one (`TypeExpr.choices`), to
leave out those that have the text of an earlier one (`TypeExpr.firstOfEachText`), and to make a
union of what is left, unless this is a single type (`TypeExpr.join_eq_some_iff`).

Types that are joined already can be joined with others. If repeats have been left out before, the
same ones are left out in the end (`TypeExpr.firstOfEachText_flatMap`). But each time unions are
opened only once, and an operand that is a union itself would be opened the second time. A type is
open if there is no such operand in it (`TypeExpr.Open`).
-/

set_option autoImplicit false

namespace TypeAtlas

namespace TypeExpr

/-- The operands of a union. Any other type is the only one that there is to choose. -/
def choices (type : TypeExpr) : List TypeExpr := type.operands?.getD [type]

/-- Whether one of the types has the text. -/
def hasText (types : List TypeExpr) (text : String) : Bool :=
  types.any fun type => type.print == text

/-- The types without those that have the text of an earlier one. -/
def firstOfEachText (types : List TypeExpr) : List TypeExpr :=
  types.eraseDupsBy fun type other => type.print == other.print

/-! ### First types of a text -/

/-- No types have no first ones. -/
@[simp]
theorem firstOfEachText_nil : firstOfEachText [] = [] := rfl

/-- The first type stays, and later ones with its text go before the others are looked at. -/
theorem firstOfEachText_cons (type : TypeExpr) (rest : List TypeExpr) :
    firstOfEachText (type :: rest) =
      type :: firstOfEachText (rest.filter fun other => other.print != type.print) := by
  have same : (fun other : TypeExpr => decide ((other.print == type.print) = false)) =
      fun other => other.print != type.print := by
    funext other
    cases h : other.print == type.print <;> simp [bne, h]
  rw [firstOfEachText, List.eraseDupsBy_cons, same]
  rfl

/-- A test of texts lets the same types through, before and after. -/
theorem firstOfEachText_filter (test : String → Bool) : (types : List TypeExpr) →
    firstOfEachText (types.filter fun type => test type.print) =
      (firstOfEachText types).filter fun type => test type.print
  | [] => rfl
  | type :: rest => by
      have later := firstOfEachText_filter test (rest.filter fun other => other.print != type.print)
      rw [firstOfEachText_cons, List.filter_cons, List.filter_cons, ← later, List.filter_filter]
      by_cases passes : test type.print
      · rw [if_pos passes, if_pos passes, firstOfEachText_cons, List.filter_filter]
        simp only [Bool.and_comm]
      · rw [if_neg passes, if_neg passes]
        refine congrArg firstOfEachText (List.filter_congr fun other _ => ?_)
        by_cases same : other.print = type.print
        · simp [same, passes]
        · simp [same]
termination_by types => types.length
decreasing_by exact Nat.lt_succ_of_le (List.length_filter_le _ rest)

/-- The first type stays, and so do those later ones that are left and have another text. -/
theorem firstOfEachText_cons_eq_filter (type : TypeExpr) (rest : List TypeExpr) :
    firstOfEachText (type :: rest) =
      type :: (firstOfEachText rest).filter fun other => other.print != type.print := by
  rw [firstOfEachText_cons, firstOfEachText_filter (fun text => text != type.print)]

/-- Leaving out later types of a text leaves no text out. -/
@[simp]
theorem hasText_firstOfEachText (types : List TypeExpr) :
    hasText (firstOfEachText types) = hasText types := by
  funext text
  induction types with
  | nil => rfl
  | cons type rest ih =>
    rw [firstOfEachText_cons_eq_filter, hasText, hasText, List.any_cons, List.any_cons,
      List.any_filter]
    unfold hasText at ih
    rw [← ih]
    by_cases same : type.print = text
    · simp [same]
    · have others : ∀ other : TypeExpr, (other.print != type.print && other.print == text) =
          (other.print == text) := by
        intro other
        by_cases found : other.print = text
        · simp [found, Ne.symm same]
        · simp [found]
      simp only [others]

/-- Of further types those stay that are left and have no text that was there before. -/
theorem firstOfEachText_append (types more : List TypeExpr) :
    firstOfEachText (types ++ more) =
      firstOfEachText types ++
        (firstOfEachText more).filter fun type => !hasText types type.print := by
  induction types with
  | nil => exact (List.filter_eq_self.mpr fun _ _ => rfl).symm
  | cons type rest ih =>
    have new : ∀ other : TypeExpr, (other.print != type.print && !hasText rest other.print) =
        !hasText (type :: rest) other.print := by
      intro other
      rw [hasText, hasText, List.any_cons, Bool.not_or, Bool.beq_comm]
      rfl
    rw [List.cons_append, firstOfEachText_cons_eq_filter, firstOfEachText_cons_eq_filter, ih,
      List.filter_append, List.filter_filter, List.cons_append]
    simp only [new]

/-- No repeats are left to be left out. -/
@[simp]
theorem firstOfEachText_firstOfEachText (types : List TypeExpr) :
    firstOfEachText (firstOfEachText types) = firstOfEachText types := by
  induction types with
  | nil => rfl
  | cons type rest ih =>
    have others := firstOfEachText_filter (fun text => text != type.print) (firstOfEachText rest)
    rw [firstOfEachText_cons_eq_filter, firstOfEachText_cons_eq_filter, others, ih,
      List.filter_filter]
    simp only [Bool.and_self]

/-- Leaving out types adds none. -/
theorem mem_of_mem_firstOfEachText {types : List TypeExpr} {type : TypeExpr}
    (h : type ∈ firstOfEachText types) : type ∈ types := by
  induction types with
  | nil => exact h
  | cons first rest ih =>
    rw [firstOfEachText_cons_eq_filter, List.mem_cons] at h
    rcases h with rfl | later
    · exact List.mem_cons_self
    · exact List.mem_cons_of_mem first (ih (List.mem_filter.mp later).1)

/-- Repeats may be left out of each list before they are left out of all. -/
theorem firstOfEachText_flatMap (list : TypeExpr → List TypeExpr) (types : List TypeExpr) :
    firstOfEachText (types.flatMap fun type => firstOfEachText (list type)) =
      firstOfEachText (types.flatMap list) := by
  induction types with
  | nil => rfl
  | cons type rest ih =>
    rw [List.flatMap_cons, List.flatMap_cons, firstOfEachText_append, firstOfEachText_append, ih,
      firstOfEachText_firstOfEachText, hasText_firstOfEachText]

/-! ### Joining -/

/-- One type, or the union of several: what is left of types if operands of unions are taken one by
one and those are left out that have the text of an earlier one. -/
inductive IsUnionOf (types : List TypeExpr) : TypeExpr → Prop
  | one {type : TypeExpr} (left : firstOfEachText (types.flatMap choices) = [type]) :
      IsUnionOf types type
  | several {items : List TypeExpr} (left : firstOfEachText (types.flatMap choices) = items)
      (more : 1 < items.length) : IsUnionOf types (.unwritten (.union items))

/-- Adding types one by one, unless one with the text is there, keeps the first of each text. -/
theorem foldl_eq_firstOfEachText (items : List TypeExpr) :
    items.foldl (fun (found : List TypeExpr) item =>
      if found.any fun other => other.print == item.print then found else found ++ [item]) [] =
        firstOfEachText items := by
  induction items using List.reverseRecOn with
  | nil => rfl
  | append_singleton items item ih =>
    rw [List.foldl_append, ih, firstOfEachText_append, List.foldl_cons, List.foldl_nil]
    have old : ((firstOfEachText items).any fun other => other.print == item.print) =
        hasText items item.print := congrFun (hasText_firstOfEachText items) item.print
    rw [old]
    cases h : hasText items item.print <;> simp [firstOfEachText_cons, h]

/-- Types are joined to what is left of them. -/
theorem join_eq_some_iff {types : List TypeExpr} {type : TypeExpr} :
    join types = some type ↔ type.IsUnionOf types := by
  have chosen : (fun type : TypeExpr => type.operands?.getD [type]) = choices := rfl
  unfold join
  simp only [foldl_eq_firstOfEachText, chosen]
  constructor
  · intro made
    split at made
    · cases made
    · rename_i left
      cases made
      exact .one left
    · rename_i none single
      cases made
      refine .several rfl ?_
      cases h : firstOfEachText (types.flatMap choices) with
      | nil => exact absurd h none
      | cons first rest =>
        cases rest with
        | nil => exact absurd h (single first)
        | cons second rest => simp
  · intro union
    cases union with
    | one left => rw [left]
    | several left more =>
      subst left
      split
      · rename_i none
        simp [none] at more
      · rename_i single
        simp [single] at more
      · rfl

/-- There is something left of types if there is something to choose. -/
theorem exists_isUnionOf {types : List TypeExpr} (some : types.flatMap choices ≠ []) :
    ∃ type, IsUnionOf types type := by
  cases left : firstOfEachText (types.flatMap choices) with
  | nil =>
    cases choice : types.flatMap choices with
    | nil => exact absurd choice some
    | cons first rest => simp [choice, firstOfEachText_cons] at left
  | cons first rest =>
    cases rest with
    | nil => exact ⟨first, .one left⟩
    | cons second rest => exact ⟨_, .several left (by simp)⟩

/-- There is something to choose, and nothing of it is a union itself. -/
structure Open (type : TypeExpr) : Prop where
  some : type.choices ≠ []
  flat : ∀ choice ∈ type.choices, choice.operands? = none

/-- What open types are joined to is chosen from what is left of their choices. -/
theorem IsUnionOf.choices_eq {types : List TypeExpr} {type : TypeExpr} (h : type.IsUnionOf types)
    (opened : ∀ other ∈ types, other.Open) :
    type.choices = firstOfEachText (types.flatMap choices) := by
  cases h with
  | one left =>
    have mem : type ∈ types.flatMap choices := mem_of_mem_firstOfEachText (by simp [left])
    obtain ⟨other, listed, chosen⟩ := List.mem_flatMap.mp mem
    rw [left, choices, (opened other listed).flat type chosen]
    rfl
  | several left more =>
    rw [left]
    rfl

/-- What open types are joined to is open. -/
theorem IsUnionOf.isOpen {types : List TypeExpr} {type : TypeExpr} (h : type.IsUnionOf types)
    (opened : ∀ other ∈ types, other.Open) : type.Open := by
  have chosen := h.choices_eq opened
  refine ⟨fun none => ?_, fun choice mem => ?_⟩
  · rw [none] at chosen
    cases h with
    | one left => cases chosen.trans left
    | several left more =>
      rw [← left, ← chosen] at more
      cases more
  · rw [chosen] at mem
    obtain ⟨other, listed, part⟩ := List.mem_flatMap.mp (mem_of_mem_firstOfEachText mem)
    exact (opened other listed).flat choice part

/-- Open types may be joined with themselves first. -/
theorem isUnionOf_iff_of_forall₂ {wholes types : List TypeExpr}
    (each : List.Forall₂ (fun whole type => whole.Open ∧ IsUnionOf [whole] type) wholes types)
    {type : TypeExpr} : type.IsUnionOf types ↔ type.IsUnionOf wholes := by
  have chosen : types.flatMap choices =
      wholes.flatMap fun whole => firstOfEachText whole.choices := by
    induction each with
    | nil => rfl
    | cons first _ ih =>
      obtain ⟨opened, union⟩ := first
      have alone := union.choices_eq (List.forall_mem_singleton.mpr opened)
      rw [List.flatMap_cons, List.flatMap_cons, ih, alone, List.flatMap_singleton]
  have left : firstOfEachText (types.flatMap choices) =
      firstOfEachText (wholes.flatMap choices) := by
    rw [chosen, firstOfEachText_flatMap]
  constructor
  · intro union
    cases union with
    | one kept => exact .one (left.symm.trans kept)
    | several kept more => exact .several (left.symm.trans kept) more
  · intro union
    cases union with
    | one kept => exact .one (left.trans kept)
    | several kept more => exact .several (left.trans kept) more

end TypeExpr

end TypeAtlas
