import Mathlib.Data.List.Forall2
import TypeAtlas.Proofs.Declarations.Expansion
import TypeAtlas.Proofs.Declarations.Joined
import TypeAtlas.Proofs.Declarations.Questions

/-!
# Keys of indexed accesses

A type may be indexed with a union. If this distributes over the operands, something is yielded
exactly if each operand by itself yields something, and then it is what they yield, joined
(`Scope.Distributes`).

A single index is replaced by what it stands for, and the operands of a union are not. This makes no
difference to a literal and the word `number`, which stand for themselves, and so indexing
distributes over a union of them (`Scope.distributes_iff`). But an operand that names an alias is no
key, though by itself it yields something if the alias stands for one (`Scope.not_yields_letters`).
-/

set_option autoImplicit false

namespace TypeAtlas

/-- A literal selects a property, and the word `number` the elements of an array. -/
inductive TypeExpr.IsKey (type : TypeExpr) : Prop
  | literal {spelling : String} (shape : type.shape = .literal spelling)
  | number (shape : type.shape = .keyword "number")

namespace TypeExpr.IsKey

variable {key : TypeExpr}

/-- There is nothing to choose with a key but the key itself. -/
theorem choices_eq (h : key.IsKey) : key.choices = [key] := by
  cases h with
  | literal shape => simp only [choices, operands?, shape, Option.getD_none]
  | number shape => simp only [choices, operands?, shape, Option.getD_none]

/-- A key neither names an alias nor is an indexed access. -/
theorem settled (h : key.IsKey) (decls : Declarations) : decls.Settled key := by
  refine ⟨fun ⟨name, arguments, named, _⟩ => ?_, fun object index accessed => ?_⟩
  · cases h with
    | literal shape => cases shape.symm.trans named
    | number shape => cases shape.symm.trans named
  · cases h with
    | literal shape => cases shape.symm.trans accessed
    | number shape => cases shape.symm.trans accessed

/-- A key stands for itself. -/
theorem standsFor (h : key.IsKey) (scope : Scope) : Scope.Ever scope.apparentWithin key key :=
  ⟨1, (Scope.standsFor_of_expands (.refl key) (h.settled scope.declarations)
    (Nat.zero_le scope.hops)).within 0⟩

end TypeExpr.IsKey

namespace Scope

/-! ### Answers for all items -/

section items

variable {α β : Type} {ask : Nat → α → Except Unanswered (Option β)}

/-- All items have answers exactly if each has one. -/
theorem collectAll_iff_forall₂ (grows : Growing ask) {list : List α} {answers : List β} :
    (∃ fuel, collectAll (ask fuel) list = .ok (some answers)) ↔
      List.Forall₂ (fun a answer => Ever ask a (some answer)) list answers := by
  constructor
  -- one fuel was enough for all
  · rintro ⟨fuel, given⟩
    induction list generalizing answers with
    | nil =>
      cases given
      exact .nil
    | cons a rest ih =>
      unfold collectAll at given
      cases first : ask fuel a with
      | error why => simp [first] at given
      | ok found =>
        rw [first] at given
        cases found with
        | none => cases given
        | some answer =>
          cases others : collectAll (ask fuel) rest with
          | error why => simp [others, Except.map] at given
          | ok more =>
            simp only [others, Except.map, Except.ok.injEq] at given
            obtain ⟨later, rfl, rfl⟩ := Option.map_eq_some_iff.mp given
            exact .cons ⟨fuel, first⟩ (ih others)
  · intro each
    induction each with
    | nil => exact ⟨0, rfl⟩
    | @cons a answer rest answers first _ ih =>
      obtain ⟨fuel, first⟩ := first
      obtain ⟨more, others⟩ := ih
      -- the first item may need more fuel than the others, or less
      have grown := collectAll_mono (grows.extends_of_le (Nat.le_max_right fuel more)) rest
      refine ⟨max fuel more, ?_⟩
      unfold collectAll
      rw [grows.le (Nat.le_max_left fuel more) first, grown _ others]
      rfl

/-- Others can be related to a list one by one if each item can be related to some. -/
theorem exists_forall₂_iff {related : α → β → Prop} {list : List α} :
    (∃ others, List.Forall₂ related list others) ↔ ∀ a ∈ list, ∃ b, related a b := by
  induction list with
  | nil => simp
  | cons a rest ih =>
    rw [List.forall_mem_cons, ← ih]
    constructor
    · rintro ⟨others, each⟩
      cases each with
      | cons first later => exact ⟨⟨_, first⟩, ⟨_, later⟩⟩
    · rintro ⟨⟨b, first⟩, ⟨others, later⟩⟩
      exact ⟨b :: others, .cons first later⟩

end items

/-! ### What is selected and what is yielded -/

variable (scope : Scope)

/-- The key selects the type of the object. -/
def Selects (object key type : TypeExpr) : Prop :=
  Ever (scope.selectWithin object) key (some type)

/-- The access of the object with the index yields the type. -/
def Yields (object index type : TypeExpr) : Prop :=
  ∃ fuel, scope.accessWithin fuel object index = .ok (some type)

variable {scope} {object index apparent key type : TypeExpr}

/-- Nothing but a key selects anything. -/
theorem Selects.isKey (h : scope.Selects object key type) : key.IsKey := by
  obtain ⟨fuel, given⟩ := h
  unfold selectWithin select at given
  split at given
  · rename_i spelling shape
    exact .literal shape
  · rename_i shape
    exact .number shape
  · cases given

/-- The types are yielded that the keys select, joined. -/
theorem yields_iff (stands : Ever scope.apparentWithin index apparent) :
    scope.Yields object index type ↔
      ∃ wholes, List.Forall₂ (scope.Selects object) apparent.choices wholes ∧
        type.IsUnionOf wholes := by
  have grows := scope.selectWithin_growing object
  constructor
  · rintro ⟨fuel, given⟩
    cases fuel with
    | zero => cases given
    | succ fuel =>
      obtain ⟨found, same⟩ := apparent_of_accessWithin given
      obtain rfl : found = apparent := scope.apparentWithin_growing.unique ⟨fuel, same⟩ stands
      rw [accessWithin] at given
      simp only [same] at given
      cases all : collectAll (scope.selectWithin object fuel) found.choices with
      | error why =>
        unfold selectWithin TypeExpr.choices at all
        simp [all, Except.map] at given
      | ok answers =>
        have joined : answers.bind TypeExpr.join = some type := by
          unfold selectWithin TypeExpr.choices at all
          simpa [all, Except.map] using given
        obtain ⟨wholes, rfl, union⟩ := Option.bind_eq_some_iff.mp joined
        exact ⟨wholes, (collectAll_iff_forall₂ grows).mp ⟨fuel, all⟩,
          TypeExpr.join_eq_some_iff.mp union⟩
  · rintro ⟨wholes, selects, union⟩
    obtain ⟨fuel, same⟩ := stands
    obtain ⟨more, all⟩ := (collectAll_iff_forall₂ grows).mpr selects
    have grown := collectAll_mono (grows.extends_of_le (Nat.le_max_right fuel more)) _ _ all
    unfold selectWithin TypeExpr.choices at grown
    refine ⟨max fuel more + 1, ?_⟩
    rw [accessWithin]
    simp only [scope.apparentWithin_growing.le (Nat.le_max_left fuel more) same, grown]
    exact congrArg Except.ok (TypeExpr.join_eq_some_iff.mpr union)

/-- A key yields what it selects, if that is joined. -/
theorem yields_key_iff (h : key.IsKey) :
    scope.Yields object key type ↔
      ∃ whole, scope.Selects object key whole ∧ type.IsUnionOf [whole] := by
  rw [yields_iff (h.standsFor scope), h.choices_eq]
  constructor
  · rintro ⟨wholes, selects, union⟩
    cases selects with
    | cons first rest =>
      cases rest
      exact ⟨_, first, union⟩
  · rintro ⟨whole, selects, union⟩
    exact ⟨[whole], .cons selects .nil, union⟩

/-- If it selects an open type, a key yields something. -/
theorem Selects.exists_yields {whole : TypeExpr} (h : scope.Selects object key whole)
    (opened : whole.Open) : ∃ type, scope.Yields object key type := by
  have some : [whole].flatMap TypeExpr.choices ≠ [] := by
    rw [List.flatMap_singleton]
    exact opened.some
  obtain ⟨type, union⟩ := TypeExpr.exists_isUnionOf some
  exact ⟨type, (yields_key_iff h.isKey).mpr ⟨whole, h, union⟩⟩

/-! ### Unions of keys -/

/-- The access with the index is as good as the accesses with each of the keys. It yields something
exactly if they all do, and then what they yield, joined and with no union left inside. -/
structure Distributes (scope : Scope) (object index : TypeExpr) (keys : List TypeExpr) : Prop where
  resolves : (∃ type, scope.Yields object index type) ↔
    ∀ key ∈ keys, ∃ type, scope.Yields object key type
  joins : ∀ types, List.Forall₂ (scope.Yields object) keys types →
    ∀ type, scope.Yields object index type ↔ type.IsUnionOf types
  flat : ∀ type, scope.Yields object index type → type.Open

section union

variable {union : TypeExpr} {keys : List TypeExpr}

/-- Of a union, the operands are the keys. -/
theorem yields_union_iff (stands : Ever scope.apparentWithin index union)
    (shape : union.shape = .union keys) :
    scope.Yields object index type ↔
      ∃ wholes, List.Forall₂ (scope.Selects object) keys wholes ∧ type.IsUnionOf wholes := by
  have choices : union.choices = keys := by
    rw [TypeExpr.choices, TypeExpr.operands?, shape]
    rfl
  rw [yields_iff stands, choices]

/-- Where something is yielded, every operand of the index is a key. -/
theorem isKey_of_yields (stands : Ever scope.apparentWithin index union)
    (shape : union.shape = .union keys) (h : scope.Yields object index type) :
    ∀ key ∈ keys, key.IsKey := by
  obtain ⟨wholes, selects, -⟩ := (yields_union_iff stands shape).mp h
  intro key mem
  obtain ⟨whole, selected⟩ := exists_forall₂_iff.mp ⟨wholes, selects⟩ key mem
  exact selected.isKey

variable (opened : ∀ key ∈ keys, ∀ whole, scope.Selects object key whole → whole.Open)

include opened

/-- If whatever single keys select is open, so is each of the types that all of them select. -/
theorem open_of_selects {wholes : List TypeExpr}
    (selects : List.Forall₂ (scope.Selects object) keys wholes) : ∀ whole ∈ wholes, whole.Open := by
  intro whole mem
  have each := ((List.forall₂_and_left keys wholes).mpr ⟨opened, selects⟩).flip
  obtain ⟨key, isOpen, selected⟩ := exists_forall₂_iff.mp ⟨keys, each⟩ whole mem
  exact isOpen whole selected

/-- What the keys yield is what they select, joined one by one. -/
theorem exists_forall₂_of_yields {types : List TypeExpr} (written : ∀ key ∈ keys, key.IsKey)
    (yields : List.Forall₂ (scope.Yields object) keys types) :
    ∃ wholes, List.Forall₂ (scope.Selects object) keys wholes ∧
      List.Forall₂ (fun whole type => whole.Open ∧ TypeExpr.IsUnionOf [whole] type) wholes
        types := by
  induction yields with
  | nil => exact ⟨[], .nil, .nil⟩
  | @cons key type keys types first _ ih =>
    rw [List.forall_mem_cons] at opened written
    obtain ⟨wholes, selects, unions⟩ := ih opened.2 written.2
    obtain ⟨whole, selected, union⟩ := (yields_key_iff written.1).mp first
    exact ⟨whole :: wholes, .cons selected selects, .cons ⟨opened.1 whole selected, union⟩ unions⟩

/-- Let all types that are selected by the operands of a union be open. Then indexing distributes
over the operands exactly if they are keys, or one of them yields nothing by itself. -/
theorem distributes_iff (stands : Ever scope.apparentWithin index union)
    (shape : union.shape = .union keys) (nonempty : keys ≠ []) :
    scope.Distributes object index keys ↔
      ((∀ key ∈ keys, ∃ type, scope.Yields object key type) → ∀ key ∈ keys, key.IsKey) := by
  constructor
  · intro distributes each
    obtain ⟨type, yields⟩ := distributes.resolves.mpr each
    exact isKey_of_yields stands shape yields
  -- From here on all operands are keys, or one of them yields nothing by itself.
  intro written
  refine ⟨⟨?resolved, ?resolves⟩, ?joins, ?flat⟩
  case resolved =>
    rintro ⟨type, yields⟩ key mem
    obtain ⟨wholes, selects, -⟩ := (yields_union_iff stands shape).mp yields
    obtain ⟨whole, selected⟩ := exists_forall₂_iff.mp ⟨wholes, selects⟩ key mem
    exact selected.exists_yields (opened key mem whole selected)
  case resolves =>
    intro each
    obtain ⟨types, yields⟩ := exists_forall₂_iff.mpr each
    obtain ⟨wholes, selects, unions⟩ := exists_forall₂_of_yields opened (written each) yields
    have some : wholes.flatMap TypeExpr.choices ≠ [] := by
      cases unions with
      | nil =>
        cases selects
        exact absurd rfl nonempty
      | cons first _ =>
        rw [List.flatMap_cons]
        exact List.append_ne_nil_of_left_ne_nil first.1.some _
    obtain ⟨type, union⟩ := TypeExpr.exists_isUnionOf some
    exact ⟨type, (yields_union_iff stands shape).mpr ⟨wholes, selects, union⟩⟩
  case joins =>
    intro types yields type
    have each := exists_forall₂_iff.mp ⟨types, yields⟩
    obtain ⟨wholes, selects, unions⟩ := exists_forall₂_of_yields opened (written each) yields
    rw [yields_union_iff stands shape, TypeExpr.isUnionOf_iff_of_forall₂ unions]
    constructor
    · rintro ⟨others, also, union⟩
      -- the keys select the same types again, as there is one answer only
      have functional : Relator.RightUnique (scope.Selects object) := fun _ _ _ first second =>
        Option.some.inj ((scope.selectWithin_growing object).unique first second)
      rwa [functional.forall₂ selects also]
    · intro union
      exact ⟨wholes, selects, union⟩
  case flat =>
    intro type yields
    obtain ⟨wholes, selects, union⟩ := (yields_union_iff stands shape).mp yields
    exact union.isOpen (open_of_selects opened selects)

end union

namespace Letters

/-- The literal `"a"`. -/
def a : TypeExpr := ⟨.literal "\"a\"", "\"a\""⟩

/-- The literal `"b"`. -/
def b : TypeExpr := ⟨.literal "\"b\"", "\"b\""⟩

/-- The name of an alias of the first. -/
def first : TypeExpr := ⟨.reference "First" [], "First"⟩

/-- The property of a name. -/
def property (name : String) (type : TypeExpr) : Member :=
  ⟨name, false, false, .property (some type), default, default⟩

/-- An alias without type parameters, of a type that stands for itself. -/
def aliasOf (name : String) (type : TypeExpr) : AliasDecl := ⟨name, default, [], type, type⟩

end Letters

open Letters in
/-- The declarations `interface Letters { a: string; b: string | number }`, `type First = "a"`,
`type Both = "a" | "b"` and `type Named = First | "b"`. -/
def letters : Scope where
  declarations := .ofList
    [.interface ⟨"Letters", default, [], [],
        [property "a" ⟨.keyword "string", "string"⟩,
          property "b"
            ⟨.union [⟨.keyword "string", "string"⟩, ⟨.keyword "number", "number"⟩],
              "string | number"⟩]⟩,
      .typeAlias (aliasOf "First" a),
      .typeAlias (aliasOf "Both" ⟨.union [a, b], "\"a\" | \"b\""⟩),
      .typeAlias (aliasOf "Named" ⟨.union [first, b], "First | \"b\""⟩)]
  hops := 32

open Letters in
/-- `Letters[Both]` is as good as `Letters["a"]` and `Letters["b"]`. -/
theorem distributes_letters :
    letters.Distributes (.reference "Letters" []) (.reference "Both" []) [a, b] := by
  refine (distributes_iff ?opened ⟨1, rfl⟩ rfl (List.cons_ne_nil a [b])).mpr ?written
  case opened =>
    intro key mem whole selected
    have grows := letters.selectWithin_growing (.reference "Letters" [])
    rcases List.mem_pair.mp mem with rfl | rfl
    · obtain rfl := Option.some.inj (grows.unique selected ⟨2, rfl⟩)
      exact ⟨by decide, by decide⟩
    · obtain rfl := Option.some.inj (grows.unique selected ⟨2, rfl⟩)
      exact ⟨by decide, by decide⟩
  case written =>
    intro _ key mem
    rcases List.mem_pair.mp mem with rfl | rfl
    · exact .literal rfl
    · exact .literal rfl

open Letters in
/-- `Letters[Named]` yields nothing, though `Letters[First]` and `Letters["b"]` do: beside another
operand, `First` is no key. -/
theorem not_yields_letters :
    Ever letters.apparentWithin (.reference "Named" []) ⟨.union [first, b], "First | \"b\""⟩ ∧
      (∀ key ∈ [first, b], ∃ type, letters.Yields (.reference "Letters" []) key type) ∧
        ¬ ∃ type, letters.Yields (.reference "Letters" []) (.reference "Named" []) type := by
  have stands : Ever letters.apparentWithin (.reference "Named" [])
      ⟨.union [first, b], "First | \"b\""⟩ := ⟨1, rfl⟩
  refine ⟨stands, fun key mem => ?_, fun ⟨type, yields⟩ => ?_⟩
  · rcases List.mem_pair.mp mem with rfl | rfl
    · exact ⟨_, 3, rfl⟩
    · exact ⟨_, 3, rfl⟩
  · cases isKey_of_yields stands rfl yields first List.mem_cons_self with
    | literal shape => cases shape
    | number shape => cases shape

end Scope

end TypeAtlas
