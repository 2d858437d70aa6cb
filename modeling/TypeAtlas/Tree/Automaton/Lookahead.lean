import Std.Data.HashMap

/-!
Sets of tokens that may come next.

A set is a number with one bit for every token in it. The sets that occur are few and are joined
over and over, so every set is kept once, under a number of its own, and so is every union.
-/

set_option autoImplicit false

namespace TypeAtlas

/-- The sets of tokens that have occurred. The empty set has the number zero. -/
structure Lookaheads where
  /-- The sets by their numbers. -/
  sets : Array Nat
  /-- The numbers of the sets. -/
  codes : Std.HashMap Nat Nat
  /-- The numbers of unions, by the numbers of two sets. -/
  unions : Std.HashMap (Nat × Nat) Nat

namespace Lookaheads

/-- No set but the empty one. -/
def initial : Lookaheads := ⟨#[0], {(0, 0)}, {}⟩

/-- The set with a number. -/
def get (sets : Lookaheads) (code : Nat) : Nat := sets.sets.getD code 0

/-- Looks a set up, or gives it the next number. -/
def code (bits : Nat) : StateM Lookaheads Nat := do
  match (← MonadState.get).codes[bits]? with
  | some code => return code
  | none =>
    modifyGet fun sets =>
      (sets.sets.size, { sets with
        codes := sets.codes.insert bits sets.sets.size
        sets := sets.sets.push bits })

/-- The union of two sets, given by their numbers. -/
def union (a b : Nat) : StateM Lookaheads Nat := do
  if a = b || b = 0 then return a
  else if a = 0 then return b
  else
    let pair := if a < b then (a, b) else (b, a)
    match (← MonadState.get).unions[pair]? with
    | some joined => return joined
    | none =>
      let sets ← MonadState.get
      let joined ← code (sets.get a ||| sets.get b)
      modify fun sets => { sets with unions := sets.unions.insert pair joined }
      return joined

/-- The tokens of a set, in order. -/
def tokens (bits count : Nat) : List Nat := (List.range count).filter bits.testBit

end Lookaheads

end TypeAtlas
