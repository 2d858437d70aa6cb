import TypeAtlas.Tree.Automaton.Lookahead
import TypeAtlas.Tree.Automaton.Reach

/-!
Items: productions that have been found in part.

Of the pieces that have been found an item remembers what matters later, the labels and roles they
have, and two productions that differ in nothing else share their items. Items are numbered, and so
are the reductions, which say what is put together once a production has been found as a whole.
-/

set_option autoImplicit false

namespace TypeAtlas

namespace Grammar

/-- What is remembered of a piece that has been found. -/
structure Found where
  label : Option Kind
  role : Option Role
  /-- The number of the piece, where a piece that shares its roles has been found. -/
  sign : Option Nat
deriving DecidableEq, Hashable

/-- A production that has been found in part. -/
structure Item where
  /-- The part that is being made up. -/
  head : Nat
  rank : Option Rank
  side : Option Side
  weight : Int
  found : List Found
  /-- The pieces that are still to come. -/
  rest : List Step
deriving DecidableEq, Hashable

/-- What is put together once a production has been found. -/
structure Reduction where
  /-- The part that is made up. -/
  head : Nat
  /-- How many pieces it is made of. -/
  count : Nat
  weight : Int
  /-- The label and the role of every piece. -/
  marks : List (Option Kind × Option Role)
  /-- The roles that every piece shares. -/
  shared : List Nat
deriving DecidableEq, Hashable, Inhabited

/-- Whether nothing but the one piece is made up: it has no label, no role and no weight. -/
def Reduction.isPlain (reduction : Reduction) : Bool :=
  reduction.count = 1 && reduction.weight = 0 && reduction.shared.all (· = 0) &&
    reduction.marks.all fun mark => mark.1.isNone && mark.2.isNone

/-- What is asked about an item again and again. -/
structure ItemEntry where
  head : Nat
  rank : Option Rank
  side : Option Side
  /-- How many pieces have been found. -/
  progress : Nat
  /-- The number of the piece that comes next. -/
  next : Option Nat
  /-- The set of tokens that the piece after that can start with. -/
  beyond : Option Nat
  /-- The item that this one becomes when the next piece is found. -/
  successor : Nat
  /-- The reduction, if nothing is left to be found. -/
  reduction : Nat
deriving Inhabited

/-- The items of a grammar by their numbers. -/
structure Items where
  entries : Array ItemEntry
  codes : Std.HashMap Item Nat
  reductions : Array Reduction
  reductionCodes : Std.HashMap Reduction Nat

namespace Items

/-- No item. -/
def initial : Items := ⟨#[], {}, #[], {}⟩

/-- Looks a reduction up, or gives it the next number. -/
def reductionCode (reduction : Reduction) : StateM Items Nat :=
  modifyGet fun items =>
    match items.reductionCodes[reduction]? with
    | some code => (code, items)
    | none =>
      (items.reductions.size, { items with
        reductionCodes := items.reductionCodes.insert reduction items.reductions.size
        reductions := items.reductions.push reduction })

/-- Looks an item up, or gives it the next number. -/
def code (item : Item) (entry : ItemEntry) : StateM Items Nat :=
  modifyGet fun items =>
    match items.codes[item]? with
    | some code => (code, items)
    | none =>
      (items.entries.size, { items with
        codes := items.codes.insert item items.entries.size
        entries := items.entries.push entry })

/-- The entry of the item with a number. -/
def entry (items : Items) (code : Nat) : ItemEntry := items.entries.getD code default

end Items

end Grammar

/-- A grammar with all that follows from its productions alone. -/
structure Facts where
  productions : Productions
  /-- The roles inside of every part. -/
  roles : Array Nat
  /-- The set of tokens that every token and every part can start with. -/
  starts : Array Nat

namespace Facts

open Grammar

/-- The part that stands for the source up to and with its end. -/
def whole (facts : Facts) : Nat := facts.productions.size

/-- The item of a production with some of its pieces found. -/
def itemOf (facts : Facts) (head : Nat) (production : Production) (progress : Nat) : Item :=
  let found := production.steps.take progress
  let sharing := found.any fun piece => facts.productions.sharedRoles facts.roles piece.sign != 0
  { head, rank := production.rank, side := production.side, weight := production.weight
    found := found.map fun piece =>
      ⟨piece.label, piece.role, if sharing then some piece.sign else none⟩
    rest := production.steps.drop progress }

/-- The reduction of a production. -/
def reductionOf (facts : Facts) (head : Nat) (production : Production) : Reduction :=
  { head, count := production.steps.length, weight := production.weight
    marks := production.steps.map fun piece => (piece.label, piece.role)
    shared := production.steps.map fun piece =>
      facts.productions.sharedRoles facts.roles piece.sign }

/-- The items of a production from its end to its start. The answer is the number of the last one,
with no piece found. -/
def addProduction (facts : Facts) (head : Nat) (production : Production) : StateM Items Nat := do
  let reduction ← Items.reductionCode (facts.reductionOf head production)
  let steps := production.steps
  (List.range (steps.length + 1)).reverse.foldlM (fun successor progress =>
    Items.code (facts.itemOf head production progress)
      { head, rank := production.rank, side := production.side, progress
        next := steps[progress]?.map (·.sign)
        beyond := steps[progress + 1]?.map fun piece => facts.starts.getD piece.sign 0
        successor, reduction }) 0

/-- The items with which every part starts. The last ones are those of the whole source. -/
def addItems (facts : Facts) : StateM Items (Array (List Nat)) := do
  let parts ← facts.productions.ofPart.mapIdxM fun head choices =>
    choices.mapM (facts.addProduction head)
  let whole ← facts.addProduction facts.whole (.one tokenCount)
  return (parts.push [whole]).map List.eraseDups

end Facts

end TypeAtlas
