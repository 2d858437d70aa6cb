import TypeAtlas.Tree.Automaton.Core

/-!
Rows: what a state does with every token that may come next.

A cell holds the reductions that are possible and whether the token can be shifted. Where several
things are possible, those that bind tighter win, and between things that bind alike the side to
which the parts are grouped decides. What is left is all kept, to be tried side by side.
-/

set_option autoImplicit false

namespace TypeAtlas

namespace Grammar

/-- What a state does with a token. -/
structure Cell where
  /-- The numbers of the reductions. -/
  reductions : List Nat
  /-- Whether the token is shifted, and if so, whether only to go on with a repetition. -/
  shift : Option Bool
deriving DecidableEq, Hashable, Inhabited

/-- A cell that does nothing. -/
def Cell.empty : Cell := ⟨[], none⟩

/-! ### What binds tighter -/

/-- What decides how tightly some rules bind: their rank, and their names in the orderings. -/
structure Binding where
  rank : Option Rank
  names : List Nat

/-- The number by which the orderings know a rank. -/
def Rank.name (rank : Rank) : Nat := rank.ctorIdx

/-- The number by which the orderings know a part. It is greater than those of the ranks. -/
def partName (part : Nat) : Nat := 64 + part

/-- The number by which the orderings know a rank or a part. -/
def Bound.name (productions : Productions) : Bound → Nat
  | .rank it => it.name
  | .symbol it => partName ((productions.symbols.idxOf? it).getD productions.size)

/-- The binding of the rules of some parts. -/
def Binding.of (rank : Option Rank) (heads : List Nat) : Binding :=
  ⟨rank, rank.elim id (fun rank names => rank.name :: names) (heads.map partName)⟩

/-- Which of two bindings an ordering puts first, if it has both of them. -/
def orderIn (a b : Binding) : (seenFirst seenSecond : Bool) → List Nat → Option Ordering
  | _, _, [] => none
  | seenFirst, seenSecond, name :: rest =>
    if a.names.contains name then
      if seenSecond then some .lt else orderIn a b true seenSecond rest
    else if b.names.contains name then
      if seenFirst then some .gt else orderIn a b seenFirst true rest
    else orderIn a b seenFirst seenSecond rest

/-- Which of two bindings is tighter. Levels are compared as numbers, and a rule without a rank has
the level zero beside them. Otherwise the first ordering with both of them decides. -/
def Binding.compare (orderings : List (List Nat)) (a b : Binding) : Ordering :=
  match a.rank, b.rank with
  | some (.level m), some (.level n) => Ord.compare m n
  | some (.level m), none => Ord.compare m 0
  | none, some (.level n) => Ord.compare 0 n
  | _, _ => (orderings.findSome? (orderIn a b false false)).getD .eq

/-! ### Which reductions are possible -/

/-- The reductions that are possible with a token, of those met so far. -/
structure Contest where
  /-- Their numbers, the last one first. -/
  reductions : List Nat
  /-- The rank of the last one. -/
  rank : Option Rank
  heads : List Nat
  sides : List (Option Side)

/-- One more reduction. It replaces what binds less tightly, and gives way to what binds tighter. -/
def Contest.add (orderings : List (List Nat)) (contest : Option Contest) (entry : ItemEntry) :
    Contest :=
  let alone : Contest := ⟨[entry.reduction], entry.rank, [entry.head], [entry.side]⟩
  match contest with
  | none => alone
  | some others =>
    match (Binding.of entry.rank [entry.head]).compare orderings
        (.of others.rank others.heads) with
    | .gt => alone
    | .eq => ⟨entry.reduction :: others.reductions, entry.rank, entry.head :: others.heads,
        entry.side :: others.sides⟩
    | .lt => others

/-- The cell for a token that can be shifted, given the items of the kernel that can go on with it
and the heads of all items it concerns. -/
def Contest.cell (orderings : List (List Nat)) (contest : Contest) (ongoing : List ItemEntry)
    (isRun : Nat → Bool) (heads : List Nat) : Cell :=
  let both : Cell := ⟨contest.reductions.reverse, some false⟩
  let stay : Cell := { both with shift := none }
  let go : Cell := { both with reductions := [] }
  let inRun := match heads with
    | [] => false
    | head :: rest => isRun head && rest.all (· = head)
  if inRun then { both with shift := some true }
  else
    let orders := ongoing.map fun entry =>
      (Binding.of entry.rank [entry.head]).compare orderings (.of contest.rank contest.heads)
    let tighter := orders.contains .gt
    let looser := orders.contains .lt
    if looser && !tighter then stay
    else if tighter && !looser then go
    else if tighter && looser then both
    else if contest.sides.all (· = some .left) then stay
    else if contest.sides.all (· = some .right) then go
    else both

/-! ### Rows -/

/-- The cells of a state. -/
structure Row where
  /-- The number of the cell of every token. -/
  cells : Array Nat
  /-- The tokens with a cell that does something. -/
  tokens : Nat
  /-- For every way on from the core, whether it is left open. -/
  ways : Array Bool
deriving Inhabited

/-- The cells that have occurred. The number zero is that of the empty cell. -/
structure Cells where
  table : Array Cell
  codes : Std.HashMap Cell Nat

namespace Cells

/-- No cell but the empty one. -/
def initial : Cells := ⟨#[.empty], {(.empty, 0)}⟩

/-- The cell with a number. -/
def get (cells : Cells) (code : Nat) : Cell := cells.table.getD code default

/-- Looks a cell up, or gives it the next number. -/
def code (cell : Cell) : StateM Cells Nat :=
  modifyGet fun cells =>
    match cells.codes[cell]? with
    | some code => (code, cells)
    | none =>
      (cells.table.size, {
        codes := cells.codes.insert cell cells.table.size
        table := cells.table.push cell })

end Cells

namespace Plan

/-- The orderings of the grammar by numbers. -/
def orderings (plan : Plan) : List (List Nat) :=
  plan.facts.productions.orderings.map (List.map (Bound.name plan.facts.productions))

/-- The cell of a token: `complete` are the items that have been found, each with the tokens that
may follow it, and `ongoing` those of the kernel that have begun, each with the tokens that it can
go on with. -/
def cell (plan : Plan) (orderings : List (List Nat)) (complete ongoing : List (ItemEntry × Nat))
    (token : Nat) (shifts : Bool) : Cell :=
  let ready := (complete.filter fun entry => entry.2.testBit token).map (·.1)
  let contest := ready.foldl (fun contest entry => some (Contest.add orderings contest entry)) none
  match contest with
  | none => ⟨[], if shifts then some false else none⟩
  | some contest =>
    if shifts then
      let ongoing := (ongoing.filter fun entry => entry.2.testBit token).map (·.1)
      let isRun (head : Nat) : Bool := (plan.facts.productions.symbols.getD head default).isRun
      contest.cell orderings ongoing isRun ((ongoing ++ ready).map (·.head))
    else ⟨contest.reductions.reverse, none⟩

/-- The row of a core, given the sets of tokens that may follow its complete items. -/
def row (plan : Plan) (orderings : List (List Nat)) (sets : Lookaheads) (core : Core)
    (after : List Nat) : StateM Cells Row := do
  let complete := core.complete.zipWith (fun item set => (plan.entry item.1, sets.get set)) after
  let ongoing := core.kernel.toList.filterMap fun item =>
    let entry := plan.entry item
    match entry.next with
    | some sign =>
      if entry.progress = 0 then none
      else some (entry, sets.get (plan.facts.starts.getD sign 0))
    | none => none
  let shifted := core.transitions.foldl (fun bits way =>
    if way.sign < tokenCount then bits ||| 1 <<< way.sign else bits) 0
  let reduced := complete.foldl (fun bits entry => bits ||| entry.2) 0
  let tokens := shifted ||| reduced
  let cells := (Array.range tokenCount).map fun token =>
    if tokens.testBit token then
      plan.cell orderings complete ongoing token (shifted.testBit token)
    else .empty
  return {
    tokens, cells := ← cells.mapM Cells.code
    ways := core.transitions.map fun way =>
      tokenCount ≤ way.sign || (cells.getD way.sign .empty).shift.isSome }

end Plan

end Grammar

end TypeAtlas
