import TypeAtlas.Tree.Automaton.Row

/-!
States: cores with the tokens that may follow each item of their kernel.

The states are found by going on from the first two, in the order in which they are met.
-/

set_option autoImplicit false

namespace TypeAtlas

namespace Grammar

/-- A state. -/
structure State where
  core : Nat
  /-- For every item of the kernel the number of the set of tokens that may follow it. -/
  after : Array Nat
  /-- The states that are reached over the ways on from the core. -/
  targets : Array Nat
  /-- The number of its row. -/
  row : Nat
deriving Inhabited

/-- The states that have been met, and all that they speak of. -/
structure States where
  sets : Lookaheads
  cells : Cells
  rows : Array Row
  /-- The numbers of rows by the core and the sets after its complete items. -/
  rowCodes : Std.HashMap (Array Nat) Nat
  table : Array State
  /-- The numbers of states by the core and the sets after the items of its kernel. -/
  codes : Std.HashMap (Array Nat) Nat

namespace States

/-- Looks a state up, or gives it the next number. -/
def code (core : Nat) (after : Array Nat) : StateM States Nat :=
  modifyGet fun states =>
    let key := after.push core
    match states.codes[key]? with
    | some code => (code, states)
    | none =>
      (states.table.size, { states with
        codes := states.codes.insert key states.table.size
        table := states.table.push { core, after, targets := #[], row := 0 } })

/-- The union of some sets of tokens. -/
def union (base : Nat) (others : List Nat) : StateM States Nat :=
  modifyGet fun states =>
    let (joined, sets) := (others.foldlM Lookaheads.union base).run states.sets
    (joined, { states with sets })

/-- Looks the row of a core up, or builds it. -/
def rowCode (plan : Plan) (orderings : List (List Nat)) (number : Nat) (core : Core)
    (after : List Nat) : StateM States Nat :=
  modifyGet fun states =>
    let key := (number :: after).toArray
    match states.rowCodes[key]? with
    | some code => (code, states)
    | none =>
      let (row, cells) := (plan.row orderings states.sets core after).run states.cells
      (states.rows.size, { states with
        cells
        rowCodes := states.rowCodes.insert key states.rows.size
        rows := states.rows.push row })

/-- Finds where a state leads, and its row. -/
def visit (plan : Plan) (orderings : List (List Nat)) (cores : Array Core) (number : Nat)
    (state : State) : StateM States Unit := do
  let core := cores.getD state.core default
  let flows ← core.flows.mapM fun (base, places) =>
    union base (places.map fun place => state.after.getD place 0)
  let row ← rowCode plan orderings state.core core
    (core.complete.map fun item => flows.getD item.2 0)
  let targets ← core.transitions.mapM fun way =>
    code way.target (way.flows.map fun flow => flows.getD flow 0)
  modify fun states => { states with
    table := states.table.setIfInBounds number { state with targets, row } }

/-- Visits the states from a number on, those they lead to included. -/
def visitFrom (plan : Plan) (orderings : List (List Nat)) (cores : Array Core) :
    (fuel number : Nat) → StateM States Unit
  | 0, _ => return
  | fuel + 1, number => do
    match (← get).table[number]? with
    | some state =>
      visit plan orderings cores number state
      visitFrom plan orderings cores fuel (number + 1)
    | none => return

/-- All states of a grammar. The first one has no items at all, and the second one is where a source
begins, which only its end may follow. -/
def ofPlan (plan : Plan) (cores : Array Core) (sets : Lookaheads) : States :=
  let first : StateM States Unit := do
    let atEnd ← modifyGet fun states =>
      let (code, sets) := (Lookaheads.code (1 <<< Token.sourceEnd.code)).run states.sets
      (code, { states with sets })
    let _ ← code 0 #[]
    let _ ← code 1 #[atEnd]
    visitFrom plan plan.orderings cores (1 <<< 24) 0
  (first.run { sets, cells := .initial, rows := #[], rowCodes := {}, table := #[], codes := {} }).2

end States

end Grammar

end TypeAtlas
