import TypeAtlas.Tree.Automaton.Merge
import TypeAtlas.Tree.Goal

/-!
The automaton that reads sources.

A state says what to do with the token that comes next: shift it, put together the pieces that have
been found, or both, to be tried side by side. Once pieces have been put together, the state before
them says where to go on. Two states are special: the one numbered zero, in which nothing is known
but that there has been an error, and the one numbered one, in which a source begins.
-/

set_option autoImplicit false

namespace TypeAtlas

open Grammar

/-- What a state can do with a token. -/
inductive Action where
  /-- Take the token and go to a state. Such a step in a repetition is left to another version. -/
  | shift (state : Nat) (repeats : Bool)
  /-- Pass a comment. -/
  | pass
  /-- Put together what the reduction with this number says. -/
  | reduce (reduction : Nat)
  /-- End. -/
  | accept
  /-- Find out how to go on after an error. -/
  | recover
deriving DecidableEq, Repr, Inhabited

/-- The automaton. -/
structure Automaton where
  /-- For every state and token, what can be done. -/
  actions : Array (Array (List Action))
  /-- For every state and part, the state to go on in, or zero. -/
  ways : Array (Array Nat)
  /-- For every state, the words that are looked for. -/
  goals : Array Goal
  /-- For every state, what may come next. -/
  outlooks : Array Outlook
  reductions : Array Reduction
  /-- For every token and part, the kind of the node it becomes, if it becomes one. -/
  kinds : Array (Option Kind)
deriving Inhabited

namespace Automaton

/-- The state in which nothing is known but that there has been an error. -/
def lost : Nat := 0

/-- The state in which a source begins. -/
def start : Nat := 1

/-- What a state can do with a token. -/
def actionsOn (automaton : Automaton) (state token : Nat) : List Action :=
  (automaton.actions.getD state #[]).getD token []

/-- Where a state goes on after a token or part: the lost state if it does not. -/
def after (automaton : Automaton) (state sign : Nat) : Nat :=
  if sign < tokenCount then
    match (automaton.actionsOn state sign).getLast? with
    | some (.shift target _) => target
    | some .pass => state
    | _ => lost
  else (automaton.ways.getD state #[]).getD (sign - tokenCount) lost

/-- The reduction with a number. -/
def reduction (automaton : Automaton) (number : Nat) : Reduction :=
  automaton.reductions.getD number default

/-! ### One state for each group -/

/-- What a group can do: cells of rows, and states to go on in. -/
structure Merged where
  actions : Array (List Action)
  ways : Array Nat
deriving Inhabited

/-- What the states of a group can do together. -/
def mergeGroup (plan : Plan) (cores : Array Core) (states : States) (groups : Groups)
    (members : Array Nat) : Merged :=
  members.foldl (fun merged number =>
    let state := states.table.getD number default
    let row := states.rows.getD state.row default
    let ways := ((cores.getD state.core default).transitions.zip state.targets).map
      fun (way, target) => (way.sign, groups.ofState.getD target 0)
    let targets := ways.foldl (fun targets way => targets.setIfInBounds way.1 way.2)
      (Array.replicate (tokenCount + merged.ways.size) lost)
    let onToken (token : Nat) (known : List Action) : List Action :=
      if !known.isEmpty then known
      else
        let cell := states.cells.get (row.cells.getD token 0)
        (cell.reductions.map fun number =>
          if (plan.items.reductions.getD number default).head = plan.facts.whole then .accept
          else .reduce number) ++
          (cell.shift.map fun repeats => .shift (targets.getD token lost) repeats).toList
    { actions := merged.actions.mapIdx onToken
      ways := merged.ways.mapIdx fun part known =>
        if known = lost then targets.getD (tokenCount + part) lost else known })
    { actions := Array.replicate tokenCount []
      ways := Array.replicate plan.facts.productions.size lost }

/-- The part that a state does nothing but pass on to what holds it: one that becomes no node and is
no category. -/
def passedOn (plan : Plan) (merged : Merged) : Option Nat :=
  let heads := merged.actions.toList.flatten.map fun action =>
    match action with
    | .reduce number =>
      let reduction := plan.items.reductions.getD number default
      let symbol := plan.facts.productions.symbols.getD reduction.head default
      if reduction.isPlain && symbol.kind?.isNone && !symbol.isCategory then some reduction.head
      else none
    | _ => none
  match heads with
  | some head :: rest => if rest.all (· = some head) then some head else none
  | _ => none

/-- Where to go instead of a state that only passes a part on. -/
def beyond (passing : Array (Option Nat)) (ways : Array Nat) : (fuel target : Nat) → Nat
  | 0, target => target
  | fuel + 1, target =>
    match passing.getD target none with
    | some part => beyond passing ways fuel (ways.getD part lost)
    | none => target

/-- The state that does not go to states that only pass a part on. -/
def skipPassing (passing : Array (Option Nat)) (merged : Merged) : Merged :=
  let target := beyond passing merged.ways (merged.ways.size + 1)
  { actions := merged.actions.map <| List.map fun action =>
      match action with
      | .shift state repeats => .shift (target state) repeats
      | other => other
    ways := merged.ways.map target }

/-- What the lost state can do: find out how to go on, with every token but the texts of literals
and one mark that is not told from another one. -/
def lostActions : Array (List Action) :=
  let unknown : List Token :=
    [.doubleFragment, .singleFragment, .pattern, .flags, .word "?:"]
  Token.all.map fun token => if unknown.contains token then [] else [.recover]

/-- The tokens that something can be done with. -/
def knownTokens (actions : Array (List Action)) : Nat :=
  (List.range actions.size).foldl (fun bits token =>
    if (actions.getD token []).isEmpty then bits else bits ||| 1 <<< token) 0

/-- The goal of a state that knows some tokens. -/
def goalOf (keywords readable known : Nat) : Goal :=
  let name := if known &&& keywords = 0 then 0 else 1 <<< Token.name.code
  Goal.ofWords ((known &&& readable) ||| name)

/-- What may come next in a state. -/
def outlookOf (known : Nat) : Outlook :=
  let has (token : Token) : Bool := known.testBit token.code
  { templateText := has .templateText
    silentEnd := has .silentEnd
    silentSignatureEnd := has .silentSignatureEnd
    questionMark := has .questionMark
    operator := has (.word "||")
    markup := !(has (.word "||") || has .escape || has .pattern) }

/-- The automaton of a grammar. -/
def ofGrammar (grammar : Grammar) : Automaton :=
  let (plan, sets) := Plan.ofGrammar grammar
  let (cores, sets) := plan.cores sets
  let states := States.ofPlan plan cores sets
  let groups := Groups.ofStates cores states
  let merged := groups.members.map (mergeGroup plan cores states groups)
  let passing := merged.map (passedOn plan)
  let merged := merged.map (skipPassing passing)
  let actions := (merged.map (·.actions)).setIfInBounds lost lostActions
  let comments := (Token.all.filter Token.isComment).map Token.code
  let isKeyword (token : Token) : Bool :=
    match token with
    | .word spelling => Token.isKeyword spelling
    | _ => false
  let keywords := tokensWith isKeyword
  let readable := tokensWith Goal.isReadable
  let known := actions.map knownTokens
  { actions := actions.map fun actions =>
      comments.foldl (fun actions token => actions.setIfInBounds token [.pass]) actions
    ways := merged.map (·.ways)
    goals := (known.map (goalOf keywords readable)).setIfInBounds lost .anywhere
    outlooks := known.map outlookOf
    reductions := plan.items.reductions
    kinds := Token.all.map Token.kind? ++ plan.facts.productions.symbols.map Symbol.kind? }

/-- The automaton that reads TypeScript. It is built when it is first used. -/
def typeScript : Thunk Automaton := Thunk.mk fun _ => ofGrammar Grammar.typeScript

end Automaton

end TypeAtlas
