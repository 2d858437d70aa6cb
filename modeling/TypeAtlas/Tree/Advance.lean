import TypeAtlas.Tree.Stack

/-!
How a version of the stack takes the next token.

It does all that its state can do with the token: each reduction gives a version of its own, and
shifting the token ends the step. A token with which nothing can be done pauses the version, unless
it is a keyword that can be taken for a name, until it is known whether others can go on.
-/

set_option autoImplicit false

namespace TypeAtlas

open Text (Cursor)
open Grammar (Reduction tokenCount)

namespace Parse

/-- What can be done with a token in a state. -/
def actionsOn (state : Nat) (sign : Sign) : Parse (List Action) := do
  match sign with
  | .symbol code => return (← get).automaton.actionsOn state code
  | .error | .skipped => return []

/-- The state to go on in after a part. -/
def after (state : Nat) (sign : Sign) : Parse Nat := do
  match sign with
  | .symbol code => return (← get).automaton.after state code
  | .error | .skipped => return Automaton.lost

/-- Puts parts together. -/
def group (sign : Sign) (marks : List (Option Kind × Option Role)) (parts : List Part)
    (place : Cursor) : Parse Part :=
  return Part.group (← get).automaton.kinds sign marks parts place

/-! ### Reading tokens -/

/-- The keyword that a name is read as in a state that can do something with it. -/
def keyword (automaton : Automaton) (state : Nat) (found : Sighting) : Token :=
  let length := found.stop.place.byte - found.start.place.byte
  let spelling := String.ofList (found.start.rest.take length)
  let word := Token.word spelling
  if found.token = .name && Token.isKeyword spelling && Token.all.contains word &&
      !(automaton.actionsOn state word.code).isEmpty then word
  else found.token

/-- Whether some text begins like a keyword. -/
def beginsLikeKeyword (text : List Char) : Bool :=
  Token.all.any fun token =>
    match token with
    | .word spelling => Token.isKeyword spelling && spelling.toList.isPrefixOf text
    | _ => false

/-- Whether a token that was read at some place can be taken there in another state too. That state
reads alike and can do something with the token. A name is one in its own state alone, and only if
it does not begin like a keyword. -/
def canTake (automaton : Automaton) (state : Nat) (cursor : Cursor) (reading : Reading) : Bool :=
  let goal (state : Nat) : Nat := (automaton.goals.getD state default).tokens
  let outlook (state : Nat) : Outlook := automaton.outlooks.getD state default
  match reading.token.sign with
  | .symbol code =>
    reading.token.start.byte = cursor.place.byte && goal reading.state = goal state &&
      outlook reading.state = outlook state && !(automaton.actionsOn state code).isEmpty &&
      (code ≠ Token.name.code || (reading.state = state &&
        !beginsLikeKeyword (cursor.skipWhile Lexeme.isSpace).rest))
  | .error | .skipped => false

/-- The place after the mark that tells the order of bytes, if a source begins with one. -/
def afterOrderMark (cursor : Cursor) : Cursor :=
  if cursor.place.byte = 0 && cursor.rest.head? = some '\uFEFF' then cursor.advance 1 else cursor

/-- Reads the next token of a version. What is no word of any kind is read as one error. -/
def readAnew (number : Nat) : Parse Part := do
  let automaton := (← get).automaton
  let vertex ← top number
  let cursor := afterOrderMark vertex.cursor
  let outlook := automaton.outlooks.getD vertex.state default
  let goal := automaton.goals.getD vertex.state default
  let unwritten ← match Gap.sighting outlook cursor with
    | some found =>
      if cursor.place.byte < found.stop.place.byte || (← advancedSinceError number) then
        pure (some found)
      else pure none
    | none => pure none
  match unwritten <|> goal.read cursor <|> Goal.anywhere.read cursor with
  | some found =>
    return Part.leaf automaton.kinds (keyword automaton vertex.state found).code
      vertex.cursor.place found.start.place found.stop
  | none =>
    let first := cursor.skipWhile Lexeme.isSpace
    let blanks := first.place.byte != cursor.place.byte
    let second := first.advance (max 1 (Lexeme.broken blanks first.rest))
    return Part.unreadable vertex.cursor.place first.place
      (Goal.anywhere.passUnreadable (second.rest.length + 1) second)

/-- The next token of a version: the one that was read last, if it can be taken here too. -/
def readToken (number : Nat) : Parse Part := do
  let vertex ← top number
  let parsing ← get
  match parsing.latest.filter (canTake parsing.automaton vertex.state vertex.cursor) with
  | some reading => return reading.token
  | none =>
    let token ← readAnew number
    modify fun parsing => { parsing with latest := some ⟨token, vertex.state⟩ }
    return token

/-! ### Reductions -/

/-- How many versions there are at most once a token has been taken. -/
def maxVersions : Nat := 6

/-- Merges a version into one of those before it, the given one left out. -/
def mergeBack (except target : Nat) : (candidates : List Nat) → Parse Bool
  | [] => return false
  | candidate :: rest => do
    let merged ← if candidate = except then pure false else merge candidate target
    if merged then return true else mergeBack except target rest

/-- Puts the pieces of a production together, in all ways that there are, each in a new version. The
answer is the first one of these, if any is left. -/
def reduce (number : Nat) (reduction : Reduction) : Parse (Option Nat) := do
  let initial ← versionCount
  let halted := (← get).versions.foldl (fun count version =>
    if version.isHalted then count + 1 else count) 0
  let popped ← pop number reduction.count
  let _ ← popped.foldlM (fun removed found => do
    let target := found.version - removed
    if maxVersions + 4 + halted < target then
      removeVersion target
      return removed + 1
    else
      let below ← top target
      let sign : Sign := .symbol (tokenCount + reduction.head)
      let readings ← found.readings.mapM fun parts => do
        let (pieces, extras) := Part.splitExtras parts
        return (← group sign reduction.marks pieces below.cursor, extras)
      let (whole, extras) := readings.tail.foldl (fun best reading =>
        if best.1.yieldsTo reading.1 then reading else best) (readings.headD default)
      let state ← after below.state sign
      push target (some { whole with weight := whole.weight + reduction.weight }) state
      extras.forM fun extra => push target (some extra) state
      if ← mergeBack number target (List.range target) then return removed + 1
      else return removed) 0
  return if initial < (← versionCount) then some initial else none

/-! ### The end -/

/-- The tree of a whole source: its last part that is no extra, with the others in it. -/
def wholeOf (parts : List Part) : Parse Part := do
  let (pieces, extras) := Part.splitExtras parts
  match pieces.getLast? with
  | some whole =>
    let (kept, place) := (pieces.dropLast ++ whole.parts ++ extras, whole.stop)
    group whole.sign whole.marks kept place
  | none => return default

/-- Ends a version with the end of the source. Of all readings the best one is kept. -/
def accept (number : Nat) (token : Part) : Parse Unit := do
  push number (some token) Automaton.start
  let popped ← popAll number
  for found in popped do
    for parts in found.readings do
      let whole ← wholeOf parts
      modify fun parsing => { parsing with
        finishes := parsing.finishes + 1
        finished := match parsing.finished with
          | some best => if best.yieldsTo whole then some whole else some best
          | none => some whole }
  popped.head?.forM fun found => removeVersion found.version
  change number fun version => { version with status := .halted }

end Parse

end TypeAtlas
