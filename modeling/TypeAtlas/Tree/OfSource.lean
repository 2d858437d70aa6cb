import TypeAtlas.Tree.Repair

/-!
The syntax tree of a source.

The versions of the stack take tokens in turn, each until it is ahead of the others, and between the
turns those that are not worth going on with are given up. Reading ends when no version is left, or
when a reading of the whole source costs less than what the versions that are left have cost.
-/

set_option autoImplicit false

namespace TypeAtlas

open Text (Cursor Location)

namespace Parse

/-! ### Taking a token -/

/-- What came of the actions for a token. -/
inductive Outcome where
  /-- The token has been taken. -/
  | taken
  /-- There is a version after a reduction, which can go on with the token. -/
  | reduced (version : Nat)
  /-- Nothing could be done with it. -/
  | stuck

/-- Does what can be done with a token, up to where it is taken. -/
def act (number state : Nat) (token : Part) : (latest : Outcome) → List Action → Parse Outcome
  | latest, [] => return latest
  | latest, action :: rest => do
    match action with
    | .shift _ true => act number state token latest rest
    | .shift target false =>
      push number (some { token with isExtra := false }) target
      return .taken
    | .pass =>
      push number (some { token with isExtra := true }) state
      return .taken
    | .reduce code =>
      match ← reduce number ((← get).automaton.reduction code) with
      | some version => act number state token (.reduced version) rest
      | none => act number state token latest rest
    | .accept =>
      accept number token
      return .taken
    | .recover =>
      recover number token
      return .taken

/-- Whether a sign is that of a keyword. -/
def isKeyword : Sign → Bool
  | .symbol code =>
    match Token.all.getD code default with
    | .word spelling => Token.isKeyword spelling
    | _ => false
  | .error | .skipped => false

/-- Takes a token on a version after all reductions that come before it. A keyword with which
nothing can be done is taken for a name. With any other such token the version waits, or in the lost
state finds out how to go on. -/
def take (number : Nat) : (fuel : Nat) → (token : Part) → Parse Unit
  | 0, _ => return
  | fuel + 1, token => do
    let state := (← top number).state
    match ← act number state token .stuck (← actionsOn state token.sign) with
    | .taken => return
    | .reduced version =>
      replaceVersion version number
      take number fuel token
    | .stuck =>
      let name : Sign := .symbol Token.name.code
      if isKeyword token.sign && !(← actionsOn state name).isEmpty then
        take number fuel { token with sign := name, isVisible := true }
      else if state = Automaton.lost then recover number token
      else
        let count := (← top number).count
        change number fun version => { version with status := .paused token, lastError := count }

/-! ### The whole source -/

/-- Lets a version take tokens until it is ahead of the furthest place, or at least has come as far,
those before it having been there. The answer is the furthest place now. -/
def advance (number : Nat) : (fuel furthest : Nat) → Parse Nat
  | 0, furthest => return furthest
  | fuel + 1, furthest => do
    if (← version number).isActive then
      take number fuel (← readToken number)
      let place := (← top number).cursor.place.byte
      if furthest < place || (0 < number && place = furthest) then return place
      else advance number fuel furthest
    else return furthest

/-- Lets the versions from a number on take tokens. -/
def advanceFrom : (fuel number furthest : Nat) → Parse Nat
  | 0, _, furthest => return furthest
  | fuel + 1, number, furthest => do
    if number < (← versionCount) then
      advanceFrom fuel (number + 1) (← advance number fuel furthest)
    else return furthest

/-- Whether a reading of the whole source costs less than the versions that go on. -/
def isBest (finished : Option Part) (least : Option Nat) : Bool :=
  finished.any fun whole => least.all fun least => whole.cost < least

/-- Reads a source to its end. -/
def toEnd : (fuel furthest : Nat) → Parse Unit
  | 0, _ => return
  | fuel + 1, furthest => do
    let furthest ← advanceFrom fuel 0 furthest
    let count ← versionCount
    let least ← condense
    if count = 0 || isBest (← get).finished least then return
    else toEnd fuel furthest

end Parse

/-- How a source begins to be read. -/
def Parsing.start (automaton : Automaton) (source : String) : Parsing :=
  { automaton
    vertices := #[⟨Automaton.start, #[], ⟨.start, source.toList⟩, 0, 0, 0⟩]
    versions := #[⟨0, 0, .active, none⟩]
    latest := none
    finished := none
    finishes := 0
    fuel := 4096 * (source.utf8ByteSize + 16) }

/-- The syntax tree of a source. -/
def Node.ofSource (source : String) : Node :=
  let automaton := Automaton.typeScript.get
  let parsing := Parsing.start automaton source
  match (StateT.run (Parse.toEnd parsing.fuel 0) parsing).2.finished with
  | some whole => whole.toNode automaton.kinds source
  | none => default

end TypeAtlas
