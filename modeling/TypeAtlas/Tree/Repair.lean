import TypeAtlas.Tree.Advance

/-!
How reading goes on after an error.

There are three ways to go on where a token fits into nothing: a token is missing, parts that have
been read belong to no whole and are left out, or the token itself is left out. All of them are
tried, every one has its cost, and versions that have become much more expensive than others are
given up.
-/

set_option autoImplicit false

namespace TypeAtlas

open Text (Location)
open Grammar (Reduction tokenCount)

/-! ### Comparing versions -/

/-- What versions are compared by. -/
structure Standing where
  /-- What the errors have cost. -/
  cost : Nat
  /-- How many nodes there are since the last error. -/
  count : Nat
  /-- How much the parts are preferred. -/
  weight : Int
  /-- Whether the version has not yet found out how to go on. -/
  inError : Bool

/-- Which of two versions is to be taken. -/
inductive Preference where
  | takeFirst | preferFirst | none | preferSecond | takeSecond
deriving DecidableEq

/-- How much more the errors of a version may have cost, the nodes read since counted in. -/
def maxCostDifference : Nat := 1800

/-- Which of two versions is to be taken: one that is not in an error, then the cheaper one, all the
more when much has been read since, then the one that is preferred more. -/
def Standing.compare (a b : Standing) : Preference :=
  if !a.inError && b.inError then if a.cost < b.cost then .takeFirst else .preferFirst
  else if a.inError && !b.inError then if b.cost < a.cost then .takeSecond else .preferSecond
  else if a.cost < b.cost then
    if maxCostDifference < (b.cost - a.cost) * (1 + a.count) then .takeFirst else .preferFirst
  else if b.cost < a.cost then
    if maxCostDifference < (a.cost - b.cost) * (1 + b.count) then .takeSecond else .preferSecond
  else if b.weight < a.weight then .preferFirst
  else if a.weight < b.weight then .preferSecond
  else .none

namespace Parse

/-- What a version is compared by. -/
def standing (number : Nat) : Parse Standing := do
  let version ← version number
  let vertex ← top number
  let cost ← errorCost number
  return {
    cost := if version.isPaused then cost + Part.skippedCost else cost
    count := ← countSinceError number
    weight := vertex.weight
    inError := version.isPaused || vertex.state = Automaton.lost }

/-- Whether one of some versions that have come as far as a given one is better than that one would
be with a cost. -/
def anyBetter (number place : Nat) (mine : Standing) : (others : List Nat) → Parse Bool
  | [] => return false
  | other :: rest => do
    if other = number || !(← version other).isActive ||
        (← top other).cursor.place.byte < place then
      anyBetter number place mine rest
    else
      match mine.compare (← standing other) with
      | .takeSecond => return true
      | .preferSecond =>
        if ← canMerge other number then return true else anyBetter number place mine rest
      | _ => anyBetter number place mine rest

/-- Whether there is something better than a version would be with a cost. -/
def betterExists (number : Nat) (cost : Nat) : Parse Bool := do
  if (← get).finished.any fun whole => whole.cost ≤ cost then return true
  else
    let vertex ← top number
    let mine : Standing :=
      { cost, inError := false, weight := vertex.weight, count := ← countSinceError number }
    anyBetter number vertex.cursor.place.byte mine (List.range (← versionCount))

/-! ### Reductions without regard to the token -/

/-- The reductions that are possible in a state with some tokens, one for every part and number of
pieces, and whether one of the tokens can be shifted. -/
def reductionsOn (automaton : Automaton) (state : Nat) (tokens : List Nat) :
    List Reduction × Bool :=
  tokens.foldl (fun found token =>
    (automaton.actionsOn state token).foldl (fun (reductions, shifts) action =>
      match action with
      | .shift _ repeats => (reductions, shifts || !repeats)
      | .recover => (reductions, true)
      | .reduce number =>
        let reduction := automaton.reduction number
        let known := reductions.any fun other =>
          other.head = reduction.head && other.count = reduction.count
        if reduction.count = 0 || known then (reductions, shifts)
        else (reductions ++ [reduction], shifts)
      | .accept | .pass => (reductions, shifts)) found) ([], false)

/-- Does all reductions that are possible in a version, over and over, with one token or with any.
A version that could shift the token stays, and with one token the others are taken away. The answer
is whether one stays for that reason. -/
def reduceAll (start : Nat) (token : Option Nat) (initial : Nat) :
    (fuel round number : Nat) → (shifted : Bool) → Parse Bool
  | 0, _, _, shifted => return shifted
  | fuel + 1, round, number, shifted => do
    let count ← versionCount
    if count ≤ number then return shifted
    else if ← (List.range number).foldlM (fun merged other =>
        if merged || other < initial then pure merged else merge other number) false then
      reduceAll start token initial fuel (round + 1) number shifted
    else
      let automaton := (← get).automaton
      let tokens := match token with
        | some token => [token]
        | none => (List.range tokenCount).tail
      let (reductions, shifts) := reductionsOn automaton (← top number).state tokens
      let last ← reductions.foldlM (fun _ reduction => reduce number reduction) none
      match shifts, last with
      | false, some last =>
        if round < maxVersions then
          replaceVersion last number
          reduceAll start token initial fuel (round + 1) number shifted
        else
          if token.isSome then removeVersion number
          reduceAll start token initial fuel (round + 1)
            (if number = start then count else number + 1) shifted
      | _, _ =>
        if !shifts && token.isSome then removeVersion number
        reduceAll start token initial fuel (round + 1)
          (if number = start then count else number + 1) (shifted || shifts)

/-- Does all reductions that are possible in a version. -/
def reduceFrom (start : Nat) (token : Option Nat) : Parse Bool := do
  reduceAll start token (← versionCount) (← get).fuel 0 start false

/-! ### Leaving something out -/

/-- Pushes extras that stood at the end of something. -/
def pushExtras (number state : Nat) (extras : List Part) : Parse Unit :=
  extras.forM fun extra => push number (some extra) state

/-- Returns with a version to a place further down, all parts above being left out. The answer is
whether the state there is the given one on some way down. -/
def returnTo (number depth state : Nat) : Parse Bool := do
  let popped ← pop number depth
  popped.foldlM (fun returned found => do
    if (← top found.version).state ≠ state then
      change found.version fun version => { version with status := .halted }
      return returned
    else
      let errors ← popError found.version
      let (pieces, extras) := Part.splitExtras (errors ++ found.readings.headD [])
      if !pieces.isEmpty then
        let error ← group .error [] pieces (← top found.version).cursor
        push found.version (some { error with isExtra := true }) state
      pushExtras found.version state extras
      return true) false

/-- Returns to the first of some places where a token can be taken and that is worth its cost. -/
def returnToFirst (number versions : Nat) (token : Part) (cost newer : Nat) :
    List Return → Parse Bool
  | [] => return false
  | target :: rest => do
    let here := (← top number).cursor.place
    let vertices := (← get).vertices
    let taken := ((← get).versions.toList.take versions).any fun version =>
      let vertex := vertices.getD version.top default
      vertex.state = target.state && vertex.cursor.place.byte = here.byte
    if target.state = Automaton.lost || target.place.byte = here.byte || taken then
      returnToFirst number versions token cost newer rest
    else if ← betterExists number
        (cost + Part.skippedCost * target.depth + Part.textCost target.place here) then
      return false
    else
      let depth := if newer > 0 then target.depth + 1 else target.depth
      let returned ← if (← actionsOn target.state token.sign).isEmpty then pure false
        else returnTo number depth target.state
      if returned then return true
      else returnToFirst number versions token cost newer rest

/-- Takes the versions from a number on away that are not active. -/
def removeInactive (number : Nat) : Parse Unit :=
  modify fun parsing => { parsing with
    versions := parsing.versions.extract 0 number ++
      (parsing.versions.extract number parsing.versions.size).filter Version.isActive }

/-- Leaves a token out, together with what has been left out right before it. -/
def leaveOut (number newer : Nat) (token : Part) : Parse Unit := do
  let comment := (← actionsOn Automaton.start token.sign).getLast? = some .pass
  let token := if comment then { token with isExtra := true } else token
  let here := (← top number).cursor
  let left ← group .skipped [] [token] here
  if newer > 0 then
    let popped ← pop number 1
    match popped with
    | first :: _ =>
      modify fun parsing => { parsing with
        versions := parsing.versions.extract 0 (first.version + 1) }
      replaceVersion first.version number
      let left ← group .skipped [] (first.readings.headD [] ++ [left]) here
      push number (some left) Automaton.lost
    | [] => push number (some left) Automaton.lost
  else push number (some left) Automaton.lost

/-- Finds out how to go on in a version that is in an error. -/
def recover (number : Nat) (token : Part) : Parse Unit := do
  let versions ← versionCount
  let newer ← countSinceError number
  let cost ← errorCost number
  let returns := (← version number).returns.getD []
  let returned ← if token.sign = .error then pure false
    else returnToFirst number versions token cost newer returns
  removeInactive versions
  if returned && maxVersions < (← versionCount) then
    change number fun version => { version with status := .halted }
  else if token.sign = .sourceEnd then
    let rest ← group .error [] [] (← top number).cursor
    push number (some rest) Automaton.start
    accept number token
  else if ← betterExists number
      (cost + Part.skippedCost + Part.textCost token.start token.stop.place) then
    change number fun version => { version with status := .halted }
  else leaveOut number newer token

/-! ### Supplying a token -/

/-- The token that has to be taken after a supplied one. At the end of the source it may be any. -/
def awaited : Sign → Option Nat
  | .symbol code => if code = Token.sourceEnd.code then none else some code
  | .error | .skipped => none

/-- Supplies the first of some tokens after which the token that is there can be taken. The answer
is whether there is one. -/
def supply (number : Nat) (token : Part) : (missing : List Nat) → Parse Bool
  | [] => return false
  | missing :: rest => do
    let parsing ← get
    let vertex ← top number
    let state := parsing.automaton.after vertex.state missing
    let reduces := match token.sign with
      | .symbol code =>
        match parsing.automaton.actionsOn state code with
        | .reduce _ :: _ => true
        | _ => false
      | _ => false
    if state = Automaton.lost || state = vertex.state || !reduces then supply number token rest
    else
      let copy ← addVersion { ← version number with returns := none }
      push copy (some (Part.missing parsing.automaton.kinds missing vertex.cursor)) state
      if ← reduceFrom copy (awaited token.sign) then return true else supply number token rest

/-- Begins an error in versions: a token is supplied in the first one where that helps. -/
def beginErrors (token : Part) : (supplied : Bool) → (numbers : List Nat) → Parse Unit
  | _, [] => return
  | supplied, number :: rest => do
    let supplied ← if supplied then pure true
      else supply number token (List.range tokenCount).tail
    push number none Automaton.lost
    beginErrors token supplied rest

/-- Goes on in a version that has met a token it can do nothing with. -/
def handleError (number : Nat) (token : Part) : Parse Unit := do
  let versions ← versionCount
  let _ ← reduceFrom number none
  let reduced ← versionCount
  beginErrors token false (number :: (List.range reduced).drop versions)
  (List.range (reduced - versions)).forM fun _ => do
    let _ ← merge number versions
  listReturns number
  recover number token

/-! ### Giving versions up -/

/-- Compares a version with one of those before it, and so on. The answer is the number of the next
version to look at. -/
def compareBack (mine : Standing) : (fuel number other : Nat) → Parse Nat
  | 0, number, _ => return number + 1
  | fuel + 1, number, other => do
    if number ≤ other then return number + 1
    else
      match (← standing other).compare mine with
      | .takeFirst =>
        removeVersion number
        return number
      | .preferFirst | .none =>
        if ← merge other number then return number else compareBack mine fuel number (other + 1)
      | .preferSecond =>
        if ← merge other number then return number
        else
          swapVersions number other
          compareBack mine fuel number (other + 1)
      | .takeSecond =>
        removeVersion other
        compareBack mine fuel (number - 1) other

/-- Gives up the versions from a number on that are not worth going on with. The answer is the least
cost of one that is not in an error, those before counted in. -/
def compareFrom : (fuel number : Nat) → (least : Option Nat) → Parse (Option Nat)
  | 0, _, least => return least
  | fuel + 1, number, least => do
    if (← versionCount) ≤ number then return least
    else if (← version number).isHalted then
      removeVersion number
      compareFrom fuel number least
    else
      let mine ← standing number
      let least := if mine.inError then least else some (least.elim mine.cost (min mine.cost))
      compareFrom fuel (← compareBack mine fuel number 0) least

/-- Lets the first of the paused versions go on, unless one is active, and gives the others up. -/
def resumeFrom : (remaining number : Nat) → (resumed : Bool) → (least : Option Nat) →
    Parse (Option Nat)
  | 0, _, _, least => return least
  | remaining + 1, number, resumed, least => do
    match (← version number).status with
    | .paused token =>
      if !resumed && (← get).finishes < maxVersions then
        let cost ← errorCost number
        change number fun version => { version with status := .active }
        handleError number token
        resumeFrom remaining (number + 1) true (some cost)
      else
        removeVersion number
        resumeFrom remaining number resumed least
    | _ => resumeFrom remaining (number + 1) true least

/-- Gives up versions that are not worth going on with, and lets one go on that is paused. The
answer is the least cost of one that is not in an error. -/
def condense : Parse (Option Nat) := do
  let least ← compareFrom (← get).fuel 0 none
  modify fun parsing => { parsing with versions := parsing.versions.extract 0 maxVersions }
  resumeFrom (← versionCount) 0 false least

end Parse

end TypeAtlas
