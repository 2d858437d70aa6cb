import TypeAtlas.Tree.Automaton.State

/-!
Groups of states that can stand for each other.

The states of a core start out in one group. A group is split where two of its states do different
things with a token, where one of them knows a token that the other might take for another one, and
where they lead into different groups. Once no group has to be split any more, each group becomes
one state.
-/

set_option autoImplicit false

namespace TypeAtlas

namespace Grammar

/-! ### Which tokens can be taken for others -/

/-- When a state that does not know a token may be put together with one that does. -/
inductive Admission where
  /-- In no case: whether the token is there depends on what the state knows. -/
  | never
  /-- Unless it knows one of these tokens, for which the new one could be taken. -/
  | without (tokens : Nat)

/-- The tokens with a property, one bit for each. -/
def tokensWith (property : Token → Bool) : Nat :=
  (List.range tokenCount).foldl (fun bits code =>
    if property (Token.all.getD code default) then bits ||| 1 <<< code else bits) 0

/-- When a state may come to know a token. A keyword, or one of two marks, could be taken for what
it begins with, and a keyword for the flags of a regular expression. -/
def admission : Token → Admission
  | .silentEnd | .templateText | .questionMark | .markupComment | .silentSignatureEnd
  | .escape | .pattern | .word "||" => .never
  | .word spelling =>
    let keyword := Token.isKeyword spelling
    .without <| tokensWith fun token =>
      match token with
      | .word other =>
        other ≠ spelling && other.toList.isPrefixOf spelling.toList &&
          (keyword || spelling = "?." || spelling = "\x7b|")
      | .flags => keyword
      | _ => false
  | _ => .without 0

/-- When a state may come to know each token. -/
def admissions : Array Admission := Token.all.map admission

/-- Whether a state that knows some tokens may come to know one more. -/
def admits (admissions : Array Admission) (known token : Nat) : Bool :=
  match admissions[token]? with
  | some (.without others) => known &&& others = 0
  | _ => false

/-- Whether states with these rows may be put together, as far as what they do with tokens is
concerned. -/
def Row.agrees (admissions : Array Admission) (a b : Row) : Bool :=
  (List.range tokenCount).all fun token =>
    let here := a.cells.getD token 0
    let there := b.cells.getD token 0
    here = there || (there = 0 && admits admissions b.tokens token) ||
      (here = 0 && admits admissions a.tokens token)

/-! ### Groups -/

/-- The states in groups. -/
structure Groups where
  /-- The group of every state. -/
  ofState : Array Nat
  /-- The states of every group. -/
  members : Array (Array Nat)

namespace Groups

/-- One group for every core. -/
def ofCores (states : States) : Groups :=
  let count := states.table.foldl (fun count state => max count (state.core + 1)) 0
  { ofState := states.table.map (·.core)
    members := (List.range states.table.size).foldl (fun members number =>
      members.modify (states.table.getD number default).core (·.push number))
      (Array.replicate count #[]) }

/-- Whether two states of a core lead into different groups over a way that both leave open, of
those that `counts` admits. -/
def part (groups : Groups) (states : States) (counts : Nat → Bool) (transitions : Array Transition)
    (a b : State) : Bool :=
  let waysA := (states.rows.getD a.row default).ways
  let waysB := (states.rows.getD b.row default).ways
  (List.range a.targets.size).any fun way =>
    let targetA := a.targets.getD way 0
    let targetB := b.targets.getD way 0
    targetA != targetB &&
      groups.ofState.getD targetA 0 != groups.ofState.getD targetB 0 &&
      waysA.getD way false && waysB.getD way false &&
      counts ((transitions[way]?.map (·.sign)).getD 0)

/-- The states that stay in a group, and those that leave it: where two states differ, the later one
leaves. -/
def divide (differ : Nat → Nat → Bool) : List Nat → List Nat × List Nat
  | [] => ([], [])
  | first :: rest =>
    let alike := rest.filter fun state => !differ first state
    let (stay, leave) := divide differ alike
    (first :: stay, rest.filter (differ first) ++ leave)
termination_by members => members.length
decreasing_by
  refine Nat.lt_succ_of_le ?_
  simpa using List.length_filter_le (fun state => !differ first state.1) rest.attach

/-- Splits the groups from a number on, those that are split off included. -/
def splitFrom (differ : Groups → Nat → Nat → Bool) : (fuel number : Nat) → Groups → Groups
  | 0, _, groups => groups
  | fuel + 1, number, groups =>
    match groups.members[number]? with
    | none => groups
    | some members =>
      match divide (differ groups) members.toList with
      | (_, []) => splitFrom differ fuel (number + 1) groups
      | (stay, leave) =>
        splitFrom differ fuel (number + 1) {
          ofState := leave.foldl (fun ofState state =>
            ofState.setIfInBounds state groups.members.size) groups.ofState
          members := (groups.members.setIfInBounds number stay.toArray).push leave.toArray }

/-- Splits groups until nothing changes. -/
def settle (split : Groups → Groups) : Nat → Groups → Groups
  | 0, groups => groups
  | fuel + 1, groups =>
    let next := split groups
    if next.members.size = groups.members.size then groups else settle split fuel next

/-- The groups of states that can stand for each other. -/
def ofStates (cores : Array Core) (states : States) : Groups :=
  let admissions := admissions
  let count := states.table.size + 1
  let state (number : Nat) : State := states.table.getD number default
  let row (state : State) : Row := states.rows.getD state.row default
  let transitions (state : State) : Array Transition := (cores.getD state.core default).transitions
  let byTokens (groups : Groups) (a b : Nat) : Bool :=
    let a := state a
    let b := state b
    !(a.row = b.row || (row a).agrees admissions (row b)) ||
      groups.part states (· < tokenCount) (transitions a) a b
  let byTargets (groups : Groups) (a b : Nat) : Bool :=
    groups.part states (fun _ => true) (transitions (state a)) (state a) (state b)
  settle (splitFrom byTargets count 0) count (splitFrom byTokens count 0 (ofCores states))

end Groups

end Grammar

end TypeAtlas
