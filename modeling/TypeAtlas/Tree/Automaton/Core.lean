import TypeAtlas.Tree.Automaton.Item

/-!
Cores: the sets of items between which the automaton moves.

A core is given by its kernel, the items that lead into it. Everything else follows from the kernel:
the items with which the parts that may come next begin, the cores that are reached over every sign,
and where the tokens come from that may follow an item. These tokens are a flow: a fixed set with
what may follow some items of the kernel, which differs from one state of the core to another.
-/

set_option autoImplicit false

namespace TypeAtlas

namespace Grammar

/-- Where the tokens that may follow an item come from. -/
structure Flow where
  /-- The number of the set of tokens that always may. -/
  base : Nat
  /-- One bit for every item of the kernel whose tokens may. -/
  sources : Nat
deriving DecidableEq, Hashable

/-- The way from one core to another. -/
structure Transition where
  sign : Nat
  target : Nat
  /-- For every item of the kernel of the target, the place of its flow among those of the core. -/
  flows : Array Nat

/-- A core. -/
structure Core where
  /-- The numbers of the items, in order. -/
  kernel : Array Nat
  /-- The flows of the core: a set of tokens and places in the kernel. -/
  flows : Array (Nat × List Nat)
  /-- The ways on, in the order of their signs. -/
  transitions : Array Transition
  /-- The items that have been found, each with the place of its flow: those of few pieces first,
  then those of the first parts. -/
  complete : List (Nat × Nat)
deriving Inhabited

/-- The cores of a grammar by their numbers. -/
structure Cores where
  sets : Lookaheads
  kernels : Array (Array Nat)
  codes : Std.HashMap (Array Nat) Nat

namespace Cores

/-- Looks the core with a kernel up, or gives it the next number. -/
def code (kernel : Array Nat) : StateM Cores Nat :=
  modifyGet fun cores =>
    match cores.codes[kernel]? with
    | some code => (code, cores)
    | none =>
      (cores.kernels.size, { cores with
        codes := cores.codes.insert kernel cores.kernels.size
        kernels := cores.kernels.push kernel })

/-- The union of two sets of tokens. -/
def union (a b : Nat) : StateM Cores Nat :=
  modifyGet fun cores =>
    let (joined, sets) := (Lookaheads.union a b).run cores.sets
    (joined, { cores with sets })

/-- Two flows together. -/
def join (a b : Flow) : StateM Cores Flow := do
  return ⟨← union a.base b.base, a.sources ||| b.sources⟩

/-- One more flow into the place of an array. -/
def joinAt (flows : Array (Option Flow)) (place : Nat) (flow : Flow) :
    StateM Cores (Array (Option Flow)) := do
  match flows.getD place none with
  | none => return flows.setIfInBounds place (some flow)
  | some old => return flows.setIfInBounds place (some (← join old flow))

end Cores

/-- A part that begins where another one begins. -/
structure Beginning where
  part : Nat
  /-- The number of the set of tokens that can come after it in any case. -/
  beyond : Nat
  /-- Whether what can come after the other part can come after it, too. -/
  passes : Bool

/-- A grammar with all that its cores are built from. -/
structure Plan where
  facts : Facts
  items : Items
  /-- For every part the signs its productions begin with, each with the item that follows. -/
  openings : Array (List (Nat × Nat))
  /-- For every part the items of its productions without a piece. -/
  empties : Array (List Nat)
  /-- For every part the parts it can begin with. -/
  beginnings : Array (List Beginning)
  /-- The item of the whole source with nothing found. -/
  start : Nat

namespace Plan

/-- The parts that can begin where a part begins. -/
def beginningsOf (leads : Array (List Productions.Lead)) (part : Nat) :
    StateM Lookaheads (List Beginning) :=
  (Productions.beginnings leads part).mapM fun begun => do
    return ⟨begun.1, ← Lookaheads.code begun.2.bits, begun.2.passes⟩

/-- The signs that productions begin with, given their first items. -/
def openingsOf (items : Items) (firsts : List Nat) : List (Nat × Nat) :=
  List.eraseDups <| firsts.filterMap fun item =>
    (items.entry item).next.map fun sign => (sign, (items.entry item).successor)

/-- The plan of a grammar, with the sets of tokens it speaks of. -/
def ofGrammar (grammar : Grammar) : Plan × Lookaheads :=
  let productions := Productions.ofGrammar grammar
  let starts := productions.starts
  let signs := List.range (tokenCount + productions.size)
  let (codes, sets) :=
    (signs.mapM fun sign => Lookaheads.code (Productions.startsOf starts sign)).run .initial
  let (beginnings, sets) :=
    ((List.range productions.size).mapM (beginningsOf (productions.leads starts))).run sets
  let facts : Facts := { productions, roles := productions.roles, starts := codes.toArray }
  let (firsts, items) := facts.addItems.run .initial
  ({ facts, items
     openings := firsts.map (openingsOf items)
     empties := firsts.map (List.filter fun item => (items.entry item).next.isNone)
     beginnings := beginnings.toArray
     start := (firsts.getD facts.whole []).headD 0 }, sets)

/-- The entry of an item. -/
def entry (plan : Plan) (item : Nat) : ItemEntry := plan.items.entry item

/-- The flows into the parts that may come next, given by the items of a kernel. -/
def carried (plan : Plan) (kernel : Array Nat) : StateM Cores (Array (Option Flow)) :=
  (List.range kernel.size).foldlM (fun flows place => do
    let entry := plan.entry (kernel.getD place 0)
    match entry.next with
    | some sign =>
      if sign < tokenCount then return flows
      else
        let flow := match entry.beyond with
          | some set => ⟨set, 0⟩
          | none => ⟨0, 1 <<< place⟩
        Cores.joinAt flows (sign - tokenCount) flow
    | none => return flows) (Array.replicate plan.facts.productions.size none)

/-- The flows into all parts that may begin next. -/
def flowsIn (plan : Plan) (kernel : Array Nat) : StateM Cores (Array (Option Flow)) := do
  let carried ← plan.carried kernel
  (List.range carried.size).foldlM (fun flows part =>
    match carried.getD part none with
    | none => return flows
    | some flow =>
      (plan.beginnings.getD part []).foldlM (fun flows begun => do
        let fixed : Flow := ⟨begun.beyond, 0⟩
        Cores.joinAt flows begun.part
          (← if begun.passes then Cores.join fixed flow else pure fixed)) flows)
    (Array.replicate carried.size none)

/-- Items with their flows, each item once and in order. -/
def merged : List (Nat × Flow) → StateM Cores (List (Nat × Flow))
  | [] => return []
  | (item, flow) :: rest => do
    match ← merged rest with
    | (next, other) :: more =>
      if item = next then return (item, ← Cores.join flow other) :: more
      else return (item, flow) :: (next, other) :: more
    | [] => return [(item, flow)]

/-- The core with a kernel. -/
def core (plan : Plan) (kernel : Array Nat) : StateM Cores Core := do
  let parts ← plan.flowsIn kernel
  let mut buckets : Array (List (Nat × Flow)) := Array.replicate (tokenCount + parts.size) []
  let mut complete : List (Nat × Flow) := []
  for place in [0:kernel.size] do
    let item := kernel.getD place 0
    let entry := plan.entry item
    let flow : Flow := ⟨0, 1 <<< place⟩
    match entry.next with
    | some sign => buckets := buckets.modify sign ((entry.successor, flow) :: ·)
    | none => complete := (item, flow) :: complete
  for part in [0:parts.size] do
    match parts.getD part none with
    | some flow =>
      for (sign, successor) in plan.openings.getD part [] do
        buckets := buckets.modify sign ((successor, flow) :: ·)
      for item in plan.empties.getD part [] do
        complete := (item, flow) :: complete
    | none => pure ()
  let mut flows : Array Flow := #[]
  let mut places : Std.HashMap Flow Nat := {}
  let mut transitions : Array Transition := #[]
  for sign in [0:buckets.size] do
    let found ← merged ((buckets.getD sign []).mergeSort fun a b => a.1 ≤ b.1)
    if !found.isEmpty then
      let mut indices := #[]
      for (_, flow) in found do
        match places[flow]? with
        | some index => indices := indices.push index
        | none =>
          indices := indices.push flows.size
          places := places.insert flow flows.size
          flows := flows.push flow
      let target ← Cores.code (found.map (·.1)).toArray
      transitions := transitions.push ⟨sign, target, indices⟩
  let early (a b : Nat × Flow) : Bool :=
    let a := plan.entry a.1
    let b := plan.entry b.1
    a.progress < b.progress || (a.progress = b.progress && a.head ≤ b.head)
  let mut ends : List (Nat × Nat) := []
  for (item, flow) in (complete.mergeSort early).reverse do
    ends := (item, flows.size) :: ends
    flows := flows.push flow
  return {
    kernel, transitions, complete := ends
    flows := flows.map fun flow =>
      (flow.base, (List.range kernel.size).filter flow.sources.testBit) }

/-- The cores from a number on, those they lead to included. -/
def coresFrom (plan : Plan) : Nat → Array Core → StateM Cores (Array Core)
  | 0, cores => return cores
  | fuel + 1, cores => do
    match (← get).kernels[cores.size]? with
    | some kernel => coresFrom plan fuel (cores.push (← plan.core kernel))
    | none => return cores

/-- All cores, and the sets of tokens they speak of. The first one has no items at all, and the
second one is where a source begins. -/
def cores (plan : Plan) (sets : Lookaheads) : Array Core × Lookaheads :=
  let (cores, state) := (plan.coresFrom (1 <<< 20) #[]).run
    { sets, kernels := #[#[], #[plan.start]], codes := {(#[], 0), (#[plan.start], 1)} }
  (cores, state.sets)

end Plan

end Grammar

end TypeAtlas
