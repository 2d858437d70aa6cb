import TypeAtlas.Tree.Part

/-!
The stack of parts that have been read, in several versions at once.

Where a source can be read in two ways the stack forks into versions, which share what lies below
the fork, and versions that have come to the same state at the same place are merged again. So the
stack is made of vertices, each with links to the vertices below it, and every link carries the part
between the two. A version is a vertex at the top, with what is remembered of its errors.
-/

set_option autoImplicit false

namespace TypeAtlas

open Text (Cursor Location)
open Grammar (Reduction)

/-- A step down the stack. -/
structure Link where
  /-- The number of the vertex below. -/
  below : Nat
  /-- The part in between, or `none` where nothing more was known than that there is an error. -/
  part : Option Part
deriving Inhabited

/-- A place on the stack. -/
structure Vertex where
  state : Nat
  /-- The steps down, in the order in which they were found. -/
  links : Array Link
  cursor : Cursor
  /-- What the errors so far have cost. -/
  cost : Nat
  /-- How much the parts so far are preferred. -/
  weight : Int
  /-- How many nodes there are so far. -/
  count : Nat

instance : Inhabited Vertex := ⟨⟨0, #[], ⟨.start, []⟩, 0, 0, 0⟩⟩

/-- A place further down to which a version can return after an error. -/
structure Return where
  place : Location
  /-- How many parts are in between. -/
  depth : Nat
  state : Nat

/-- Whether two links carry parts that are alike. -/
def Link.isLike (link other : Link) : Bool :=
  match link.part, other.part with
  | some part, some other => part.isLike other
  | none, none => true
  | _, _ => false

/-- How much the part of a link is preferred. -/
def Link.weight (link : Link) : Int := (link.part.map (·.weight)).getD 0

/-- Whether two vertices are in the same state at the same place and have cost the same. -/
def Vertex.meets (vertex other : Vertex) : Bool :=
  vertex.state = other.state && vertex.cursor.place.byte = other.cursor.place.byte &&
    vertex.cost = other.cost

/-- What a version is doing. -/
inductive Status where
  | active
  /-- It waits for others to go on, having met a token that it can do nothing with. -/
  | paused (token : Part)
  | halted
deriving Inhabited

/-- A version of the stack. -/
structure Version where
  /-- The number of the vertex at the top. -/
  top : Nat
  /-- How many nodes there were at the last error. -/
  lastError : Nat
  status : Status
  /-- The places it can return to, if they have been listed. -/
  returns : Option (List Return)

instance : Inhabited Version := ⟨⟨0, 0, .halted, none⟩⟩

/-- Whether a version is halted. -/
def Version.isHalted (version : Version) : Bool :=
  match version.status with
  | .halted => true
  | _ => false

/-- Whether a version is active. -/
def Version.isActive (version : Version) : Bool :=
  match version.status with
  | .active => true
  | _ => false

/-- Whether a version is paused. -/
def Version.isPaused (version : Version) : Bool :=
  match version.status with
  | .paused _ => true
  | _ => false

/-- A token together with the state in which it was read. -/
structure Reading where
  token : Part
  state : Nat

/-- All that changes while a source is read. -/
structure Parsing where
  automaton : Automaton
  vertices : Array Vertex
  versions : Array Version
  /-- The token that was read last. -/
  latest : Option Reading
  /-- The best reading of the whole source so far. -/
  finished : Option Part
  /-- How many readings of the whole source there have been. -/
  finishes : Nat
  /-- More steps than a loop takes. -/
  fuel : Nat

/-- A step in reading a source. -/
abbrev Parse := StateM Parsing

namespace Parse

/-- The vertex with a number. -/
def vertex (number : Nat) : Parse Vertex :=
  return (← get).vertices.getD number default

/-- The version with a number. -/
def version (number : Nat) : Parse Version :=
  return (← get).versions.getD number default

/-- The vertex at the top of a version. -/
def top (number : Nat) : Parse Vertex := do vertex (← version number).top

/-- How many versions there are. -/
def versionCount : Parse Nat :=
  return (← get).versions.size

/-- Changes a version. -/
def change (number : Nat) (f : Version → Version) : Parse Unit :=
  modify fun parsing => { parsing with versions := parsing.versions.modify number f }

/-- Adds a version. The answer is its number. -/
def addVersion (version : Version) : Parse Nat :=
  modifyGet fun parsing =>
    (parsing.versions.size, { parsing with versions := parsing.versions.push version })

/-- Takes a version away. The numbers of those after it go down by one. -/
def removeVersion (number : Nat) : Parse Unit :=
  modify fun parsing => { parsing with versions := parsing.versions.eraseIdxIfInBounds number }

/-- Puts a version in the place of another one. -/
def replaceVersion (number target : Nat) : Parse Unit := do
  if number ≠ target then
    let moved ← version number
    change target fun old => { moved with returns := moved.returns <|> old.returns }
    removeVersion number

/-- Lets two versions change places. -/
def swapVersions (a b : Nat) : Parse Unit :=
  modify fun parsing => { parsing with versions := parsing.versions.swapIfInBounds a b }

/-! ### Pushing -/

/-- A vertex above another one. -/
def above (below : Nat) (vertex : Vertex) (part : Option Part) (state : Nat) : Vertex :=
  match part with
  | none => { vertex with state, links := #[⟨below, none⟩] }
  | some part =>
    { state, links := #[⟨below, some part⟩], cursor := part.stop
      cost := vertex.cost + part.cost
      weight := vertex.weight + part.weight
      count := vertex.count + part.count }

/-- Puts a part on a version and goes on in a state. Without a part an error begins. -/
def push (number : Nat) (part : Option Part) (state : Nat) : Parse Unit := do
  let below := (← version number).top
  let vertex := above below (← vertex below) part state
  let top ← modifyGet fun parsing =>
    (parsing.vertices.size, { parsing with vertices := parsing.vertices.push vertex })
  change number fun version =>
    { version with top, lastError := if part.isNone then vertex.count else version.lastError }

/-! ### Merging -/

/-- Changes a vertex. -/
def changeVertex (number : Nat) (f : Vertex → Vertex) : Parse Unit :=
  modify fun parsing => { parsing with vertices := parsing.vertices.modify number f }

/-- How many links a vertex has at most. -/
def maxLinks : Nat := 8

/-- Adds a link to a vertex. If there is one already with a part that is alike, the two are made
one: the part that is preferred is kept, or the vertices below are merged. -/
def addLink : (fuel number : Nat) → Link → Parse Unit
  | 0, _, _ => return
  | fuel + 1, number, link => do
    if link.below ≠ number then
      let self ← vertex number
      let below ← vertex link.below
      let vertices := (← get).vertices
      let joins (other : Link) : Bool :=
        other.isLike link && (other.below = link.below ||
          (vertices.getD other.below default).meets below)
      match self.links.findIdx? joins with
      | some index =>
        let other := self.links.getD index default
        let weight := below.weight + link.weight
        if other.below = link.below then
          if other.weight < link.weight then
            changeVertex number fun self =>
              { self with links := self.links.setIfInBounds index link, weight }
        else
          below.links.forM (addLink fuel other.below)
          changeVertex number fun self => { self with weight := max self.weight weight }
      | none =>
        if self.links.size < maxLinks then
          changeVertex number fun self =>
            { self with
              links := self.links.push link
              count := max self.count (below.count + (link.part.map (·.count)).getD 0)
              weight := max self.weight (below.weight + link.weight) }

/-- Whether a version can be merged into another one: both are active and their tops meet. -/
def canMerge (number other : Nat) : Parse Bool := do
  return (← version number).isActive && (← version other).isActive &&
    (← top number).meets (← top other)

/-- Merges the second version into the first one, if that is possible. -/
def merge (number other : Nat) : Parse Bool := do
  if ← canMerge number other then
    let into := (← version number).top
    (← top other).links.forM (addLink ((← get).vertices.size + 1) into)
    let vertex ← vertex into
    if vertex.state = Automaton.lost then
      change number fun version => { version with lastError := vertex.count }
    removeVersion other
    return true
  else return false

/-! ### Going down -/

/-- A way down from the top of a version. -/
structure Descent where
  /-- The vertex that has been reached. -/
  vertex : Nat
  /-- The parts on the way, in the order of the source. -/
  parts : List Part
  /-- How many of them are pieces of what holds them. -/
  depth : Nat

/-- One step further down. -/
def Descent.along (descent : Descent) (link : Link) : Descent :=
  match link.part with
  | some part =>
    { vertex := link.below, parts := part :: descent.parts
      depth := if part.isExtra then descent.depth else descent.depth + 1 }
  | none => { descent with vertex := link.below, depth := descent.depth + 1 }

/-- How many ways down are followed at once. -/
def maxDescents : Nat := 64

/-- Takes one step on every way down that does not stop. The ways that go on come before those that
branch off. `visit` looks at each of them and says whether it stops, and `total` is their number. -/
def step {α : Type} (vertices : Array Vertex) (visit : α → Descent → Vertex → α × Bool) :
    (total : Nat) → α → List Descent → α × List Descent × List Descent
  | _, seen, [] => (seen, [], [])
  | total, seen, descent :: rest =>
    let vertex := vertices.getD descent.vertex default
    let (seen, stops) := visit seen descent vertex
    match stops, vertex.links.toList with
    | false, first :: others =>
      let branches := (others.take (maxDescents - total)).map descent.along
      let (seen, onward, added) := step vertices visit (total + branches.length) seen rest
      (seen, descent.along first :: onward, branches ++ added)
    | _, _ => step vertices visit (total - 1) seen rest

/-- Follows all ways down until they stop. -/
def descend {α : Type} (vertices : Array Vertex) (visit : α → Descent → Vertex → α × Bool) :
    (fuel : Nat) → α → List Descent → α
  | 0, seen, _ => seen
  | _, seen, [] => seen
  | fuel + 1, seen, descents =>
    let (seen, onward, added) := step vertices visit descents.length seen descents
    descend vertices visit fuel seen (onward ++ added)

/-- Follows all ways down from the top of a version. -/
def descendFrom {α : Type} (number : Nat) (visit : α → Descent → Vertex → α × Bool) (seen : α) :
    Parse α := do
  let parsing ← get
  return descend parsing.vertices visit (parsing.vertices.size + 1) seen
    [⟨(parsing.versions.getD number default).top, [], 0⟩]

/-- A new version at a vertex that has been reached on ways down, with the parts on these ways. -/
structure Popped where
  vertex : Nat
  version : Nat
  /-- The parts, for each of the ways. -/
  readings : List (List Part)

/-- The versions at the ends of ways down from a version, one for every vertex. -/
def popTo (number : Nat) (ends : List Descent) : Parse (List Popped) := do
  let lastError := (← version number).lastError
  ends.foldlM (fun popped descent => do
    if popped.any (·.vertex = descent.vertex) then
      return popped.map fun known =>
        if known.vertex = descent.vertex then
          { known with readings := known.readings ++ [descent.parts] }
        else known
    else
      let version ← addVersion ⟨descent.vertex, lastError, .active, none⟩
      return popped ++ [⟨descent.vertex, version, [descent.parts]⟩]) []

/-- Takes a number of parts off a version, in all ways that there are. The version itself stays. -/
def pop (number count : Nat) : Parse (List Popped) := do
  let ends ← descendFrom number (fun ends descent _ =>
    if descent.depth = count then (descent :: ends, true) else (ends, false)) []
  popTo number ends.reverse

/-- Takes all parts off a version. -/
def popAll (number : Nat) : Parse (List Popped) := do
  let ends ← descendFrom number (fun ends descent vertex =>
    if vertex.links.isEmpty then (descent :: ends, true) else (ends, false)) []
  popTo number ends.reverse

/-- Takes an error off the top of a version, if there is one. The answer is its parts. -/
def popError (number : Nat) : Parse (List Part) := do
  let isError (link : Link) : Bool := link.part.any fun part => part.sign = .error
  match (← top number).links.find? isError with
  | some link =>
    change number fun version => { version with top := link.below, status := .active }
    return (link.part.map (·.parts)).getD []
  | none => return []

/-- How far down a version may return after an error. -/
def maxReturn : Nat := 16

/-- Lists the places a version can return to. -/
def listReturns (number : Nat) : Parse Unit := do
  let returns ← descendFrom number (fun (returns : List Return) descent vertex =>
    if maxReturn < descent.depth then (returns, true)
    else
      let near := returns.takeWhile fun known => descent.depth ≤ known.depth
      if near.any fun known => known.depth = descent.depth && known.state = vertex.state then
        (returns, false)
      else (⟨vertex.cursor.place, descent.depth, vertex.state⟩ :: returns, false)) []
  change number fun version => { version with returns := some returns.reverse }

/-! ### Errors so far -/

/-- Whether a vertex lies after text that has been read since the last error. -/
def hasAdvanced (vertices : Array Vertex) (lastError : Nat) : (fuel : Nat) → Vertex → Bool
  | 0, _ => false
  | fuel + 1, vertex =>
    let below := vertices.getD ((vertex.links[0]?.map (·.below)).getD 0) default
    match vertex.links[0]?.bind (·.part) with
    | some part =>
      part.start.byte < part.stop.place.byte ||
        (lastError < vertex.count && part.cost = 0 && hasAdvanced vertices lastError fuel below)
    | none => false

/-- Whether text has been read in a version since its last error. -/
def advancedSinceError (number : Nat) : Parse Bool := do
  let parsing ← get
  let vertex ← top number
  return vertex.cost = 0 ||
    hasAdvanced parsing.vertices (← version number).lastError (parsing.vertices.size + 1) vertex

/-- What the errors of a version have cost, that in which it is included. -/
def errorCost (number : Nat) : Parse Nat := do
  let vertex ← top number
  let begins := vertex.state = Automaton.lost &&
    (vertex.links[0]?).any fun link => link.part.isNone
  return vertex.cost + (if (← version number).isPaused || begins then Part.errorCost else 0)

/-- How many nodes a version has made since its last error. -/
def countSinceError (number : Nat) : Parse Nat := do
  let count := (← top number).count
  change number fun version => { version with lastError := min version.lastError count }
  return count - (← version number).lastError

end Parse

end TypeAtlas
