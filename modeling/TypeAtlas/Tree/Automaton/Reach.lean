import TypeAtlas.Tree.Automaton.Production

/-!
What follows from the productions of a grammar alone: which tokens a part can start with, which
roles there are inside of it, and which parts can begin where another one begins.

All three are least solutions of equations, found by repetition until nothing changes. Sets are
numbers with one bit for every member.
-/

set_option autoImplicit false

namespace TypeAtlas

namespace Productions

open Grammar

/-- Repeats a step until it changes nothing, or until the fuel is spent. -/
def settle {α : Type} [BEq α] (step : α → α) : Nat → α → α
  | 0, value => value
  | fuel + 1, value =>
    let next := step value
    if next == value then value else settle step fuel next

/-- The number of parts. -/
def size (productions : Productions) : Nat := productions.ofPart.size

/-- The tokens that a sign can start with, given those that parts can start with. -/
def startsOf (starts : Array Nat) (sign : Nat) : Nat :=
  if sign < tokenCount then 1 <<< sign else starts.getD (sign - tokenCount) 0

/-- The tokens that every part can start with. -/
def starts (productions : Productions) : Array Nat :=
  let step (starts : Array Nat) : Array Nat :=
    productions.ofPart.map fun choices =>
      choices.foldl (fun bits production =>
        match production.steps with
        | [] => bits
        | first :: _ => bits ||| startsOf starts first.sign) 0
  settle step (productions.size + 1) (Array.replicate productions.size 0)

/-- Whether the part with a number shares the roles inside of it with its holder. -/
def isOpen (productions : Productions) (sign : Nat) : Bool :=
  tokenCount ≤ sign && (productions.symbols.getD (sign - tokenCount) default).isOpen

/-- The roles inside of the part with a number that it shares with its holder. -/
def sharedRoles (productions : Productions) (roles : Array Nat) (sign : Nat) : Nat :=
  if productions.isOpen sign then roles.getD (sign - tokenCount) 0 else 0

/-- The roles inside of every part. -/
def roles (productions : Productions) : Array Nat :=
  let step (roles : Array Nat) : Array Nat :=
    productions.ofPart.map fun choices =>
      choices.foldl (fun bits production =>
        production.steps.foldl (fun bits piece =>
          bits ||| (piece.role.elim 0 fun role => 1 <<< role.ctorIdx) |||
            productions.sharedRoles roles piece.sign) bits) 0
  settle step (productions.size + 1) (Array.replicate productions.size 0)

/-- How one part begins with another. -/
structure Lead where
  /-- The part it begins with. -/
  part : Nat
  /-- The tokens that can come after that part, or `none` if nothing else belongs to the first. -/
  beyond : Option Nat
deriving DecidableEq

/-- How every part begins with another. -/
def leads (productions : Productions) (starts : Array Nat) : Array (List Lead) :=
  productions.ofPart.map fun choices =>
    List.eraseDups <| choices.filterMap fun production =>
      match production.steps with
      | first :: rest =>
        if first.sign < tokenCount then none
        else some ⟨first.sign - tokenCount, rest.head?.map fun next => startsOf starts next.sign⟩
      | [] => none

/-- What can come after a part that begins where another one begins. -/
structure Beyond where
  /-- The tokens that can come in any case. -/
  bits : Nat
  /-- Whether what can come after the other part can come, too. -/
  passes : Bool
deriving DecidableEq

/-- Either of two ways to go on. -/
def Beyond.join (a b : Beyond) : Beyond := ⟨a.bits ||| b.bits, a.passes || b.passes⟩

/-- Adds to what has been found what begins with the parts found so far. -/
def spread (leads : Array (List Lead)) (found : Array (Option Beyond)) : Array (Option Beyond) :=
  (List.range found.size).foldl (fun found part =>
    match found.getD part none with
    | none => found
    | some beyond =>
      (leads.getD part []).foldl (fun found lead =>
        let more := match lead.beyond with
          | some bits => ⟨bits, false⟩
          | none => beyond
        found.modify lead.part fun old => some (old.elim more more.join)) found) found

/-- The parts that can begin where a part begins, that part included. -/
def beginnings (leads : Array (List Lead)) (part : Nat) : List (Nat × Beyond) :=
  let found := settle (spread leads) (leads.size + 1)
    ((Array.replicate leads.size none).setIfInBounds part (some ⟨0, true⟩))
  (List.range leads.size).filterMap fun part => (found.getD part none).map fun beyond =>
    (part, beyond)

end Productions

end TypeAtlas
