import TypeAtlas.Text.Cursor
import TypeAtlas.Tree.Automaton

/-!
Parts: pieces of a source on the way to its tree.

A part is a token, or other parts that have been put together, together with the blanks before it.
It knows what the errors in it cost, so that of two readings the cheaper one can be taken, and from
a part for the whole source the tree can be read off.
-/

set_option autoImplicit false

namespace TypeAtlas

open Text (Cursor Location)
open Grammar (Reduction tokenCount)

/-- What a part is. -/
inductive Sign where
  /-- The token or part of the grammar with this number. -/
  | symbol (code : Nat)
  /-- What was left out in order to go on. -/
  | error
  /-- What has been left out so far. -/
  | skipped
deriving DecidableEq, Repr

/-- The order of signs, errors last. -/
def Sign.rank : Sign → Nat
  | .symbol code => code
  | .skipped => 1 <<< 40
  | .error => 1 <<< 40 + 1

/-- Whether a sign stands for something that was left out. -/
def Sign.isError : Sign → Bool
  | .symbol _ => false
  | .error | .skipped => true

/-- The end of the source. -/
def Sign.sourceEnd : Sign := .symbol Token.sourceEnd.code

/-- A piece of a source. -/
structure Part where
  sign : Sign
  parts : List Part
  /-- The labels and the roles of the parts, comments and errors in between not counted. -/
  marks : List (Option Kind × Option Role)
  /-- Where the blanks before it begin. -/
  start : Location
  /-- Where it begins itself. -/
  first : Location
  /-- Where it stops. -/
  stop : Cursor
  /-- The part may stand anywhere and counts as no piece of what holds it. -/
  isExtra : Bool
  /-- The part is not written in the source. -/
  isMissing : Bool
  /-- The part becomes a node. -/
  isVisible : Bool
  /-- What the errors in it cost. -/
  cost : Nat
  /-- How much it is preferred. -/
  weight : Int
  /-- How many of its parts become nodes, those of parts that become none included. -/
  shown : Nat
  /-- How many nodes there are inside of it. -/
  within : Nat

namespace Part

instance : Inhabited Part :=
  ⟨⟨.error, [], [], .start, .start, ⟨.start, []⟩, false, false, true, 0, 0, 0, 0⟩⟩

/-! ### Costs -/

/-- What an error costs at least. -/
def errorCost : Nat := 500

/-- What it costs that a token is missing. -/
def missingCost : Nat := 610

/-- What it costs to leave a part out, besides its text. -/
def skippedCost : Nat := 100

/-- What it costs to leave a stretch of text out: one for a byte and thirty for a line. -/
def textCost (start stop : Location) : Nat :=
  (stop.byte - start.byte) + 30 * (stop.line - start.line)

/-- How many nodes a part counts for. -/
def count (part : Part) : Nat :=
  part.within + (if part.isVisible then 1 else 0) + (if part.sign = .skipped then 1 else 0)

/-! ### Putting parts together -/

/-- A token that stops at a cursor. -/
def leaf (kinds : Array (Option Kind)) (code : Nat) (start first : Location) (stop : Cursor) :
    Part :=
  { sign := .symbol code, parts := [], marks := [], start, first, stop
    isExtra := code = Token.sourceEnd.code, isMissing := false
    isVisible := (kinds.getD code none).isSome, cost := 0, weight := 0, shown := 0, within := 0 }

/-- Text that is no token. -/
def unreadable (start first : Location) (stop : Cursor) : Part :=
  { sign := .error, parts := [], marks := [], start, first, stop, isExtra := false
    isMissing := false, isVisible := true, cost := 0, weight := 0, shown := 0, within := 0 }

/-- A token that is not written in the source. -/
def missing (kinds : Array (Option Kind)) (code : Nat) (place : Cursor) : Part :=
  { leaf kinds code place.place place.place place with isMissing := true, cost := missingCost }

/-- What the parts of a whole come to. -/
structure Totals where
  cost : Nat := 0
  weight : Int := 0
  shown : Nat := 0
  within : Nat := 0

/-- What a part costs what holds it. In an error every piece of its own costs more. -/
def costIn (inError : Bool) (part : Part) : Nat :=
  let own := if part.sign = .skipped then 0 else part.cost
  let isText := part.sign = .error && part.parts.isEmpty
  if !inError || part.isExtra || isText then own
  else if part.isVisible then own + skippedCost
  else own + skippedCost * part.shown

/-- What parts come to that have these marks. -/
def totals (inError : Bool) : List (Option Kind × Option Role) → List Part → Totals
  | _, [] => {}
  | marks, part :: rest =>
    let sums := totals inError (if part.isExtra then marks else marks.tail) rest
    let labelled := !part.isExtra && (marks.head?.bind (·.1)).isSome
    let isNode := labelled || part.isVisible
    { cost := part.costIn inError + sums.cost
      weight := part.weight + sums.weight
      shown := (if isNode then 1 else part.shown) + sums.shown
      within := part.within + (if isNode then 1 else 0) + sums.within }

/-- Parts put together at a cursor. -/
def group (kinds : Array (Option Kind)) (sign : Sign) (marks : List (Option Kind × Option Role))
    (parts : List Part) (place : Cursor) : Part :=
  let sums := totals sign.isError marks parts
  let start := (parts.head?.map (·.start)).getD place.place
  let first := (parts.head?.map (·.first)).getD place.place
  let stop := (parts.getLast?.map (·.stop)).getD place
  let isVisible := match sign with
    | .symbol code => (kinds.getD code none).isSome
    | .error => true
    | .skipped => false
  { sign, parts, marks, start, first, stop, isVisible, isExtra := false, isMissing := false
    cost := sums.cost + (if sign.isError then errorCost + textCost first stop.place else 0)
    weight := sums.weight, shown := sums.shown, within := sums.within }

/-- The parts with those at the end that may stand anywhere split off. -/
def splitExtras (parts : List Part) : List Part × List Part :=
  let extras := parts.reverse.takeWhile (·.isExtra)
  (parts.take (parts.length - extras.length), extras.reverse)

/-! ### Choosing between parts -/

mutual

/-- The order of parts: that of their signs, then that of the number of their parts, then that of
the parts themselves. -/
def order : Part → Part → Ordering
  | ⟨sign, parts, _, _, _, _, _, _, _, _, _, _, _⟩, other =>
    (compare sign.rank other.sign.rank).then <|
      (compare parts.length other.parts.length).then (orderAll parts other.parts)

/-- The order of lists of parts of the same length. -/
def orderAll : List Part → List Part → Ordering
  | part :: rest, other :: others => (part.order other).then (orderAll rest others)
  | _, _ => .eq

end

/-- Whether the second of two readings of the same text is to be taken: the cheaper one, then the
one that is preferred more. Between readings with errors the later one is taken, and else the one
that comes first in order. -/
def yieldsTo (part other : Part) : Bool :=
  if part.cost ≠ other.cost then other.cost < part.cost
  else if part.weight ≠ other.weight then part.weight < other.weight
  else part.cost > 0 || part.order other = .gt

/-- Whether two parts are alike as far as can be told without looking into them. -/
def isLike (part other : Part) : Bool :=
  part.sign = other.sign &&
    ((part.cost > 0 && other.cost > 0) ||
      (part.first.byte - part.start.byte = other.first.byte - other.start.byte &&
        part.stop.place.byte - part.first.byte = other.stop.place.byte - other.first.byte &&
        part.parts.length = other.parts.length && part.isExtra = other.isExtra))

/-! ### Trees -/

/-- The kind of the node that a sign becomes, if it becomes one. -/
def kindOf (kinds : Array (Option Kind)) : Sign → Option Kind
  | .symbol code => kinds.getD code none
  | .error => some .error
  | .skipped => none

mutual

/-- The nodes that a part becomes, in front of others. A part that becomes no node stands for its
parts, and its role goes to those that have none of their own. -/
def nodesBefore (kinds : Array (Option Kind)) (source : String) (label : Option Kind)
    (role : Option Role) : Part → List Node → List Node
  | ⟨sign, parts, marks, _, first, stop, _, isMissing, _, _, _, _, _⟩, nodes =>
    match label <|> kindOf kinds sign with
    | some kind =>
      ⟨kind, role, ⟨first, stop.place⟩,
        String.Pos.Raw.extract source ⟨first.byte⟩ ⟨stop.place.byte⟩, isMissing,
        nodesOf kinds source none marks parts []⟩ :: nodes
    | none => nodesOf kinds source role marks parts nodes

/-- The nodes that parts become, in front of others. -/
def nodesOf (kinds : Array (Option Kind)) (source : String) (role : Option Role) :
    List (Option Kind × Option Role) → List Part → List Node → List Node
  | _, [], nodes => nodes
  | marks, part :: rest, nodes =>
    if part.isExtra then
      part.nodesBefore kinds source none role (nodesOf kinds source role marks rest nodes)
    else
      part.nodesBefore kinds source (marks.head?.bind (·.1)) ((marks.head?.bind (·.2)) <|> role)
        (nodesOf kinds source role marks.tail rest nodes)

end

/-- The tree of a part. -/
def toNode (kinds : Array (Option Kind)) (source : String) (part : Part) : Node :=
  (part.nodesBefore kinds source none none []).headD
    ⟨.error, none, ⟨part.first, part.stop.place⟩, "", false, []⟩

end Part

end TypeAtlas
