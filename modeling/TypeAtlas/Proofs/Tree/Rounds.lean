import Mathlib.Algebra.GroupWithZero.Nat
import Mathlib.Algebra.Order.BigOperators.Group.List
import Mathlib.Algebra.Order.Group.Nat
import TypeAtlas.Tree.Node

/-!
# Loops over a stack of nodes

A loop goes from state to state until one of its rounds gives an answer. `EndsWith` says that it
ends, and with what. A quantity that no round changes and that an answer has to be equal to is the
answer, if some weight gets smaller with every round (`endsWith_of_invariant`).

Loops over trees keep the nodes that they have not looked at on a stack. A node weighs more than its
children together (`Node.load_children_lt`), so the stack gets lighter when the named children of a
node take its place (`Node.load_push_lt`), in whatever order.
-/

set_option autoImplicit false

namespace TypeAtlas

/-! ### Loops -/

/-- What a round of a loop leads to. -/
inductive Round (State Answer : Type) where
  | next (state : State)
  | stop (answer : Answer)

section loops

variable {State Answer : Type} {round : State → Round State Answer}

/-- Round by round, the loop comes from a state to an answer. -/
inductive EndsWith (round : State → Round State Answer) : State → Answer → Prop
  | stop {state : State} {answer : Answer} (h : round state = .stop answer) :
      EndsWith round state answer
  | next {state after : State} {answer : Answer} (h : round state = .next after)
      (later : EndsWith round after answer) : EndsWith round state answer

/-- A loop ends with what no round changes, if it is right when the loop stops. -/
theorem endsWith_of_invariant (result : State → Answer) (weight : State → Nat)
    (stops : ∀ state answer, round state = .stop answer → answer = result state)
    (keeps : ∀ state after, round state = .next after → result after = result state)
    (shrinks : ∀ state after, round state = .next after → weight after < weight state)
    (state : State) : EndsWith round state (result state) := by
  induction size : weight state using Nat.strong_induction_on generalizing state with
  | _ n ih =>
    cases h : round state with
    | stop answer =>
      rw [← stops state answer h]
      exact .stop h
    | next after =>
      have lighter := shrinks state after h
      rw [← keeps state after h]
      exact .next h (ih (weight after) (size ▸ lighter) after rfl)

end loops

namespace Node

/-! ### Stacks of nodes -/

/-- The named children of a node that are not comments, without the knowledge where they come
from. -/
def namedNodes (node : Node) : List Node := node.named.map (·.1)

/-- The named nodes are the children that are named and no comments, in order. -/
theorem namedNodes_eq (node : Node) :
    node.namedNodes =
      node.children.filter fun child => child.kind.isNamed && child.kind != .comment := by
  conv_rhs => rw [← List.attach_map_subtype_val node.children, List.filter_map]
  rfl

/-- A node is one of the named nodes exactly if it is a child that is named and no comment. -/
theorem mem_namedNodes {node child : Node} :
    child ∈ node.namedNodes ↔
      child ∈ node.children ∧ child.kind.isNamed = true ∧ child.kind ≠ .comment := by
  simp [namedNodes_eq]

/-- Puts nodes on a stack one after the other, so that the last one comes to be the next one to be
taken. -/
def push (stack : List Node) (nodes : List Node) : List Node :=
  nodes.foldl (fun stack node => node :: stack) stack

/-- Nodes that are pushed in order are on the stack in reverse. -/
theorem push_eq (stack nodes : List Node) : push stack nodes = nodes.reverse ++ stack := by
  induction nodes generalizing stack with
  | nil => rfl
  | cons node rest ih => rw [push, List.foldl_cons, ← push, ih, List.reverse_cons, List.append_assoc,
      List.singleton_append]

/-- The size of all nodes on a stack. -/
noncomputable def load (stack : List Node) : Nat := (stack.map sizeOf).sum

/-- A stack weighs as much as its first node and the rest. -/
theorem load_cons (node : Node) (rest : List Node) : load
    (node :: rest) = sizeOf node + load rest := by
  rw [load, List.map_cons, List.sum_cons, load]

/-- A node is larger than its children together. -/
theorem load_children_lt (node : Node) : load node.children < sizeOf node := by
  have row (nodes : List Node) : load nodes < sizeOf nodes := by
    induction nodes with
    | nil => exact Nat.zero_lt_one
    | cons first rest ih =>
      rw [load_cons, List.cons.sizeOf_spec]
      omega
  have inside : sizeOf node.children < sizeOf node := by
    obtain ⟨kind, role, span, text, missing, children⟩ := node
    rw [Node.mk.sizeOf_spec]
    show sizeOf children < _
    omega
  exact Nat.lt_trans (row _) inside

/-- A stack gets lighter when some of the named children of its first node take the place of this
node. -/
theorem load_push_lt {node : Node} {opened : List Node} (among : opened.Subperm node.namedNodes)
    (rest : List Node) : load (push rest opened) < load (node :: rest) := by
  have fewer : load opened ≤ load node.children := by
    obtain ⟨listed, same, kept⟩ := among
    have sum : load listed = load opened := (same.map sizeOf).sum_eq
    rw [namedNodes_eq] at kept
    rw [← sum]
    exact ((kept.trans List.filter_sublist).map sizeOf).sum_le_sum fun _ _ => Nat.zero_le _
  have whole := node.load_children_lt
  have pushed : load (push rest opened) = load opened + load rest := by
    rw [push_eq, load, List.map_append, List.sum_append, List.map_reverse, List.sum_reverse, load, load]
  rw [pushed, load_cons]
  omega

end Node

end TypeAtlas
