import TypeAtlas.Proofs.Tree.Rounds
import TypeAtlas.Proofs.Types.Legible

/-!
# The operands of a union

A union that is an operand of a union is opened up where the nodes are of one kind, whatever the
nesting looks like. A loop does this with a stack: it takes a node, and either it puts the named
children of the node on the stack, from the last to the first, or the type of the node is an
operand. What the types found so far and the leaves of the pending nodes are together stays the same
in every round (`Node.endsWith_flattenRound`), so the loop ends with what opening up recursively
yields.

Where the operands stand is told by places, the indices of the children on the way to them: an
operand is a named node of another kind that is no comment, reached through nodes of the kind alone
(`Node.OperandAt`). `Node.located` lists the operands with their places in the order of the source.

Main statement: `Node.flattens`, for unions and intersections alike. Comments are the nodes of the
kind `comment`; a markup comment is of a kind of its own and counts like any other named node.
-/

set_option autoImplicit false

namespace TypeAtlas

namespace Node

/-! ### The loop -/

/-- The nodes to look at, the next one first, and the types of the operands that were found. -/
structure Flattening where
  pending : List Node
  types : List TypeExpr

/-- Takes a node from the stack. A node of the kind is opened up, any other is an operand. -/
def flattenRound (kind : Kind) : Flattening → Round Flattening (List TypeExpr)
  | ⟨[], types⟩ => .stop types
  | ⟨node :: rest, types⟩ =>
    if node.kind = kind then .next ⟨push rest node.namedNodes.reverse, types⟩
    else .next ⟨rest, types ++ [node.toType]⟩

/-- The operands that a node contributes: its own, if it is of the kind, or else itself. -/
def leaves (kind : Kind) (node : Node) : List Node :=
  if node.kind = kind then (node.operands kind).map (·.1) else [node]

/-- The operands of a node are the leaves of its named children. -/
theorem map_operands (kind : Kind) (node : Node) :
    (node.operands kind).map (·.1) = node.namedNodes.flatMap (leaves kind) := by
  rw [operands, namedNodes, List.map_flatMap, List.flatMap_map]
  refine congrArg (node.named.flatMap ·) (funext fun child => ?_)
  rw [leaves]
  split_ifs
  · rw [List.map_map]
    rfl
  · rfl

/-- The loop ends with the types found before it and those of the leaves of the pending nodes. -/
theorem endsWith_flattenRound (kind : Kind) (state : Flattening) :
    EndsWith (flattenRound kind) state
      (state.types ++ (state.pending.flatMap (leaves kind)).map toType) := by
  refine endsWith_of_invariant
    (fun state => state.types ++ (state.pending.flatMap (leaves kind)).map toType)
    (fun state => load state.pending) ?stops ?keeps ?shrinks state
  case stops =>
    rintro ⟨_ | ⟨node, rest⟩, types⟩ answer stopped
    · cases stopped
      rw [List.flatMap_nil, List.map_nil, List.append_nil]
    · rw [flattenRound] at stopped
      split_ifs at stopped
  case keeps =>
    rintro ⟨_ | ⟨node, rest⟩, types⟩ after continued
    · cases continued
    · rw [flattenRound] at continued
      split_ifs at continued with opened <;> cases continued
      · rw [push_eq, List.reverse_reverse, List.flatMap_append, ← map_operands, List.flatMap_cons, leaves,
          if_pos opened]
      · rw [List.flatMap_cons, leaves, if_neg opened, List.map_append, List.append_assoc]
        rfl
  case shrinks =>
    rintro ⟨_ | ⟨node, rest⟩, types⟩ after continued
    · cases continued
    · rw [flattenRound] at continued
      split_ifs at continued <;> cases continued
      · exact load_push_lt (List.reverse_perm _).subperm rest
      · have := node.load_children_lt
        simp only [load_cons]
        omega

/-! ### Where operands stand -/

/-- From a node, the place leads to an operand through nodes of the kind alone. The operand is named
and no comment, and it is not of the kind. -/
inductive OperandAt (kind : Kind) : Node → List Nat → Node → Prop
  | here {node : Node} (isNamed : node.kind.isNamed = true) (noComment : node.kind ≠ .comment)
      (other : node.kind ≠ kind) : OperandAt kind node [] node
  | under {node child part : Node} {i : Nat} {place : List Nat} (same : node.kind = kind)
      (at_ : node.children[i]? = some child) (inside : OperandAt kind child place part) :
      OperandAt kind node (i :: place) part

mutual

/-- The operands that stand at a node or below it, each with the place that leads to it. -/
def located (kind : Kind) : Node → List (List Nat × Node)
  | ⟨own, role, span, text, missing, children⟩ =>
    if own = kind then locatedFrom kind 0 children
    else if own.isNamed && own != .comment then [([], ⟨own, role, span, text, missing, children⟩)]
    else []

/-- The operands in a row of nodes of which the first one has the given index. -/
def locatedFrom (kind : Kind) : Nat → List Node → List (List Nat × Node)
  | _, [] => []
  | i, child :: rest =>
    (located kind child).map (fun part => (i :: part.1, part.2)) ++ locatedFrom kind (i + 1) rest

end

mutual

/-- Exactly the operands are located. -/
theorem mem_located {kind : Kind} : (node : Node) → ∀ {place part},
    (place, part) ∈ located kind node ↔ OperandAt kind node place part
  | ⟨own, role, span, text, missing, children⟩, place, part => by
    rw [located]
    split_ifs with same counts
    · rw [mem_locatedFrom children]
      constructor
      · rintro ⟨j, child, inner, at_, rfl, inside⟩
        rw [Nat.zero_add]
        exact .under same at_ inside
      · intro h
        cases h with
        | here _ _ other => exact absurd same other
        | under _ at_ inside => exact ⟨_, _, _, at_, by rw [Nat.zero_add], inside⟩
    · simp only [Bool.and_eq_true, bne_iff_ne] at counts
      rw [List.mem_singleton, Prod.mk.injEq]
      constructor
      · rintro ⟨rfl, rfl⟩
        exact .here counts.1 counts.2 same
      · intro h
        cases h with
        | here => exact ⟨rfl, rfl⟩
        | under own _ _ => exact absurd own same
    · simp only [Bool.and_eq_true, bne_iff_ne, not_and] at counts
      refine ⟨fun h => absurd h List.not_mem_nil, fun h => ?_⟩
      cases h with
      | here isNamed noComment _ => exact absurd noComment (counts isNamed)
      | under own _ _ => exact absurd own same

/-- An operand of a row stands at or below one of its nodes, and its place starts with the index of
this. -/
theorem mem_locatedFrom {kind : Kind} : (row : List Node) → ∀ {i place part},
    (place, part) ∈ locatedFrom kind i row ↔ ∃ j child inner, row[j]? = some child ∧
      place = (i + j) :: inner ∧ OperandAt kind child inner part
  | [], i, place, part => by simp [locatedFrom]
  | first :: rest, i, place, part => by
    rw [locatedFrom, List.mem_append, mem_locatedFrom rest, List.mem_map]
    constructor
    · rintro (⟨⟨inner, found⟩, mem, same⟩ | ⟨j, child, inner, at_, rfl, inside⟩)
      · obtain ⟨rfl, rfl⟩ := Prod.mk.injEq .. ▸ same
        exact ⟨0, first, inner, rfl, rfl, (mem_located first).mp mem⟩
      · exact ⟨j + 1, child, inner, at_, by rw [Nat.add_assoc, Nat.add_comm 1], inside⟩
    · rintro ⟨_ | j, child, inner, at_, rfl, inside⟩
      · cases at_
        exact .inl ⟨(inner, part), (mem_located first).mpr inside, rfl⟩
      · exact .inr ⟨j, child, inner, at_, by rw [Nat.add_assoc, Nat.add_comm 1], inside⟩

end

mutual

/-- Operands are located in the order of their places. -/
theorem pairwise_located (kind : Kind) : (node : Node) →
    (located kind node).Pairwise fun part other => part.1 < other.1
  | ⟨own, role, span, text, missing, children⟩ => by
    rw [located]
    split_ifs
    · exact pairwise_locatedFrom kind children 0
    · exact List.pairwise_singleton _ _
    · exact List.Pairwise.nil

/-- The places of the operands of a row increase. -/
theorem pairwise_locatedFrom (kind : Kind) : (row : List Node) → (i : Nat) →
    (locatedFrom kind i row).Pairwise fun part other => part.1 < other.1
  | [], _ => by rw [locatedFrom]; exact List.Pairwise.nil
  | first :: rest, i => by
    rw [locatedFrom, List.pairwise_append, List.pairwise_map]
    refine ⟨?_, pairwise_locatedFrom kind rest (i + 1), ?_⟩
    · refine (pairwise_located kind first).imp fun less => ?_
      exact List.cons_lt_cons_iff.mpr (.inr ⟨rfl, less⟩)
    · intro part mem other later
      obtain ⟨inner, _, rfl⟩ := List.mem_map.mp mem
      obtain ⟨place, node⟩ := other
      obtain ⟨j, _, _, _, rfl, _⟩ := (mem_locatedFrom rest).mp later
      exact List.cons_lt_cons_iff.mpr (.inl (by omega))

end

mutual

/-- Without their places, the operands that are located at a node are its leaves, if the node
counts. -/
theorem map_located {kind : Kind} (isNamed : kind.isNamed = true) (noComment : kind ≠ .comment) :
    (node : Node) → (located kind node).map (·.2) =
      if node.kind.isNamed && node.kind != .comment then leaves kind node else []
  | ⟨own, role, span, text, missing, children⟩ => by
    rw [located, leaves]
    split_ifs with same counts counts
    · rw [map_locatedFrom isNamed noComment children 0, map_operands, namedNodes_eq]
    · exact absurd (by simp [same, isNamed, noComment]) counts
    · rfl
    · rfl

/-- Without their places the operands of a row are what its named nodes contribute, comments
aside. -/
theorem map_locatedFrom {kind : Kind} (isNamed : kind.isNamed = true)
    (noComment : kind ≠ .comment) :
    (row : List Node) → (i : Nat) → (locatedFrom kind i row).map (·.2) =
      (row.filter fun child => child.kind.isNamed && child.kind != .comment).flatMap (leaves kind)
  | [], _ => by rw [locatedFrom]; rfl
  | first :: rest, i => by
    have found : ((located kind first).map fun part => (i :: part.1, part.2)).map (·.2) =
        (located kind first).map (·.2) := by rw [List.map_map]; rfl
    rw [locatedFrom, List.map_append, found, map_located isNamed noComment first,
      map_locatedFrom isNamed noComment rest (i + 1), List.filter_cons]
    split_ifs
    · rw [List.flatMap_cons]
    · rw [List.nil_append]

end

/-! ### The types of operands -/

/-- These are the operands of a node with the places where they stand: all of them, each once, in
the order of the source. -/
structure AreOperands (kind : Kind) (node : Node) (parts : List (List Nat × Node)) : Prop where
  mem_iff : ∀ place part, (place, part) ∈ parts ↔ OperandAt kind node place part
  ordered : parts.Pairwise fun part other => part.1 < other.1

/-- The operands that are located are all operands, each once and in order. -/
theorem areOperands_located (kind : Kind) (node : Node) : AreOperands kind node
    (located kind node) :=
  ⟨fun _ _ => mem_located node, pairwise_located kind node⟩

/-- A union or an intersection is read as the types of its operands, and this is what the loop ends
with that looks for them. -/
theorem flattens (connective : Connective) (node : Node) (combined : node.kind = connective.kind) :
    ∃ parts, AreOperands connective.kind node parts ∧
      EndsWith (flattenRound connective.kind) ⟨[node], []⟩ (parts.map fun part => part.2.toType) ∧
        node.toType =
          .written (connective.shape (parts.map fun part => part.2.toType)) node.text := by
  have isNamed : connective.kind.isNamed = true := by cases connective <;> rfl
  have noComment : connective.kind ≠ .comment := by cases connective <;> simp [Connective.kind]
  have listed : (located connective.kind node).map (·.2) = (node.operands connective.kind).map (·.1) := by
    rw [map_located isNamed noComment, combined, isNamed, if_pos (by simpa using noComment), leaves,
      if_pos combined]
  have types : ((located connective.kind node).map fun part => part.2.toType) =
      (node.operands connective.kind).map fun part => part.1.toType := by
    rw [← Function.comp_def toType, ← List.map_map, listed, List.map_map]
    rfl
  refine ⟨located connective.kind node, areOperands_located _ node, ?_, ?_⟩
  · have ends := endsWith_flattenRound connective.kind ⟨[node], []⟩
    rw [List.nil_append, List.flatMap_singleton, leaves, if_pos combined, List.map_map] at ends
    rwa [types]
  · rw [types, toType.eq_def, combined]
    cases connective <;> rfl

/-- The union `| A | /* or */ B & C | D`, in which the unions of fewer operands are nested on the
left. -/
def mixedUnion : Node :=
  node .unionType
    [node .unionType
        [node .unionType [word (.token "|") "|", word .typeIdentifier "A"], word (.token "|") "|",
          word .comment "/* or */",
          node .intersectionType
            [word .typeIdentifier "B", word (.token "&") "&", word .typeIdentifier "C"]],
      word (.token "|") "|", word .typeIdentifier "D"]
where
  node (kind : Kind) (children : List Node) : Node := ⟨kind, none, default, "", false, children⟩
  word (kind : Kind) (text : String) : Node := ⟨kind, none, default, text, false, []⟩

/-- The union of the example is flattened to its three operands, in the order of the source. -/
theorem flattens_mixedUnion :
    mixedUnion.kind = Connective.union.kind ∧
      ∃ parts, AreOperands .unionType mixedUnion parts ∧
        EndsWith (flattenRound .unionType) ⟨[mixedUnion], []⟩ (parts.map fun part => part.2.toType) ∧
          mixedUnion.toType = .written (.union (parts.map fun part => part.2.toType)) "" :=
  ⟨rfl, flattens .union mixedUnion rfl⟩

/-- The intersection is an operand as a whole, and neither the marks nor the comment are any. -/
example : (located .unionType mixedUnion).map (fun part => (part.1, part.2.kind)) =
    [([0, 0, 1], .typeIdentifier), ([0, 3], .intersectionType), ([2], .typeIdentifier)] := by decide

end Node

end TypeAtlas
