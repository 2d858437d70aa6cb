import TypeAtlas.Types.OfTree

/-!
# Nodes without what is around them

Parentheses and the word `readonly` around a type are passed over when it is read. So it is the node
that is left without them (`Node.bare`) that tells whether a node is read as an object type, a union
or an intersection, and it has the members or the operands (`Node.readAs_bare`).
-/

set_option autoImplicit false

namespace TypeAtlas

namespace Node

/-- What is left of a node without the parentheses and the words `readonly` around it. -/
def bare (node : Node) : Node :=
  if node.kind = .parenthesizedType ∨ node.kind = .readonlyType then
    match node.firstNamed? with
    | some inner => inner.1.bare
    | none => node
  else node
termination_by sizeOf node
decreasing_by exact sizeOf_lt_of_mem inner.2

/-- The node of an object type, a union or an intersection has the members or the operands of the
type that is read from it. -/
structure ReadAs (node : Node) (shape : TypeShape) : Prop where
  object : ∀ members signatures, shape = .object members signatures →
    node.kind = .objectType ∧ members = node.objectMembers
  union : ∀ items, shape = .union items →
    node.kind = .unionType ∧ items = (node.operands .unionType).map fun item => item.1.toType
  intersection : ∀ items, shape = .intersection items →
    node.kind = .intersectionType ∧
      items = (node.operands .intersectionType).map fun item => item.1.toType

/-- What is inside of parentheses or follows `readonly` decides on the shape of the type. -/
theorem shape_toType_of_around {node : Node}
    (around : node.kind = .parenthesizedType ∨ node.kind = .readonlyType) :
    node.toType.shape =
      (node.firstNamed?.map fun inner => inner.1.toType.shape).getD .unsupported := by
  rw [toType.eq_def]
  rcases around with kind | kind <;> simp only [kind] <;> cases node.firstNamed? <;> rfl

/-- What is around a node makes no difference to the shape of its type. -/
theorem shape_toType_bare (node : Node) : node.bare.toType.shape = node.toType.shape := by
  fun_induction bare node with
  | case1 node around inner opened ih =>
    rw [ih, shape_toType_of_around around, opened]
    rfl
  | case2 => rfl
  | case3 => rfl

/-- What is left of a node is read as the members or operands that it has. -/
theorem readAs_bare (node : Node) : node.bare.ReadAs node.toType.shape := by
  fun_induction bare node with
  | case1 node around inner opened ih =>
    rw [shape_toType_of_around around, opened]
    exact ih
  | case2 node around empty =>
    rw [shape_toType_of_around around, empty]
    exact ⟨by simp, by simp, by simp⟩
  | case3 node around =>
    rw [not_or] at around
    rw [toType]
    split
    case h_1 kind => exact absurd kind around.1
    case h_2 kind => exact absurd kind around.2
    case h_10 kind => exact ⟨by simp [TypeExpr.written], by simp [TypeExpr.written, kind, eq_comm],
      by simp [TypeExpr.written]⟩
    case h_11 kind => exact ⟨by simp [TypeExpr.written], by simp [TypeExpr.written],
      by simp [TypeExpr.written, kind, eq_comm]⟩
    case h_13 kind => exact ⟨by simp [TypeExpr.written, kind, objectMembers, eq_comm],
      by simp [TypeExpr.written], by simp [TypeExpr.written]⟩
    all_goals
      try split
      all_goals exact ⟨by simp [TypeExpr.written], by simp [TypeExpr.written],
        by simp [TypeExpr.written]⟩

/-- Around the node of an object type there may be anything that is passed over. -/
theorem shape_toType_of_bare_objectType {node : Node} (kind : node.bare.kind = .objectType) :
    node.toType.shape = .object node.bare.objectMembers node.bare.toCallSignatures := by
  rw [← shape_toType_bare, toType.eq_def]
  simp only [kind]
  rfl

end Node

end TypeAtlas
