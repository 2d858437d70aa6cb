import TypeAtlas.Proofs.Model.Dependencies
import TypeAtlas.Proofs.Types.OfTree

/-!
# The texts of array types

A parameter of an array type refers to the model of its elements alone if the text of the type,
where it was written, ends with a bracket (`Extraction.argumentReferences_of_element?`). This is so
for the types that are read from a tree in which the text of each array type ends with a bracket,
parentheses around it left aside (`Node.endsArray_toType`). An array type that is inferred from a
value is not written (`Node.endsArray_inferredType`), and one that is made by putting types in place
of type parameters is not written either, unless it stays as it was
(`TypeExpr.EndsArray.substitute`).
-/

set_option autoImplicit false

namespace TypeAtlas

/-- If the type is an array type and was written, its text ends with a bracket. -/
def TypeExpr.EndsArray (type : TypeExpr) : Prop :=
  type.element?.isSome → type.text = "" ∨ Extraction.EndsInBracket type.text

/-- If the node is read as an array type, as `A[]` and `readonly A[]` are, its text ends with a
bracket. What is in parentheses is a node of its own. -/
def Node.EndsArray (node : Node) : Prop :=
  node.kind ≠ .parenthesizedType → node.toType.element?.isSome →
    Extraction.EndsInBracket (Text.oneLine node.text)

namespace Node

/-- A type that is not in parentheses has the text of its node. -/
theorem text_toType {node : Node} (bare : node.kind ≠ .parenthesizedType) :
    node.toType.text = Text.oneLine node.text := by
  rw [toType]
  split
  case h_1 kind => exact absurd kind bare
  case h_2 | h_8 | h_14 => split <;> rfl
  case h_15 => split_ifs <;> rfl
  all_goals rfl

/-- Where the texts of array types end with a bracket, so do those of the types that are read. -/
theorem endsArray_toType (node : Node) (brackets : node.All EndsArray) : node.toType.EndsArray := by
  intro array
  by_cases bare : node.kind = .parenthesizedType
  · rw [toType.eq_def] at array ⊢
    simp only [bare] at array ⊢
    cases inside : node.firstNamed? with
    | none =>
      rw [inside] at array
      cases array
    | some inner =>
      rw [inside] at array
      have := sizeOf_lt_of_mem inner.2
      exact endsArray_toType inner.1 (brackets.children inner.1 inner.2) array
  · rw [text_toType bare]
    exact .inr (brackets.own bare array)
termination_by sizeOf node

/-- The type that is inferred from a value is as good as those that are written in it. -/
theorem endsArray_inferredType (node : Node) (brackets : node.All EndsArray) :
    node.inferredType.EndsArray := by
  have first (inner : { child : Node // child ∈ node.children }) :
      inner.1.inferredType.EndsArray :=
    have := sizeOf_lt_of_mem inner.2
    endsArray_inferredType inner.1 (brackets.children inner.1 inner.2)
  rw [inferredType]
  split
  case h_9 => split <;> exact fun array => by cases array
  case h_10 => split <;> exact fun _ => .inl rfl
  case h_13 =>
    split
    · rename_i type _ _
      exact endsArray_toType type.1 (brackets.children type.1 type.2)
    · exact fun array => by cases array
  case h_14 | h_15 =>
    split
    · exact first _
    · exact fun array => by cases array
  all_goals exact fun array => by cases array
termination_by sizeOf node

end Node

/-- Putting types in place of type parameters leaves array types as they were or makes unwritten
ones. -/
theorem TypeExpr.EndsArray.substitute {type : TypeExpr} (h : type.EndsArray) {bindings : Bindings}
    (bound : ∀ name value, bindings.find? name = some value → value.EndsArray) :
    (type.substitute bindings).EndsArray := by
  obtain ⟨shape, text⟩ := type
  by_cases whole : ∃ name, shape = .reference name []
  · obtain ⟨name, rfl⟩ := whole
    rw [substitute_parameter]
    cases found : bindings.find? name with
    | none => exact h
    | some value => exact bound name value found
  · rw [not_exists] at whole
    cases shape with
    | array element =>
      rw [TypeExpr.substitute, replaced?]
      cases element.replaced? bindings with
      | none => exact h
      | some other => exact fun _ => .inl rfl
    | _ =>
      intro array
      rw [element?, shape_substitute bindings whole] at array
      cases array

end TypeAtlas
