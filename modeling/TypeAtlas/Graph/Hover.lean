import TypeAtlas.Graph.Basic

/-!
Which nodes and edges stand out while the pointer is over a node.
-/

set_option autoImplicit false

namespace TypeAtlas

/-- The node that the pointer is over, if there is one. -/
structure Hover where
  hovered : Option String
deriving DecidableEq, Repr

/-- How an edge is drawn. -/
structure EdgeDecoration where
  highlighted : Bool
  faded : Bool
deriving DecidableEq, Repr

namespace Hover

/-- The pointer is over no node. -/
def nowhere : Hover := ⟨none⟩

/-- The pointer moves over a node. -/
def onto (id : String) : Hover := ⟨some id⟩

/-- Whether the node of a model stands out: the hovered one and its neighbours do. -/
def highlights (hover : Hover) (model : Model) : Bool :=
  match hover.hovered with
  | none => false
  | some id => model.id == id || model.dependsOn id || model.isDependedOnBy id

/-- How an edge is drawn: those of the hovered node stand out, all others fade. -/
def decoration (hover : Hover) (edge : GraphEdge) : EdgeDecoration :=
  match hover.hovered with
  | none => ⟨false, false⟩
  | some id => if edge.source == id || edge.target == id then ⟨true, false⟩ else ⟨false, true⟩

end Hover

end TypeAtlas
