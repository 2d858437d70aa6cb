import TypeAtlas.Model.Basic

/-!
Models as a graph to draw: a node for each model, an edge for each reference from one to another.

Edges come in the order of the models, for each model its supertypes before its fields, and are
numbered in that order.
-/

set_option autoImplicit false

namespace TypeAtlas

/-- What an edge stands for. -/
inductive EdgeKind where
  | extends | implements | field
deriving DecidableEq, Repr

/-- The word for a kind of edge. -/
def EdgeKind.word : EdgeKind → String
  | .extends => "extends"
  | .implements => "implements"
  | .field => "field"

/-- A node of the graph, with a handle for each field. -/
structure GraphNode where
  id : String
  /-- The word for the kind of the model. -/
  modelType : String
  handles : List String
deriving DecidableEq, Repr

/-- An edge of the graph. -/
structure GraphEdge where
  id : String
  source : String
  target : String
  /-- The handle where the edge starts, if it belongs to a field. -/
  sourceHandle : Option String
  kind : EdgeKind
deriving DecidableEq, Repr

/-- A graph of models. -/
structure Graph where
  nodes : List GraphNode
  edges : List GraphEdge
deriving DecidableEq, Repr

namespace Graph

/-- The handle of a field. -/
def fieldHandle (model field : String) : String := model ++ "-source-" ++ field

/-- An edge from a model before it is numbered. -/
structure Link where
  /-- What the edge is called besides its number and its model. -/
  label : String
  target : String
  handle : Option String
  kind : EdgeKind

/-- The links of a field. Where a field can name several models, so does the label. -/
def fieldLinks (model : String) (field : SchemaField) : List Link :=
  let link (label target : String) : Link :=
    ⟨label, target, some (fieldHandle model field.name), .field⟩
  match field.shape with
  | .scalar type | .array type => type.model?.toList.map (link field.name)
  | shape => shape.models.map fun target => link (field.name ++ "-" ++ target) target

/-- The links of a model. -/
def links (model : Model) : List Link :=
  (model.kind.extended.filterMap (·.model?)).map (fun id => ⟨id, id, none, .extends⟩) ++
    (model.kind.implemented.filterMap (·.model?)).map (fun id => ⟨id, id, none, .implements⟩) ++
    model.schema.flatMap (fieldLinks model.id)

/-- Numbers links from the given number on. -/
def numbered : Nat → List (String × Link) → List GraphEdge
  | _, [] => []
  | n, (source, link) :: rest =>
    ⟨toString n ++ "-" ++ source ++ "-" ++ link.label,
      source, link.target, link.handle, link.kind⟩ :: numbered (n + 1) rest

/-- The graph of a list of models. -/
def ofModels (models : List Model) : Graph where
  nodes := models.map fun model =>
    ⟨model.id, model.kind.word, model.schema.map fun field => fieldHandle model.id field.name⟩
  edges := numbered 1 (models.flatMap fun model => (links model).map fun link => (model.id, link))

/-- The edges that start or end at a node. -/
def edgesOf (graph : Graph) (id : String) : List GraphEdge :=
  graph.edges.filter fun edge => edge.source == id || edge.target == id

end Graph

end TypeAtlas
