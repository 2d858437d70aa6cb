import Mathlib.Data.List.Induction
import TypeAtlas.Graph.Hover
import TypeAtlas.Proofs.Graph.Edges

/-!
# What stands out while the pointer moves

Which nodes stand out is told by the dependencies and dependants of their models, and which edges
do by where the edges start and end. The two agree since an edge leads from a model to one that it
depends on (`Graph.isClosed_ofScope`) and since the models that depend on another one are its
dependants (`Model.isGraph_ofScope`): an edge that stands out touches the node that the pointer is
over, and whatever is at its other end is a neighbour of that node (`Hover.highlights_of_touches`).

The pointer may be over an id that no model has. Then every edge fades.

Main statement: `Hover.agrees_after`, for the models of every text and all moves of the pointer.
-/

set_option autoImplicit false

namespace TypeAtlas

namespace Hover

/-! ### Moves of the pointer -/

/-- What the pointer does. -/
inductive Move where
  /-- It moves over the node of an id. -/
  | onto (id : String)
  /-- It leaves the node that it is over. -/
  | away
deriving DecidableEq, Repr

/-- Where the pointer is after a move. -/
def move (_ : Hover) : Move → Hover
  | .onto id => onto id
  | .away => nowhere

/-- Where the pointer is after moves one by one, if it was over no node before. -/
def after (moves : List Move) : Hover := moves.foldl move nowhere

/-- The id that a move brings the pointer to. -/
def Move.target? : Move → Option String
  | .onto id => some id
  | .away => none

/-- A move brings the pointer to the id it is aimed at, or away from all nodes, wherever it was. -/
theorem hovered_move (hover : Hover) (next : Move) : (hover.move next).hovered = next.target? := by
  cases next <;> rfl

/-- The pointer is where the last move has brought it. -/
theorem hovered_after (moves : List Move) :
    (after moves).hovered = moves.getLast?.bind (·.target?) := by
  induction moves using List.reverseRecOn with
  | nil => rfl
  | append_singleton moves last _ =>
    rw [after, List.foldl_append, List.foldl_cons, List.foldl_nil, hovered_move,
      List.getLast?_concat, Option.bind_some]

/-! ### Nodes and edges that stand out -/

/-- The pointer is over one of the ends of the edge. -/
def Touches (hover : Hover) (edge : GraphEdge) : Prop :=
  hover.hovered = some edge.source ∨ hover.hovered = some edge.target

/-- An edge stands out exactly if the pointer is over one of its ends. -/
theorem highlighted_decoration {hover : Hover} {edge : GraphEdge} :
    (hover.decoration edge).highlighted = true ↔ hover.Touches edge := by
  unfold decoration Touches
  cases hover.hovered with
  | none => simp
  | some id =>
    by_cases touched : edge.source = id ∨ edge.target = id <;> simp [touched, eq_comm (a := id)]

/-- While the pointer is over a node, an edge fades exactly if it does not stand out. -/
theorem faded_decoration {hover : Hover} (pointed : hover.hovered.isSome) (edge : GraphEdge) :
    (hover.decoration edge).faded = !(hover.decoration edge).highlighted := by
  obtain ⟨id, here⟩ := Option.isSome_iff_exists.mp pointed
  unfold decoration
  rw [here]
  simp only
  split_ifs <;> rfl

/-- What stands out and what fades agrees on the nodes and the edges of a drawing: both ends of an
edge that stands out do so too, while the pointer is over a node each edge either stands out or
fades, and otherwise nothing does either. -/
structure Agrees (hover : Hover) (models : List Model) (graph : Graph) : Prop where
  source : ∀ edge ∈ graph.edges, (hover.decoration edge).highlighted = true →
    ∃ model, Model.find? models edge.source = some model ∧ hover.highlights model = true
  target : ∀ edge ∈ graph.edges, (hover.decoration edge).highlighted = true →
    ∃ model, Model.find? models edge.target = some model ∧ hover.highlights model = true
  either : hover.hovered.isSome → ∀ edge ∈ graph.edges,
    (hover.decoration edge).faded = !(hover.decoration edge).highlighted
  edges : hover.hovered = none → ∀ edge ∈ graph.edges, hover.decoration edge = ⟨false, false⟩
  nodes : hover.hovered = none → ∀ model ∈ models, hover.highlights model = false

/-- A model stands out if the pointer is over it or over a neighbour. -/
theorem highlights_of_hovered {hover : Hover} {model : Model} {id : String}
    (here : hover.hovered = some id)
    (near : model.id = id ∨ id ∈ model.dependencies ∨ id ∈ model.dependants) :
    hover.highlights model = true := by
  unfold highlights
  simpa [here, Model.dependsOn, Model.isDependedOnBy, or_assoc] using near

/-- Where a model depends on another one that has it as a dependant, both stand out as soon as the
pointer is over one of them. -/
theorem highlights_of_touches {hover : Hover} {edge : GraphEdge} (touched : hover.Touches edge)
    {source target : Model} (start : source.id = edge.source) (stop : target.id = edge.target)
    (depends : target.id ∈ source.dependencies) (known : source.id ∈ target.dependants) :
    hover.highlights source = true ∧ hover.highlights target = true := by
  rw [Touches, ← start, ← stop] at touched
  rcases touched with atSource | atTarget
  · exact ⟨highlights_of_hovered atSource (.inl rfl),
      highlights_of_hovered atSource (.inr (.inr known))⟩
  · exact ⟨highlights_of_hovered atTarget (.inr (.inl depends)),
      highlights_of_hovered atTarget (.inl rfl)⟩

end Hover

/-! ### Models of a graph -/

namespace Model

/-- Every id of a list of models is that of one in the list. -/
theorem exists_find?_of_mem_map_id {models : List Model} {id : String}
    (mem : id ∈ models.map (·.id)) :
    ∃ model ∈ models, find? models id = some model ∧ model.id = id := by
  obtain ⟨model, found⟩ := Option.isSome_iff_exists.mp
    (show (find? models id).isSome by simpa [find?] using mem)
  exact ⟨model, List.mem_of_find?_eq_some found, found, by simpa using List.find?_some found⟩

/-- A model of a graph is a dependant of every model that it depends on. -/
theorem IsGraph.mem_dependants {known : List String} {models : List Model}
    (h : IsGraph known models) {source target : Model} (first : source ∈ models)
    (second : target ∈ models) (depends : target.id ∈ source.dependencies) :
    source.id ∈ target.dependants := by
  rw [h.dependants_eq target second]
  exact List.mem_map_of_mem (List.mem_filter.mpr ⟨first, by simpa using depends⟩)

end Model

namespace Hover

/-- Where every edge leads to a model that its source depends on, and dependants are those that
depend on a model, nodes and edges agree wherever the pointer is. -/
theorem agrees_of_isGraph {known : List String} {models : List Model} {graph : Graph}
    (h : Model.IsGraph known models) (ids : graph.nodes.map (·.id) = models.map (·.id))
    (closed : graph.IsClosed models) (hover : Hover) : hover.Agrees models graph := by
  have ends : ∀ edge ∈ graph.edges, hover.Touches edge →
      ∃ source target, Model.find? models edge.source = some source ∧
        Model.find? models edge.target = some target ∧
          hover.highlights source = true ∧ hover.highlights target = true := by
    intro edge drawn touched
    obtain ⟨source, first, foundSource, start⟩ :=
      Model.exists_find?_of_mem_map_id (ids ▸ closed.source_mem edge drawn)
    obtain ⟨target, second, foundTarget, stop⟩ :=
      Model.exists_find?_of_mem_map_id (ids ▸ closed.target_mem edge drawn)
    have depends : target.id ∈ source.dependencies :=
      stop ▸ closed.depends edge drawn source first start
    exact ⟨source, target, foundSource, foundTarget, highlights_of_touches touched start stop
      depends (h.mem_dependants first second depends)⟩
  refine ⟨fun edge drawn shown => ?_, fun edge drawn shown => ?_,
    fun pointed edge _ => faded_decoration pointed edge, fun none edge _ => ?_, fun none model _ => ?_⟩
  · obtain ⟨source, _, found, _, out, _⟩ := ends edge drawn (highlighted_decoration.mp shown)
    exact ⟨source, found, out⟩
  · obtain ⟨_, target, _, found, _, out⟩ := ends edge drawn (highlighted_decoration.mp shown)
    exact ⟨target, found, out⟩
  · simp only [decoration, none]
  · simp only [highlights, none]

/-- After all moves, the pointer is where the last one has brought it, and what stands out among the
models of a text agrees with what stands out in their graph. These are the models that come from
answering a question that never ends by the type itself or by nothing (`Model.ofText`). -/
theorem agrees_after (text : String) (config : ExtractConfig) (moves : List Move) :
    (after moves).hovered = moves.getLast?.bind (·.target?) ∧
      (after moves).Agrees (Model.ofText text config) (Graph.ofModels (Model.ofText text config)) := by
  refine ⟨hovered_after moves, agrees_of_isGraph (Model.isGraph_ofText text config)
    (Graph.map_id_nodes_ofModels _) ?_ _⟩
  unfold Model.ofText Model.ofSource
  exact Graph.isClosed_ofScope _ config

end Hover

end TypeAtlas
