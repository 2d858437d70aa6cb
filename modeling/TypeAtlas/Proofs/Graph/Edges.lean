import TypeAtlas.Graph.Basic
import TypeAtlas.Proofs.Model.Graph

/-!
# The edges of a graph

The graph of a list of models has a node for each model and an edge for each mention of a model in
another one: in its supertypes first, then field by field, as often as it is mentioned
(`Graph.isDrawnFrom_ofModels`). Edges are numbered, and the number can be read off the id, whatever
names follow it (`Graph.eq_of_append_dash`). So no two edges share an id.

Models of a text mention only what they depend on (`Model.target_mem_dependencies`) and depend only
on each other, and therefore no edge of their graph leads nowhere.

Main statement: `Graph.draws_ofModels`.
-/

set_option autoImplicit false

namespace TypeAtlas

namespace Model

/-- A place where a model mentions another one. -/
structure Mention where
  source : String
  target : String
  /-- The name of the field, unless a supertype is mentioned. -/
  field : Option String
  kind : EdgeKind

/-- The models that a field mentions, as often as it does. -/
def fieldMentions (model : Model) (field : SchemaField) : List Mention :=
  field.shape.models.map fun id => ⟨model.id, id, some field.name, .field⟩

/-- The models that a model mentions: those it extends, those it implements, and those in its
fields. -/
def mentions (model : Model) : List Mention :=
  (model.kind.extended.filterMap (·.model?)).map (fun id => ⟨model.id, id, none, .extends⟩) ++
    (model.kind.implemented.filterMap (·.model?)).map (fun id => ⟨model.id, id, none, .implements⟩) ++
      model.schema.flatMap model.fieldMentions

end Model

open Model (Mention)

namespace Graph

/-! ### What a graph of models is -/

/-- A node stands for a model and has a handle for each of its fields. -/
structure IsNodeOf (node : GraphNode) (model : Model) : Prop where
  id : node.id = model.id
  modelType : node.modelType = model.kind.word
  handles : node.handles = model.schema.map fun field => fieldHandle model.id field.name

/-- An edge stands for a mention and starts at the handle of the field, if it is one of a field. -/
structure IsEdgeOf (edge : GraphEdge) (mention : Mention) : Prop where
  source : edge.source = mention.source
  target : edge.target = mention.target
  sourceHandle : edge.sourceHandle = mention.field.map (fieldHandle mention.source)
  kind : edge.kind = mention.kind

/-- A graph is drawn from models if it has one node for each, one edge for each mention, different
ids for all edges, and for each edge of a field a node at its source with the handle where it
starts. -/
structure IsDrawnFrom (graph : Graph) (models : List Model) : Prop where
  nodes : List.Forall₂ IsNodeOf graph.nodes models
  edges : List.Forall₂ IsEdgeOf graph.edges (models.flatMap (·.mentions))
  distinct : (graph.edges.map (·.id)).Nodup
  handles : ∀ edge ∈ graph.edges, edge.kind = .field →
    ∃ node ∈ graph.nodes, node.id = edge.source ∧
      ∃ handle ∈ node.handles, edge.sourceHandle = some handle

/-- Every edge joins two nodes, and the model it starts from depends on the one that it leads to. -/
structure IsClosed (graph : Graph) (models : List Model) : Prop where
  source_mem : ∀ edge ∈ graph.edges, edge.source ∈ graph.nodes.map (·.id)
  target_mem : ∀ edge ∈ graph.edges, edge.target ∈ graph.nodes.map (·.id)
  depends : ∀ edge ∈ graph.edges, ∀ model ∈ models, model.id = edge.source →
    edge.target ∈ model.dependencies

/-! ### Numbers in front of ids -/

/-- A number in front of a dash can be told from the text. -/
theorem eq_of_append_dash {m n : Nat} {first second : String}
    (same : toString m ++ "-" ++ first = toString n ++ "-" ++ second) : m = n := by
  have digits (n : Nat) (rest : String) :
      (toString n ++ "-" ++ rest).toList.takeWhile Char.isDigit = Nat.toDigits 10 n := by
    have all : ∀ c ∈ Nat.toDigits 10 n, c.isDigit = true := fun c mem =>
      Nat.isDigit_of_mem_toDigits (by decide) (by decide) mem
    rw [Nat.toString_eq_repr, String.toList_append, String.toList_append, Nat.toList_repr,
      List.append_assoc, List.takeWhile_append_of_pos all]
    simp
  have written : Nat.toDigits 10 m = Nat.toDigits 10 n := by
    rw [← digits m first, ← digits n second, same]
  calc
    m = Nat.ofDigitChars 10 (Nat.toDigits 10 m) 0 := Nat.ofDigitChars_ten_toDigits.symm
    _ = Nat.ofDigitChars 10 (Nat.toDigits 10 n) 0 := by rw [written]
    _ = n := Nat.ofDigitChars_ten_toDigits

/-- The ids of numbered edges start with numbers from the first one on. -/
theorem exists_number_of_mem_numbered {id : String} :
    {start : Nat} → {links : List (String × Link)} →
      id ∈ (numbered start links).map (·.id) →
        ∃ n rest, start ≤ n ∧ id = toString n ++ "-" ++ rest
  | start, [], mem => by simp [numbered] at mem
  | start, (source, link) :: later, mem => by
      rw [numbered, List.map_cons, List.mem_cons] at mem
      rcases mem with rfl | further
      · refine ⟨start, source ++ "-" ++ link.label, Nat.le_refl _, ?_⟩
        simp only [String.append_assoc]
      · obtain ⟨n, rest, above, rfl⟩ := exists_number_of_mem_numbered further
        exact ⟨n, rest, by omega, rfl⟩

/-- Numbered edges have different ids. -/
theorem nodup_map_id_numbered :
    (start : Nat) → (links : List (String × Link)) →
      ((numbered start links).map (·.id)).Nodup
  | _, [] => List.nodup_nil
  | start, (source, link) :: later => by
      rw [numbered, List.map_cons, List.nodup_cons]
      refine ⟨fun mem => ?_, nodup_map_id_numbered (start + 1) later⟩
      obtain ⟨n, rest, above, same⟩ := exists_number_of_mem_numbered mem
      have first : toString start ++ "-" ++ (source ++ "-" ++ link.label) =
          toString n ++ "-" ++ rest := by
        rw [← same]
        simp only [String.append_assoc]
      have : start = n := eq_of_append_dash first
      omega

/-! ### Edges and mentions -/

/-- A link from a model stands for a mention in it. -/
structure IsLinkOf (link : String × Link) (mention : Mention) : Prop where
  source : link.1 = mention.source
  target : link.2.target = mention.target
  handle : link.2.handle = mention.field.map (fieldHandle mention.source)
  kind : link.2.kind = mention.kind

/-- Numbering leaves what links stand for. -/
theorem isEdgeOf_numbered {links : List (String × Link)} {mentions : List Mention}
    (h : List.Forall₂ IsLinkOf links mentions) (start : Nat) :
    List.Forall₂ IsEdgeOf (numbered start links) mentions := by
  induction h generalizing start with
  | nil => exact .nil
  | cons first _ ih =>
    exact .cons ⟨first.source, first.target, first.handle, first.kind⟩ (ih (start + 1))

/-- Links that are listed like mentions stand for them. -/
theorem isLinkOf_map {α : Type} (list : List α) {link : α → Link} {mention : α → Mention}
    {source : String} (h : ∀ a ∈ list, IsLinkOf (source, link a) (mention a)) :
    List.Forall₂ IsLinkOf ((list.map link).map fun link => (source, link)) (list.map mention) := by
  rw [List.map_map, List.forall₂_map_left_iff, List.forall₂_map_right_iff, List.forall₂_same]
  exact h

/-- The links of a field stand for what its shape names, whichever way they are labelled. -/
theorem isLinkOf_fieldLinks (model : Model) (field : SchemaField) :
    List.Forall₂ IsLinkOf ((fieldLinks model.id field).map fun link => (model.id, link))
      (model.fieldMentions field) := by
  unfold fieldLinks Model.fieldMentions
  cases field.shape with
  | scalar | array => exact isLinkOf_map _ fun _ _ => ⟨rfl, rfl, rfl, rfl⟩
  | generic | function | union => exact isLinkOf_map _ fun _ _ => ⟨rfl, rfl, rfl, rfl⟩

/-- The links of fields stand for what the fields mention, field by field. -/
theorem isLinkOf_flatMap_fieldLinks (model : Model) (schema : List SchemaField) :
    List.Forall₂ IsLinkOf
      ((schema.flatMap (fieldLinks model.id)).map fun link => (model.id, link))
      (schema.flatMap model.fieldMentions) := by
  have same : List.Forall₂ (· = ·) schema schema := List.forall₂_same.mpr fun _ _ => rfl
  rw [List.map_flatMap]
  refine List.rel_flatMap same fun field _ equal => ?_
  rw [← equal]
  exact isLinkOf_fieldLinks model field

/-- The links of a model stand for its mentions, one by one. -/
theorem isLinkOf_links (model : Model) :
    List.Forall₂ IsLinkOf ((links model).map fun link => (model.id, link)) model.mentions := by
  have supertypes (ids : List String) (kind : EdgeKind) :
      List.Forall₂ IsLinkOf
        ((ids.map fun id => (⟨id, id, none, kind⟩ : Link)).map fun link => (model.id, link))
        (ids.map fun id => ⟨model.id, id, none, kind⟩) :=
    isLinkOf_map _ fun _ _ => ⟨rfl, rfl, rfl, rfl⟩
  unfold links Model.mentions
  rw [List.map_append, List.map_append]
  exact List.rel_append (List.rel_append (supertypes _ .extends) (supertypes _ .implements))
    (isLinkOf_flatMap_fieldLinks model model.schema)

/-- The links of models stand for their mentions, model by model. -/
theorem isLinkOf_flatMap_links (models : List Model) :
    List.Forall₂ IsLinkOf
      (models.flatMap fun model => (links model).map fun link => (model.id, link))
      (models.flatMap (·.mentions)) := by
  have same : List.Forall₂ (· = ·) models models := List.forall₂_same.mpr fun _ _ => rfl
  refine List.rel_flatMap same fun model _ equal => ?_
  rw [← equal]
  exact isLinkOf_links model

/-! ### What models mention -/

end Graph

namespace Model

/-- What a model mentions starts at this model. -/
theorem source_of_mem_mentions {model : Model} {mention : Mention}
    (mem : mention ∈ model.mentions) : mention.source = model.id := by
  simp only [mentions, fieldMentions, List.mem_append, List.mem_map, List.mem_flatMap] at mem
  rcases mem with (⟨_, _, rfl⟩ | ⟨_, _, rfl⟩) | ⟨_, _, _, _, rfl⟩ <;> rfl

/-- What is mentioned in fields is mentioned in one of them. -/
theorem exists_field_of_mem_mentions {model : Model} {mention : Mention}
    (mem : mention ∈ model.mentions) (inField : mention.kind = .field) :
    ∃ field ∈ model.schema, mention.field = some field.name := by
  simp only [mentions, fieldMentions, List.mem_append, List.mem_map, List.mem_flatMap] at mem
  rcases mem with (⟨_, _, rfl⟩ | ⟨_, _, rfl⟩) | ⟨field, listed, _, _, rfl⟩
  · cases inField
  · cases inField
  · exact ⟨field, listed, rfl⟩

/-- A model that was read from a declaration depends on every model that it mentions. -/
theorem Reads.target_mem_dependencies {extraction : Extraction}
    {candidate : Extraction.Candidate} {model : Model} (h : Reads extraction candidate model)
    {mention : Mention} (mem : mention ∈ model.mentions) :
    mention.target ∈ model.dependencies := by
  rw [h.dependencies, List.mem_eraseDups, Extraction.referencesOf, ModelKind.supertypes,
    List.filterMap_append]
  simp only [mentions, fieldMentions, List.mem_append, List.mem_map, List.mem_flatMap] at mem ⊢
  rcases mem with (⟨id, listed, rfl⟩ | ⟨id, listed, rfl⟩) | ⟨field, shown, id, named, rfl⟩
  · exact .inl (.inl (.inl listed))
  · exact .inl (.inl (.inr listed))
  · exact .inr (h.fields.models_subset shown named)

end Model

namespace Graph

/-! ### Drawn graphs -/

/-- What is listed on the left stands for something on the right. -/
theorem exists_mem_right {α β : Type} {R : α → β → Prop} {a : α} :
    {left : List α} → {right : List β} → List.Forall₂ R left right → a ∈ left →
      ∃ b ∈ right, R a b
  | _ :: _, second :: _, .cons first rest, mem => by
      rcases List.mem_cons.mp mem with rfl | later
      · exact ⟨second, List.mem_cons_self, first⟩
      · obtain ⟨b, listed, related⟩ := exists_mem_right rest later
        exact ⟨b, List.mem_cons_of_mem _ listed, related⟩

section ofModels

variable (models : List Model)

/-- The edges of the graph of models stand for what these mention, one by one and in order. -/
theorem isEdgeOf_edges_ofModels :
    List.Forall₂ IsEdgeOf (ofModels models).edges (models.flatMap (·.mentions)) :=
  isEdgeOf_numbered (isLinkOf_flatMap_links models) 1

/-- Every edge stands for something that one of the models mentions. -/
theorem exists_mention_of_mem_edges {edge : GraphEdge} (mem : edge ∈ (ofModels models).edges) :
    ∃ model ∈ models, ∃ mention ∈ model.mentions, IsEdgeOf edge mention := by
  obtain ⟨mention, listed, stands⟩ := exists_mem_right (isEdgeOf_edges_ofModels models) mem
  obtain ⟨model, among, inside⟩ := List.mem_flatMap.mp listed
  exact ⟨model, among, mention, inside, stands⟩

/-- The nodes of the graph of models have the ids of the models, in order. -/
theorem map_id_nodes_ofModels : (ofModels models).nodes.map (·.id) = models.map (·.id) := by
  rw [ofModels, List.map_map]
  rfl

/-- An edge of a field starts at a handle of the node of its model. -/
theorem exists_handle_of_mem_edges {edge : GraphEdge} (mem : edge ∈ (ofModels models).edges)
    (inField : edge.kind = .field) :
    ∃ node ∈ (ofModels models).nodes, node.id = edge.source ∧
      ∃ handle ∈ node.handles, edge.sourceHandle = some handle := by
  obtain ⟨model, among, mention, inside, stands⟩ := exists_mention_of_mem_edges models mem
  have start : mention.source = model.id := Model.source_of_mem_mentions inside
  obtain ⟨field, listed, named⟩ :=
    Model.exists_field_of_mem_mentions inside (stands.kind ▸ inField)
  refine ⟨_, List.mem_map.mpr ⟨model, among, rfl⟩, ?_, fieldHandle model.id field.name, ?_, ?_⟩
  · show model.id = edge.source
    rw [stands.source, start]
  · exact List.mem_map.mpr ⟨field, listed, rfl⟩
  · rw [stands.sourceHandle, named, start, Option.map_some]

/-- The graph of models is drawn from them. -/
theorem isDrawnFrom_ofModels : (ofModels models).IsDrawnFrom models where
  nodes := by
    rw [ofModels, List.forall₂_map_left_iff, List.forall₂_same]
    exact fun model _ => ⟨rfl, rfl, rfl⟩
  edges := isEdgeOf_edges_ofModels models
  distinct := nodup_map_id_numbered 1 _
  handles := fun _ mem inField => exists_handle_of_mem_edges models mem inField

/-- Where models depend on what they mention and only on each other, and none shares its id with
another one, every edge of their graph joins two nodes. -/
theorem isClosed_ofModels {models : List Model} (distinct : (models.map (·.id)).Nodup)
    (depends : ∀ model ∈ models, ∀ mention ∈ model.mentions, mention.target ∈ model.dependencies)
    (closed : ∀ model ∈ models, ∀ id ∈ model.dependencies, id ∈ models.map (·.id)) :
    (ofModels models).IsClosed models := by
  have each : ∀ edge ∈ (ofModels models).edges,
      ∃ model ∈ models, edge.source = model.id ∧ edge.target ∈ model.dependencies := by
    intro edge mem
    obtain ⟨model, among, mention, inside, stands⟩ := exists_mention_of_mem_edges models mem
    refine ⟨model, among, ?_, ?_⟩
    · rw [stands.source, Model.source_of_mem_mentions inside]
    · rw [stands.target]
      exact depends model among mention inside
  refine ⟨fun edge mem => ?_, fun edge mem => ?_, fun edge mem model among same => ?_⟩
  · obtain ⟨model, among, start, -⟩ := each edge mem
    rw [map_id_nodes_ofModels, start]
    exact List.mem_map_of_mem among
  · obtain ⟨model, among, -, target⟩ := each edge mem
    rw [map_id_nodes_ofModels]
    exact closed model among _ target
  · obtain ⟨other, listed, start, target⟩ := each edge mem
    obtain rfl : model = other :=
      List.inj_on_of_nodup_map distinct among listed (same.trans start)
    exact target

end ofModels

/-- The models of a scope depend on what they mention. -/
theorem isClosed_ofScope (scope : Scope) (config : ExtractConfig) :
    (ofModels (Model.ofScope scope config)).IsClosed (Model.ofScope scope config) := by
  have graph := Model.isGraph_ofScope scope config
  refine isClosed_ofModels graph.distinct (fun model among mention inside => ?_)
    graph.dependencies_mem
  obtain ⟨candidate, -, reads⟩ :=
    exists_mem_right (Model.areReadFrom_ofScope scope config).reads.flip among
  exact reads.target_mem_dependencies inside

/-- The graph of any models has a node for each model and an edge for each mention, and in the graph
of the models of a text every edge leads to a node that its source depends on. These are the models
that come from answering a question that never ends by the type itself or by nothing
(`Model.ofText`). -/
theorem draws_ofModels :
    (∀ models : List Model, (ofModels models).IsDrawnFrom models) ∧
      ∀ (text : String) (config : ExtractConfig),
        (ofModels (Model.ofText text config)).IsClosed (Model.ofText text config) := by
  refine ⟨isDrawnFrom_ofModels, fun text config => ?_⟩
  unfold Model.ofText Model.ofSource
  exact isClosed_ofScope _ config

end Graph

end TypeAtlas
