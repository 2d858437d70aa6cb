import TypeAtlas.Proofs.Declarations.Names
import TypeAtlas.Proofs.Model.Dependencies
import TypeAtlas.Proofs.Model.Linking

/-!
# The models of a source form a graph

Every name that is chosen becomes the id of one model, and the names are chosen in the order
interfaces, aliases, classes (`Extraction.map_name_choose`, `Extraction.eraseDups_names`). A model
depends on chosen names only and has those models as dependants that depend on it, so dependencies
and dependants are the two directions of one relation between the models
(`Model.isGraph_ofSource`).

What a model depends on is told by its own supertypes and fields (`Model.areReadFrom_ofSource`):
linking adds dependants and leaves the rest as it was extracted (`Model.ofScope_eq`). Both hold for
every source, whatever has read its text, and so for the models of every text
(`Model.isGraph_ofText`, `Model.areReadFrom_ofText`).
-/

set_option autoImplicit false

namespace TypeAtlas

namespace Extraction

/-! ### Chosen names -/

/-- The names of chosen candidates are the first occurrences among all names. -/
theorem map_name_choose (candidates : List Candidate) :
    (choose candidates).map (·.name) = (candidates.map (·.name)).eraseDups := by
  have chosen : ∀ (candidates chosen : List Candidate),
      (candidates.foldl (fun chosen candidate =>
        if chosen.any fun other => other.name == candidate.name then chosen
        else chosen ++ [candidate]) chosen).map (·.name) =
      Notes.addAll (chosen.map (·.name)) (candidates.map (·.name)) := by
    intro candidates
    induction candidates with
    | nil => exact fun _ => rfl
    | cons candidate rest ih =>
      intro chosen
      have taken : (chosen.any fun other => other.name == candidate.name) =
          (chosen.map (·.name)).contains candidate.name := by
        rw [List.contains_eq_any_beq, List.any_map]
        exact congrArg (chosen.any ·) (funext fun other => Bool.beq_comm)
      rw [List.foldl_cons, ih, List.map_cons, Notes.addAll, Notes.addAll, List.foldl_cons, taken,
        Notes.add]
      split_ifs <;> simp
  exact (chosen candidates []).trans (Notes.addAll_nil _)

/-- No two chosen candidates have one name. -/
theorem nodup_map_name_choose (candidates : List Candidate) :
    ((choose candidates).map (·.name)).Nodup := by
  rw [map_name_choose, ← Notes.addAll_nil]
  exact Notes.nodup_addAll _ List.nodup_nil

end Extraction

/-- The names that have models: those of interfaces, those of aliases that are not taken by then,
and if classes have models, those of classes that are not taken by then. -/
def Declarations.modelNames (decls : Declarations) (config : ExtractConfig) : List String :=
  let interfaces := decls.interfaces.map (·.name)
  let aliases := (decls.aliases.map (·.name)).filter (· ∉ interfaces)
  let classes :=
    if config.includeClasses then
      (decls.classes.map (·.name)).filter (· ∉ interfaces ++ aliases)
    else []
  interfaces ++ aliases ++ classes

/-- Distinct items are all first occurrences. -/
theorem eraseDups_of_nodup : {names : List String} → names.Nodup → names.eraseDups = names
  | [], _ => rfl
  | name :: rest, h => by
      rw [List.nodup_cons] at h
      have others : rest.filter (fun other => !other == name) = rest :=
        List.filter_eq_self.mpr fun other mem => by
          simpa using fun same : other = name => h.1 (same ▸ mem)
      rw [List.eraseDups_cons, others, eraseDups_of_nodup h.2]

/-- No kind declares a name twice, so the chosen names are told kind by kind. -/
theorem Extraction.eraseDups_names (decls : Declarations) (config : ExtractConfig) :
    ((candidates decls config).map (·.name)).eraseDups = decls.modelNames config := by
  have interfaces : (decls.interfaces.map (·.name)).Nodup := decls.interfaceTable.nodup_map_name
  have aliases : (decls.aliases.map (·.name)).Nodup := decls.aliasTable.nodup_map_name
  have classes : (decls.classes.map (·.name)).Nodup := decls.classTable.nodup_map_name
  have removed (names taken : List String) :
      names.removeAll taken = names.filter (· ∉ taken) := by
    simp [List.removeAll]
  have single {names : List String} (distinct : names.Nodup) (taken : List String) :
      (names.removeAll taken).eraseDups = names.filter (· ∉ taken) := by
    rw [removed, eraseDups_of_nodup (distinct.filter _)]
  have named : (candidates decls config).map (·.name) =
      decls.interfaces.map (·.name) ++ decls.aliases.map (·.name) ++
        if config.includeClasses then decls.classes.map (·.name) else [] := by
    unfold candidates
    split_ifs <;> simp [Candidate.name, Function.comp_def]
  rw [named, List.eraseDups_append, List.eraseDups_append, eraseDups_of_nodup interfaces,
    single aliases, Declarations.modelNames]
  split_ifs
  · rw [single classes]
    congr 1
    refine List.filter_congr fun name _ => decide_eq_decide.mpr (not_congr ?_)
    simp only [List.mem_append, List.mem_filter, decide_eq_true_eq]
    tauto
  · simp

namespace Model

/-! ### The graph -/

/-- Models of the known names form a graph: each is known by its name, dependencies and dependants
are models of the list without repetition, and the dependants of a model are those that depend on
it, in the order of the list. -/
structure IsGraph (known : List String) (models : List Model) : Prop where
  ids : models.map (·.id) = known
  names : models.map (·.name) = known
  distinct : (models.map (·.id)).Nodup
  dependencies_mem : ∀ model ∈ models, ∀ id ∈ model.dependencies, id ∈ models.map (·.id)
  dependants_mem : ∀ model ∈ models, ∀ id ∈ model.dependants, id ∈ models.map (·.id)
  dependencies_nodup : ∀ model ∈ models, model.dependencies.Nodup
  dependants_nodup : ∀ model ∈ models, model.dependants.Nodup
  dependants_eq : ∀ model ∈ models,
    model.dependants = (models.filter fun other => model.id ∈ other.dependencies).map (·.id)

/-- Linking makes a graph of models that depend on each other by their ids. -/
theorem isGraph_link {models : List Model} {known : List String}
    (ids : models.map (·.id) = known) (names : models.map (·.name) = known)
    (distinct : known.Nodup) (single : ∀ model ∈ models, model.dependencies.Nodup)
    (closed : ∀ model ∈ models, model.dependencies ⊆ known)
    (alone : ∀ model ∈ models, model.dependants = []) :
    IsGraph known (link known models) := by
  have linked := link_eq ids distinct single
  have linkedIds : (link known models).map (·.id) = known := by
    rw [linked, List.map_map]
    exact ids
  have linkedDistinct : ((link known models).map (·.id)).Nodup := linkedIds.symm ▸ distinct
  -- linking adds dependants and nothing else, so the linked models tell as well who depends on whom
  have told : ∀ model ∈ link known models,
      model.dependants =
        ((link known models).filter fun other => model.id ∈ other.dependencies).map (·.id) := by
    intro model mem
    rw [linked] at mem ⊢
    obtain ⟨first, inside, rfl⟩ := List.mem_map.mp mem
    simp only [withDependants, alone first inside, List.nil_append, dependantsAmong,
      List.filter_map, List.map_map]
    simp [Function.comp_def, dependsOn]
  refine ⟨linkedIds, ?_, linkedDistinct, ?_, ?_, ?_, ?_, told⟩
  · rw [linked, List.map_map]
    exact names
  · intro model mem
    rw [linkedIds]
    rw [linked] at mem
    obtain ⟨first, inside, rfl⟩ := List.mem_map.mp mem
    exact closed first inside
  · intro model mem id depends
    rw [told model mem] at depends
    exact (List.filter_sublist.map _).subset depends
  · intro model mem
    rw [linked] at mem
    obtain ⟨first, inside, rfl⟩ := List.mem_map.mp mem
    exact single first inside
  · intro model mem
    rw [told model mem]
    exact linkedDistinct.sublist (List.filter_sublist.map _)

/-- The candidates that models are made from. -/
def chosen (scope : Scope) (config : ExtractConfig) : List Extraction.Candidate :=
  Extraction.choose (Extraction.candidates scope.declarations config)

/-- What types are looked up in while the models of a scope are extracted. -/
def extraction (scope : Scope) (config : ExtractConfig) : Extraction :=
  .ofChosen scope config (chosen scope config)

/-- The models of a scope before they are linked. -/
def extracted (scope : Scope) (config : ExtractConfig) : List Model :=
  (chosen scope config).map (extraction scope config).modelOf

section extracted

variable (scope : Scope) (config : ExtractConfig)

/-- No name is known twice. -/
theorem nodup_known : (extraction scope config).known.Nodup :=
  Extraction.nodup_map_name_choose _

/-- The ids of extracted models are the known names, in order. -/
theorem map_id_extracted :
    (extracted scope config).map (·.id) = (extraction scope config).known := by
  rw [extracted, List.map_map]
  rfl

/-- No extracted model depends on a model twice. -/
theorem nodup_dependencies_extracted :
    ∀ model ∈ extracted scope config, model.dependencies.Nodup :=
  List.forall_mem_map.mpr fun candidate _ =>
    (extraction scope config).nodup_dependencies candidate

/-- Linking leaves the models of a scope as they were extracted, but for their dependants. -/
theorem ofScope_eq :
    ofScope scope config = (extracted scope config).map fun model =>
      model.withDependants (model.dependantsAmong (extracted scope config)) :=
  link_eq (map_id_extracted scope config) (nodup_known scope config)
    (nodup_dependencies_extracted scope config)

end extracted

/-- The models of every scope form a graph, whose ids are the names that are declared. -/
theorem isGraph_ofScope (scope : Scope) (config : ExtractConfig) :
    IsGraph (scope.declarations.modelNames config) (ofScope scope config) := by
  have known : scope.declarations.modelNames config = (extraction scope config).known := by
    rw [← Extraction.eraseDups_names, ← Extraction.map_name_choose]
    rfl
  have names : (extracted scope config).map (·.name) = (extraction scope config).known := by
    rw [extracted, List.map_map]
    rfl
  rw [known]
  exact isGraph_link (map_id_extracted scope config) names
    (nodup_known scope config) (nodup_dependencies_extracted scope config)
    (List.forall_mem_map.mpr fun candidate _ =>
      (extraction scope config).dependencies_subset candidate)
    (List.forall_mem_map.mpr fun _ _ => rfl)

/-- The models of every source form a graph, whatever tree its text has been read to. -/
theorem isGraph_ofSource (source : Source) (config : ExtractConfig) :
    IsGraph (source.declarations.modelNames config) (ofSource source config) :=
  isGraph_ofScope source.scope config

/-- The models of a text form a graph. Where the text asks a question that never ends, these are the
models that come from answering it by the type itself or by nothing (`Scope.apparent`,
`Scope.access?`). -/
theorem isGraph_ofText (text : String) (config : ExtractConfig) :
    IsGraph ((Source.read text config.aliasDepthLimit).declarations.modelNames config)
      (ofText text config) :=
  isGraph_ofScope (Source.read text config.aliasDepthLimit).scope config

/-! ### What a model depends on -/

/-- A model tells what its declaration refers to: its fields show the types of the fields of the
declaration, and it depends on the models among its supertypes, on the model that it indexes, and
on those that its fields refer to, each once in the order of first reference. -/
structure Reads (extraction : Extraction) (candidate : Extraction.Candidate) (model : Model) :
    Prop where
  name : model.name = candidate.name
  kind : model.kind = extraction.kindOf candidate
  fields : extraction.FieldsShow (extraction.fieldTypes candidate) model.schema
  dependencies : model.dependencies =
    (extraction.referencesOf candidate model.kind.supertypes model.schema).eraseDups

/-- Models are read from candidates: each tells what its declaration refers to, no text that stands
for a whole type in a field is the id of a model, and where ids are identifiers a parameter of an
array type refers to the model of its elements alone, if the text of the type ends with a bracket.
Which types are of this kind is told by `Node.endsArray_toType` and its like. -/
structure AreReadFrom (extraction : Extraction) (candidates : List Extraction.Candidate)
    (models : List Model) : Prop where
  reads : List.Forall₂ (Reads extraction) candidates models
  texts : ∀ model ∈ models, ∀ field ∈ model.schema, ∀ words,
    .text words ∈ field.shape.types → words ∉ models.map (·.id)
  arrays : (∀ id ∈ models.map (·.id), ¬ Extraction.EndsInBracket id) →
    ∀ parameter type element, parameter.type = some type → type.element? = some element →
      (type.text = "" ∨ Extraction.EndsInBracket type.text) →
        extraction.argumentReferences parameter (extraction.argumentOf parameter) =
          (extraction.model? element).toList

/-- The model that is made of a candidate tells what the candidate refers to. -/
theorem reads_modelOf (extraction : Extraction) (candidate : Extraction.Candidate) :
    Reads extraction candidate (extraction.modelOf candidate) where
  name := rfl
  kind := rfl
  fields := (extraction.modelOf_spec candidate).1
  dependencies := (extraction.modelOf_spec candidate).2

/-- What a model tells about its declaration does not depend on its dependants. -/
theorem Reads.withDependants {extraction : Extraction} {candidate : Extraction.Candidate}
    {model : Model} (h : Reads extraction candidate model) (ids : List String) :
    Reads extraction candidate (model.withDependants ids) :=
  ⟨h.name, h.kind, h.fields, h.dependencies⟩

/-- The ids of models are the known names, in order. -/
theorem map_id_ofScope (scope : Scope) (config : ExtractConfig) :
    (ofScope scope config).map (·.id) = (extraction scope config).known := by
  rw [ofScope_eq, List.map_map]
  exact map_id_extracted scope config

/-- The models of a scope are read from the candidates that were chosen. -/
theorem areReadFrom_ofScope (scope : Scope) (config : ExtractConfig) :
    AreReadFrom (extraction scope config) (chosen scope config) (ofScope scope config) where
  reads := by
    rw [ofScope_eq, extracted, List.map_map, List.forall₂_map_right_iff, List.forall₂_same]
    exact fun candidate _ => (reads_modelOf _ candidate).withDependants _
  texts := by
    rw [map_id_ofScope, ofScope_eq, List.forall_mem_map, extracted, List.forall_mem_map]
    intro candidate _ field shown words inside
    exact (reads_modelOf _ candidate).fields.text_not_mem shown inside
  arrays := by
    intro identifiers parameter type element typed array written
    rw [map_id_ofScope] at identifiers
    exact (extraction scope config).argumentReferences_of_element? typed array written identifiers

/-- The models of every source are read from its declarations, whatever tree its text has been read
to. -/
theorem areReadFrom_ofSource (source : Source) (config : ExtractConfig) :
    AreReadFrom (extraction source.scope config) (chosen source.scope config)
      (ofSource source config) :=
  areReadFrom_ofScope source.scope config

/-- The models of a text are read from its declarations. Where the text asks a question that never
ends, these are the models that come from answering it by the type itself or by nothing
(`Scope.apparent`, `Scope.access?`). -/
theorem areReadFrom_ofText (text : String) (config : ExtractConfig) :
    AreReadFrom (extraction (Source.read text config.aliasDepthLimit).scope config)
      (chosen (Source.read text config.aliasDepthLimit).scope config) (ofText text config) :=
  areReadFrom_ofScope _ config

end Model

end TypeAtlas
