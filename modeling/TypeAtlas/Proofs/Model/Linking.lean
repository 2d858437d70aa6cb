import Mathlib.Data.List.Nodup
import TypeAtlas.Model.Extraction

/-!
# Linking tells each model exactly who depends on it

A dependant is added to the model at the place of a name among the known names. If each known name
is that of one model, in the same order, this changes the model of the name and no other
(`Model.modify_idxOf`). A model with distinct dependencies is therefore added once to each model it
depends on (`Model.linkOne_eq`), and after all models have been linked the dependants of each are
those that depend on it, in the order of the models (`Model.link_eq`).
-/

set_option autoImplicit false

namespace TypeAtlas

namespace Model

/-! ### A model with further dependants -/

/-- The model with further dependants. -/
def withDependants (ids : List String) (model : Model) : Model :=
  { model with dependants := model.dependants ++ ids }

/-- A model keeps its id when a dependant is added. -/
@[simp]
theorem id_addDependant (id : String) (model : Model) : (model.addDependant id).id = model.id := rfl

/-- A model keeps its id with further dependants. -/
@[simp]
theorem id_withDependants (ids : List String) (model : Model) :
    (model.withDependants ids).id = model.id := rfl

/-- A model with no further dependants is the model. -/
@[simp]
theorem withDependants_nil (model : Model) : model.withDependants [] = model := by
  simp [withDependants]

/-- Dependants may be added in two parts. -/
theorem withDependants_append (first later : List String) (model : Model) :
    model.withDependants (first ++ later) = (model.withDependants first).withDependants later := by
  simp [withDependants]

/-- The models that depend on a model, by their ids. -/
def dependantsAmong (models : List Model) (model : Model) : List String :=
  (models.filter fun other => other.dependsOn model.id).map (·.id)

/-! ### One dependency -/

/-- Where each known name is that of one model, what is found at the place of a name is the model
of that name. -/
theorem modify_idxOf {change : Model → Model} {id : String} {place : Nat} :
    {models : List Model} → {known : List String} → models.map (·.id) = known → known.Nodup →
      known.idxOf? id = some place →
        models.modify place change =
          models.map fun model => if model.id = id then change model else model
  | [], _, rfl, _, found => by simp at found
  | model :: rest, _, rfl, distinct, found => by
      rw [List.map_cons, List.nodup_cons] at distinct
      rw [List.map_cons, List.idxOf?_cons] at found
      by_cases here : model.id = id
      · have others : ∀ other ∈ rest, other.id ≠ id := fun other mem same =>
          distinct.1 (List.mem_map.mpr ⟨other, mem, same.trans here.symm⟩)
        obtain rfl : 0 = place := by simpa [here] using found
        simp only [List.modify_zero_cons, List.map_cons, if_pos here]
        rw [List.map_congr_left fun other mem => if_neg (others other mem), List.map_id']
      · obtain ⟨before, later, rfl⟩ : ∃ before, (rest.map (·.id)).idxOf? id = some before ∧
            before + 1 = place := by simpa [here] using found
        rw [List.modify_succ_cons, modify_idxOf rfl distinct.2 later, List.map_cons, if_neg here]

/-- The model of a known name is told, and no other. -/
theorem tell_eq {models : List Model} {known : List String} (ids : models.map (·.id) = known)
    (distinct : known.Nodup) (id : String) (change : Model → Model) :
    (match known.idxOf? id with
      | some place => models.modify place change
      | none => models) =
      models.map fun model => if model.id = id then change model else model := by
  cases found : known.idxOf? id with
  | some place => exact modify_idxOf ids distinct found
  | none =>
    have absent : ∀ model ∈ models, model.id ≠ id := by
      intro model mem same
      have inside : model.id ∈ known := ids ▸ List.mem_map.mpr ⟨model, mem, rfl⟩
      rw [same] at inside
      exact List.idxOf?_eq_none_iff.mp found inside
    rw [List.map_congr_left fun model mem => if_neg (absent model mem), List.map_id']

/-! ### All dependencies -/

/-- A model with distinct dependencies is added to each model that it depends on. -/
theorem foldl_tell_eq {known : List String} (distinct : known.Nodup) (id : String) :
    (dependencies : List String) → dependencies.Nodup → ∀ {models : List Model},
      models.map (·.id) = known →
      dependencies.foldl
        (fun models dependency => match known.idxOf? dependency with
          | some place => models.modify place (addDependant id)
          | none => models) models =
        models.map fun model =>
          if model.id ∈ dependencies then model.withDependants [id] else model
  | [], _, models, _ => by simp
  | dependency :: rest, single, models, ids => by
      rw [List.nodup_cons] at single
      have kept : (models.map fun model =>
          if model.id = dependency then model.addDependant id else model).map (·.id) = known := by
        rw [← ids, List.map_map]
        refine List.map_congr_left fun model _ => ?_
        by_cases same : model.id = dependency <;> simp [same]
      -- the ids stay what they are, so the later dependencies find their models as well
      rw [List.foldl_cons, tell_eq ids distinct, foldl_tell_eq distinct id rest single.2 kept,
        List.map_map]
      refine List.map_congr_left fun model _ => ?_
      by_cases same : model.id = dependency
      · have later : dependency ∉ rest := single.1
        simp [same, later, addDependant, withDependants]
      · simp [same]

/-- Linking one model adds it to the dependants of all models that it depends on, and changes no
other model. Looking them up by position is as good as going through the list, for no id is there
twice. -/
theorem linkOne_eq {models : List Model} {known : List String} (ids : models.map (·.id) = known)
    (distinct : known.Nodup) {model : Model} (single : model.dependencies.Nodup) :
    linkOne known models model =
      models.map fun other =>
        if model.dependsOn other.id then other.withDependants [model.id] else other := by
  refine (foldl_tell_eq distinct model.id model.dependencies single ids).trans ?_
  simp [dependsOn]

/-- After linking, each model has as further dependants those that depend on it. -/
theorem foldl_linkOne_eq {known : List String} (distinct : known.Nodup) :
    (linked : List Model) → (∀ model ∈ linked, model.dependencies.Nodup) →
      ∀ {models : List Model}, models.map (·.id) = known →
        linked.foldl (linkOne known) models =
          models.map fun model => model.withDependants (model.dependantsAmong linked)
  | [], _, models, _ => by simp [dependantsAmong]
  | first :: rest, single, models, ids => by
      have told := linkOne_eq ids distinct (single first List.mem_cons_self)
      have kept : (linkOne known models first).map (·.id) = known := by
        rw [told, ← ids, List.map_map]
        refine List.map_congr_left fun model _ => ?_
        by_cases depends : first.dependsOn model.id <;> simp [depends]
      rw [List.foldl_cons, foldl_linkOne_eq distinct rest
        (fun model mem => single model (List.mem_cons_of_mem _ mem)) kept, told, List.map_map]
      refine List.map_congr_left fun model _ => ?_
      by_cases depends : first.dependsOn model.id
      · simp [depends, dependantsAmong, ← withDependants_append]
      · simp [depends, dependantsAmong]

/-- Linking adds to each model those that depend on it, in the order of the models. -/
theorem link_eq {models : List Model} {known : List String} (ids : models.map (·.id) = known)
    (distinct : known.Nodup) (single : ∀ model ∈ models, model.dependencies.Nodup) :
    link known models =
      models.map fun model => model.withDependants (model.dependantsAmong models) :=
  foldl_linkOne_eq distinct models single ids

end Model

end TypeAtlas
