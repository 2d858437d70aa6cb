import Mathlib.Data.Finset.Basic
import Mathlib.Data.List.Dedup
import TypeAtlas.Model.Diff

/-!
# Differences between lists of models

The differences between two lists of models, each with distinct ids, are told by what is in the
lists: an id is added or removed if it is in one list only (`mem_added_between`,
`mem_removed_between`), and changed if both lists have a model of that id and the two are not equal
(`mem_changed_between`). From these three facts follows all else that is said here. There are no
differences exactly if the lists have the same models (`isEmpty_between_iff`), and what is found
between two lists with a third one in between has been found on the way (`followSteps_between`).

That the ids of the earlier list are distinct cannot be left out: a model is compared with the first
of its id, so between `[a, a']` and `[a', a]`, which have the same models, `a'` is changed if it has
the id of `a`.

Main statement: `ModelDiff.followSteps_between`, for three lists. For any number of them,
`ModelDiff.exists_step_of_touches` says that no difference between the first and the last list is
missed by who looks at one step after the other.
-/

set_option autoImplicit false

namespace TypeAtlas

/-! ### Models by their ids -/

namespace Model

/-- The ids of models. -/
def ids (models : List Model) : Finset String := (models.map (·.id)).toFinset

/-- An id is among those of models if one of them has it. -/
theorem mem_ids {models : List Model} {id : String} :
    id ∈ ids models ↔ ∃ model ∈ models, model.id = id := by
  simp [ids]

/-- No model is found for an id exactly if none has it. -/
theorem isNone_find?_iff {models : List Model} {id : String} :
    (find? models id).isNone ↔ id ∉ ids models := by
  simp [find?, ids]

/-- A model that is found has the id that was looked for. -/
theorem id_of_find? {models : List Model} {id : String} {model : Model}
    (found : find? models id = some model) : model.id = id := by
  simpa using List.find?_some found

/-- Where ids are distinct, a model is found by its id. -/
theorem find?_id {models : List Model} (distinct : (models.map (·.id)).Nodup) {model : Model}
    (listed : model ∈ models) : find? models model.id = some model := by
  obtain ⟨found, is⟩ : ∃ found, find? models model.id = some found :=
    Option.isSome_iff_exists.mp (List.find?_isSome.mpr ⟨model, listed, beq_self_eq_true model.id⟩)
  rw [is, List.inj_on_of_nodup_map distinct (List.mem_of_find?_eq_some is) listed (id_of_find? is)]

/-- An alias that refers to nothing and that nothing refers to. -/
def lone (name : String) (schema : List SchemaField) : Model :=
  ⟨name, name, .typeAlias, [], schema, [], []⟩

end Model

namespace ModelDiff

/-! ### What is in the differences -/

/-- An id is added exactly if it is one of the later models only. -/
theorem mem_added_between {previous current : List Model} {id : String} :
    id ∈ (between previous current).added ↔ id ∈ Model.ids current ∧ id ∉ Model.ids previous := by
  simp only [between, List.mem_map, List.mem_filter, Model.isNone_find?_iff, Model.ids,
    List.mem_toFinset]
  constructor
  · rintro ⟨model, ⟨listed, new⟩, rfl⟩
    exact ⟨⟨model, listed, rfl⟩, new⟩
  · rintro ⟨⟨model, listed, rfl⟩, new⟩
    exact ⟨model, ⟨listed, new⟩, rfl⟩

/-- An id is removed exactly if it is one of the earlier models only. -/
theorem mem_removed_between {previous current : List Model} {id : String} :
    id ∈ (between previous current).removed ↔
      id ∈ Model.ids previous ∧ id ∉ Model.ids current := by
  -- what is removed on the way to other models is what is added on the way back
  exact @mem_added_between current previous id

/-- An id is changed exactly if it is that of two models, an earlier and a later one, that are not
equal. -/
theorem mem_changed_between {previous current : List Model} {id : String}
    (distinct : (previous.map (·.id)).Nodup) :
    id ∈ (between previous current).changed ↔
      ∃ old ∈ previous, ∃ new ∈ current, old.id = id ∧ new.id = id ∧ old ≠ new := by
  simp only [between, List.mem_map, List.mem_filter, Option.any_eq_true, bne_iff_ne]
  constructor
  · rintro ⟨new, ⟨listed, old, found, differ⟩, rfl⟩
    exact ⟨old, List.mem_of_find?_eq_some found, new, listed,
      Model.id_of_find? found, rfl, differ⟩
  · rintro ⟨old, known, new, listed, rfl, sameId, differ⟩
    exact ⟨new, ⟨listed, old, sameId ▸ Model.find?_id distinct known, differ⟩, sameId⟩

/-- Drops the ids that are removed and adds those that are added. -/
def apply (diff : ModelDiff) (ids : Finset String) : Finset String :=
  ids \ diff.removed.toFinset ∪ diff.added.toFinset

/-- Diffs one after the other. -/
def replay (diffs : List ModelDiff) (ids : Finset String) : Finset String :=
  diffs.foldl (fun ids diff => diff.apply ids) ids

/-- The diff between models leads from the ids of the ones to those of the others. -/
theorem apply_between (previous current : List Model) :
    (between previous current).apply (Model.ids previous) = Model.ids current := by
  ext id
  simp only [apply, Finset.mem_union, Finset.mem_sdiff, List.mem_toFinset, mem_added_between,
    mem_removed_between]
  tauto

/-! ### Two lists -/

section pair

variable {previous current : List Model}

/-- The ids that are added are in the order of the later models. -/
theorem added_sublist : (between previous current).added.Sublist (current.map (·.id)) :=
  List.filter_sublist.map _

/-- The ids that are removed are in the order of the earlier models. -/
theorem removed_sublist : (between previous current).removed.Sublist (previous.map (·.id)) :=
  List.filter_sublist.map _

/-- The ids that are changed are in the order of the later models. -/
theorem changed_sublist : (between previous current).changed.Sublist (current.map (·.id)) :=
  List.filter_sublist.map _

variable (before : (previous.map (·.id)).Nodup) (after : (current.map (·.id)).Nodup)
include before after

/-- No id is told twice, neither in one way nor in two. -/
theorem nodup_between :
    let diff := between previous current
    (diff.added ++ diff.removed ++ diff.changed).Nodup := by
  have shared {id : String} (changed : id ∈ (between previous current).changed) :
      id ∈ Model.ids previous ∧ id ∈ Model.ids current := by
    obtain ⟨old, known, new, listed, oldId, newId, -⟩ := (mem_changed_between before).mp changed
    exact ⟨Model.mem_ids.mpr ⟨old, known, oldId⟩, Model.mem_ids.mpr ⟨new, listed, newId⟩⟩
  refine ((added_sublist.nodup after).append (removed_sublist.nodup before) ?_).append
    (changed_sublist.nodup after) ?_
  · intro id added removed
    exact (mem_added_between.mp added).2 (mem_removed_between.mp removed).1
  · intro id either changed
    obtain added | removed := List.mem_append.mp either
    · exact (mem_added_between.mp added).2 (shared changed).1
    · exact (mem_removed_between.mp removed).2 (shared changed).2

/-- Both ways lead past the same changes. -/
theorem changed_between_perm :
    (between current previous).changed.Perm (between previous current).changed := by
  refine (List.perm_ext_iff_of_nodup (changed_sublist.nodup before)
    (changed_sublist.nodup after)).mpr fun id => ?_
  rw [mem_changed_between after, mem_changed_between before]
  constructor
  · rintro ⟨new, listed, old, known, newId, oldId, differ⟩
    exact ⟨old, known, new, listed, oldId, newId, differ.symm⟩
  · rintro ⟨old, known, new, listed, oldId, newId, differ⟩
    exact ⟨new, listed, old, known, newId, oldId, differ.symm⟩

/-- There are no differences exactly if the same models are there, in whatever order. -/
theorem isEmpty_between_iff : (between previous current).isEmpty ↔ current.Perm previous := by
  have bare {models : List Model} (distinct : (models.map (·.id)).Nodup) : models.Nodup :=
    distinct.of_map _
  rw [List.perm_ext_iff_of_nodup (bare after) (bare before)]
  simp only [isEmpty, Bool.and_eq_true, List.isEmpty_iff, List.eq_nil_iff_forall_not_mem,
    mem_added_between, mem_removed_between, mem_changed_between before]
  constructor
  · rintro ⟨⟨noneAdded, noneRemoved⟩, noneChanged⟩ model
    -- a model of one list has a counterpart in the other, which differs in nothing
    have equal {old new : Model} (known : old ∈ previous) (listed : new ∈ current)
        (sameId : old.id = new.id) : old = new := by
      by_contra differ
      exact noneChanged new.id ⟨old, known, new, listed, sameId, rfl, differ⟩
    constructor
    · intro listed
      have kept : model.id ∈ Model.ids previous := by
        by_contra new
        exact noneAdded model.id ⟨Model.mem_ids.mpr ⟨model, listed, rfl⟩, new⟩
      obtain ⟨old, known, sameId⟩ := Model.mem_ids.mp kept
      exact equal known listed sameId ▸ known
    · intro known
      have kept : model.id ∈ Model.ids current := by
        by_contra gone
        exact noneRemoved model.id ⟨Model.mem_ids.mpr ⟨model, known, rfl⟩, gone⟩
      obtain ⟨new, listed, sameId⟩ := Model.mem_ids.mp kept
      exact equal known listed sameId.symm ▸ listed
  · intro same
    have sameIds : Model.ids current = Model.ids previous := by
      ext id
      simp only [Model.mem_ids, same]
    refine ⟨⟨fun id added => added.2 (sameIds ▸ added.1), fun id removed => removed.2 ?_⟩, ?_⟩
    · exact sameIds ▸ removed.1
    · rintro id ⟨old, known, new, listed, oldId, newId, differ⟩
      exact differ (List.inj_on_of_nodup_map before known ((same new).mp listed)
        (oldId.trans newId.symm))

end pair

/-- Two models of one id: the later list has the same models, but its first one differs from the
first one of the earlier list. -/
example :
    [Model.lone "A" [⟨"==>", true, .scalar (.model "A")⟩], .lone "A" []].Perm
        [.lone "A" [], .lone "A" [⟨"==>", true, .scalar (.model "A")⟩]] ∧
      between [.lone "A" [], .lone "A" [⟨"==>", true, .scalar (.model "A")⟩]]
        [.lone "A" [⟨"==>", true, .scalar (.model "A")⟩], .lone "A" []] = ⟨[], [], ["A"]⟩ := by
  decide

/-! ### One list after the other -/

/-- What the differences between two lists are like: ids of one list only are added or removed, and
those of two models that are not equal are changed. No id is told twice, those that are removed are
in the order of the earlier list and the others in that of the later one, there are none exactly for
the same models, and on the way back what was added is removed and the other way round. -/
structure Tells (previous current : List Model) (diff back : ModelDiff) : Prop where
  mem_added : ∀ id, id ∈ diff.added ↔ id ∈ Model.ids current ∧ id ∉ Model.ids previous
  mem_removed : ∀ id, id ∈ diff.removed ↔ id ∈ Model.ids previous ∧ id ∉ Model.ids current
  mem_changed : ∀ id, id ∈ diff.changed ↔
    ∃ old ∈ previous, ∃ new ∈ current, old.id = id ∧ new.id = id ∧ old ≠ new
  nodup : (diff.added ++ diff.removed ++ diff.changed).Nodup
  added_sublist : diff.added.Sublist (current.map (·.id))
  removed_sublist : diff.removed.Sublist (previous.map (·.id))
  changed_sublist : diff.changed.Sublist (current.map (·.id))
  isEmpty_iff : diff.isEmpty ↔ current.Perm previous
  added_back : back.added = diff.removed
  removed_back : back.removed = diff.added
  changed_back : back.changed.Perm diff.changed

/-- Differences follow steps, from one list to a second and on to a third, if what is found between
the first and the third is found on the way: a changed model changes in one of the steps, unless it
is removed in the first and added in the second. -/
structure FollowSteps (first second third : List Model) : Prop where
  tells : Tells first second (between first second) (between second first)
  changed : ∀ id ∈ (between first third).changed,
    id ∈ (between first second).changed ∨ id ∈ (between second third).changed ∨
      id ∈ (between first second).removed ∧ id ∈ (between second third).added
  added : ∀ id ∈ (between first third).added,
    id ∈ (between first second).added ∨ id ∈ (between second third).added
  removed : ∀ id ∈ (between first third).removed,
    id ∈ (between first second).removed ∨ id ∈ (between second third).removed

/-- Differences tell what is only in one list, and what is in both and not equal. -/
theorem tells_between {previous current : List Model} (before : (previous.map (·.id)).Nodup)
    (after : (current.map (·.id)).Nodup) :
    Tells previous current (between previous current) (between current previous) where
  mem_added := fun _ => mem_added_between
  mem_removed := fun _ => mem_removed_between
  mem_changed := fun _ => mem_changed_between before
  nodup := nodup_between before after
  added_sublist := added_sublist
  removed_sublist := removed_sublist
  changed_sublist := changed_sublist
  isEmpty_iff := isEmpty_between_iff before after
  added_back := rfl
  removed_back := rfl
  changed_back := changed_between_perm before after

section steps

variable {first third : List Model} (second : List Model) {id : String}

/-- An id that is added on the whole is added in one of the steps. -/
theorem mem_added_of_steps (added : id ∈ (between first third).added) :
    id ∈ (between first second).added ∨ id ∈ (between second third).added := by
  simp only [mem_added_between] at added ⊢
  by_cases meanwhile : id ∈ Model.ids second
  · exact .inl ⟨meanwhile, added.2⟩
  · exact .inr ⟨added.1, meanwhile⟩

/-- An id that is removed on the whole is removed in one of the steps. -/
theorem mem_removed_of_steps (removed : id ∈ (between first third).removed) :
    id ∈ (between first second).removed ∨ id ∈ (between second third).removed := by
  -- what is removed on the way is what is added on the way back
  have back : id ∈ (between third second).added ∨ id ∈ (between second first).added :=
    mem_added_of_steps second removed
  exact back.symm

variable {second}

/-- An id that is changed on the whole is changed in one of the steps, or removed in the first and
added in the second. -/
theorem mem_changed_of_steps (atFirst : (first.map (·.id)).Nodup)
    (atSecond : (second.map (·.id)).Nodup) (changed : id ∈ (between first third).changed) :
    id ∈ (between first second).changed ∨ id ∈ (between second third).changed ∨
      id ∈ (between first second).removed ∧ id ∈ (between second third).added := by
  obtain ⟨old, known, new, listed, oldId, newId, differ⟩ := (mem_changed_between atFirst).mp changed
  by_cases meanwhile : id ∈ Model.ids second
  · -- the model in between differs from that before it or from that after it
    obtain ⟨middle, there, middleId⟩ := Model.mem_ids.mp meanwhile
    by_cases kept : old = middle
    · subst kept
      exact .inr (.inl ((mem_changed_between atSecond).mpr
        ⟨old, there, new, listed, middleId, newId, differ⟩))
    · exact .inl ((mem_changed_between atFirst).mpr
        ⟨old, known, middle, there, oldId, middleId, kept⟩)
  · exact .inr (.inr ⟨mem_removed_between.mpr ⟨Model.mem_ids.mpr ⟨old, known, oldId⟩, meanwhile⟩,
      mem_added_between.mpr ⟨Model.mem_ids.mpr ⟨new, listed, newId⟩, meanwhile⟩⟩)

end steps

/-- Differences between lists of models with distinct ids follow steps, to whatever list they lead
in the end. -/
theorem followSteps_between {first second : List Model} (atFirst : (first.map (·.id)).Nodup)
    (atSecond : (second.map (·.id)).Nodup) (third : List Model) :
    FollowSteps first second third where
  tells := tells_between atFirst atSecond
  changed := fun _ => mem_changed_of_steps atFirst atSecond
  added := fun _ => mem_added_of_steps second
  removed := fun _ => mem_removed_of_steps second

/-- `B` is forgotten and comes back with a value, and `A` changes its place: between the first list
and the third `B` is changed, though it is changed in no step. -/
theorem followSteps_comeback :
    ([.lone "A" [], .lone "B" []].map Model.id).Nodup ∧ ([.lone "A" []].map Model.id).Nodup ∧
      FollowSteps [.lone "A" [], .lone "B" []] [.lone "A" []]
        [.lone "B" [⟨"==>", false, .scalar (.text "string")⟩], .lone "A" []] ∧
      between [.lone "A" [], .lone "B" []]
        [.lone "B" [⟨"==>", false, .scalar (.text "string")⟩], .lone "A" []] = ⟨[], [], ["B"]⟩ := by
  have atFirst : ([.lone "A" [], .lone "B" []].map Model.id).Nodup := by decide
  have atSecond : ([.lone "A" []].map Model.id).Nodup := by decide
  exact ⟨atFirst, atSecond, followSteps_between atFirst atSecond _, by decide⟩

/-! ### Any number of lists -/

/-- Whether an id is among the differences. -/
def Touches (diff : ModelDiff) (id : String) : Prop :=
  id ∈ diff.added ∨ id ∈ diff.removed ∨ id ∈ diff.changed

/-- Nothing is different between models and themselves. -/
theorem not_touches_self {models : List Model} (distinct : (models.map (·.id)).Nodup)
    (id : String) : ¬ (between models models).Touches id := by
  have none := (isEmpty_between_iff distinct distinct).mpr (List.Perm.refl models)
  simp only [isEmpty, Bool.and_eq_true, List.isEmpty_iff] at none
  simp [Touches, none]

/-- What is different on the whole is different in one of the steps. -/
theorem touches_of_steps {first second third : List Model} {id : String}
    (atFirst : (first.map (·.id)).Nodup) (atSecond : (second.map (·.id)).Nodup)
    (touched : (between first third).Touches id) :
    (between first second).Touches id ∨ (between second third).Touches id := by
  unfold Touches at touched ⊢
  obtain added | removed | changed := touched
  · have := mem_added_of_steps second added
    tauto
  · have := mem_removed_of_steps second removed
    tauto
  · have := mem_changed_of_steps atFirst atSecond changed
    tauto

/-- What is found between the first and the last of some lists is found between two lists that
follow each other. -/
theorem exists_step_of_touches {id : String} : {first : List Model} → {later : List (List Model)} →
    (∀ models ∈ first :: later, (models.map (·.id)).Nodup) →
    (between first ((first :: later).getLast (List.cons_ne_nil _ _))).Touches id →
    ∃ step ∈ (first :: later).zip later, (between step.1 step.2).Touches id
  | first, [], distinct, touched =>
    absurd touched (not_touches_self (distinct first List.mem_cons_self) id)
  | first, next :: later, distinct, touched => by
    rw [List.getLast_cons (List.cons_ne_nil _ _)] at touched
    have others : ∀ models ∈ next :: later, (models.map (·.id)).Nodup :=
      fun models listed => distinct models (List.mem_cons_of_mem first listed)
    have atFirst := distinct first List.mem_cons_self
    obtain now | afterwards := touches_of_steps atFirst (others next List.mem_cons_self) touched
    · exact ⟨(first, next), List.mem_cons_self, now⟩
    · obtain ⟨step, listed, found⟩ := exists_step_of_touches others afterwards
      exact ⟨step, List.mem_cons_of_mem _ listed, found⟩

end ModelDiff

end TypeAtlas
