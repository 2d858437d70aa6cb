import TypeAtlas.Proofs.Sessions.History
import TypeAtlas.Proofs.Watch.Batches

/-!
# Sessions that follow change batches

A change batch is applied as a list of updates: one for each of its paths that can be read or is
not there, and none for a path that cannot be read (`Sessions.applyBatch_after`). A batch holds each
path once, so at most one of these updates concerns a path, and what the others do to their paths
does not matter for it (`Sessions.lastText?_append_of_single`,
`Sessions.lastText?_append_of_others`). Hence the models of a path after the batch are told by the
path's own contents (`Sessions.models_applyBatch_of_mem`).

Main statement: `Sessions.followsFiles_after`. The sessions are those after any updates with the
settings of the batch. With other settings, a path that is read again would keep the ones it was
first read with.
-/

set_option autoImplicit false

namespace TypeAtlas.Sessions

open Files (Fault)
open Watch (Batch)

/-! ### The updates of a batch -/

/-- The update that a path calls for, unless it cannot be read. -/
def updateOf? (path : Path) : Except Fault String → Option Update
  | .ok text => some ⟨path, some text⟩
  | .error .notFound => some ⟨path, none⟩
  | .error _ => none

/-- The updates that paths call for, given what reading each of them yields. -/
def updatesOf (read : Path → Except Fault String) (paths : List Path) : List Update :=
  paths.filterMap fun path => updateOf? path (read path)

/-- A path calls for an update of itself. -/
theorem path_of_updateOf? {path : Path} {content : Except Fault String} {update : Update}
    (called : updateOf? path content = some update) : update.path = path := by
  unfold updateOf? at called
  split at called
  · exact (Option.some.inj called) ▸ rfl
  · exact (Option.some.inj called) ▸ rfl
  · cases called

/-- A path that is there and cannot be read calls for no update. -/
theorem updateOf?_of_other {fault : Fault} (other : fault ≠ .notFound) (path : Path) :
    updateOf? path (.error fault) = none := by
  cases fault with
  | notFound => exact absurd rfl other
  | _ => rfl

section batch

variable (config : ExtractConfig) (read : Path → Except Fault String)

/-- A change of a path is the update that it calls for. -/
theorem change_eq (sessions : Sessions) (path : Path) (content : Except Fault String) :
    sessions.change path content config =
      match updateOf? path content with
      | some update => sessions.take config update
      | none => sessions := by
  unfold change
  split
  · rfl
  · rfl
  · rename_i other
    rw [updateOf?_of_other other]

/-- Sessions after a batch are sessions after updates. -/
theorem applyBatch_after (updates : List Update) (batch : Batch) :
    (after config updates).applyBatch read batch config =
      after config (updates ++ updatesOf read batch.paths) := by
  have appended : after config (updates ++ updatesOf read batch.paths) =
      (updatesOf read batch.paths).foldl (take config) (after config updates) := List.foldl_append
  rw [appended, updatesOf, List.foldl_filterMap]
  unfold applyBatch
  congr 1
  funext sessions path
  rw [change_eq]
  cases updateOf? path (read path) <;> rfl

/-! ### The models of a path -/

/-- The models of a path after its contents, given those before. -/
def modelsAfter (before : List Model) : Except Fault String → List Model
  | .ok text => Model.ofText text config
  | .error .notFound => []
  | .error _ => before

/-- If an update is called for, the models are those of its text. -/
theorem modelsAfter_of_update {path : Path} {content : Except Fault String} {update : Update}
    (called : updateOf? path content = some update) (before : List Model) :
    modelsAfter config before content = modelsOf config update.text := by
  unfold updateOf? at called
  split at called
  · exact (Option.some.inj called) ▸ rfl
  · exact (Option.some.inj called) ▸ rfl
  · cases called

/-- If no update is called for, the models stay. -/
theorem modelsAfter_of_no_update {path : Path} {content : Except Fault String}
    (none : updateOf? path content = none) (before : List Model) :
    modelsAfter config before content = before := by
  unfold modelsAfter
  split
  · cases none
  · cases none
  · rfl

/-- If a path is there and cannot be read, the models stay. -/
theorem modelsAfter_of_other {fault : Fault} (other : fault ≠ .notFound) (before : List Model) :
    modelsAfter config before (.error fault) = before := by
  cases fault with
  | notFound => exact absurd rfl other
  | _ => rfl

/-- The same contents a second time change nothing. -/
theorem modelsAfter_modelsAfter (before : List Model) (content : Except Fault String) :
    modelsAfter config (modelsAfter config before content) content =
      modelsAfter config before content := by
  cases content with
  | ok text => simp only [modelsAfter]
  | error fault =>
    by_cases missing : fault = .notFound
    · simp only [missing, modelsAfter]
    · rw [modelsAfter_of_other config missing, modelsAfter_of_other config missing]

/-- Each update is called for by a path of the list and by what reading this yields. -/
theorem mem_updatesOf {paths : List Path} {update : Update}
    (listed : update ∈ updatesOf read paths) :
    update.path ∈ paths ∧ updateOf? update.path (read update.path) = some update := by
  obtain ⟨path, held, called⟩ := List.mem_filterMap.mp listed
  obtain rfl := path_of_updateOf? called
  exact ⟨held, called⟩

section later

variable (updates : List Update) {later : List Update} {path : Path}

/-- Later updates do not matter for a path that none of them concerns. -/
theorem lastText?_append_of_others
    (others : ∀ update ∈ later, update.path.same path = false) :
    lastText? (updates ++ later) path = lastText? updates path := by
  have none : later.reverse.find? (fun update => update.path.same path) = none :=
    List.find?_eq_none.mpr fun update listed => by
      simpa using others update (List.mem_reverse.mp listed)
  rw [lastText?, List.reverse_append, List.find?_append, none, Option.none_or, lastText?]

/-- If a single later update concerns a path, its text is the last one. -/
theorem lastText?_append_of_single {update : Update} (listed : update ∈ later)
    (concerned : update.path.same path = true)
    (single : ∀ other ∈ later, other.path.same path = true → other = update) :
    lastText? (updates ++ later) path = update.text := by
  obtain ⟨found, is⟩ : ∃ found, later.reverse.find? (fun update => update.path.same path) =
      some found :=
    Option.isSome_iff_exists.mp
      (List.find?_isSome.mpr ⟨update, List.mem_reverse.mpr listed, concerned⟩)
  have foundConcerned : found.path.same path = true := by simpa using List.find?_some is
  have own : found = update :=
    single found (List.mem_reverse.mp (List.mem_of_find?_eq_some is)) foundConcerned
  rw [lastText?, List.reverse_append, List.find?_append, is, Option.some_or, Option.bind_some, own]

end later

/-- A path that a batch contains is there in some spelling. -/
theorem exists_mem_of_contains {batch : Batch} {path : Path} (held : batch.contains path = true) :
    ∃ spelling ∈ batch.paths, spelling.same path = true := by
  obtain ⟨spelling, listed, same⟩ := List.any_eq_true.mp held
  exact ⟨spelling, listed, by rwa [Path.same_comm]⟩

section after

variable (updates : List Update) {batch : Batch} {path spelling : Path}

/-- A batch leaves the models of a path that it does not hold. -/
theorem models_applyBatch_of_not_contains (outside : batch.contains path = false) :
    ((after config updates).applyBatch read batch config).models path =
      (after config updates).models path := by
  rw [applyBatch_after, models_after, models_after, lastText?_append_of_others]
  intro update listed
  have others : ∀ other ∈ batch.paths, path.same other = false := by
    simpa [Batch.contains] using outside
  rw [Path.same_comm]
  exact others update.path (mem_updatesOf read listed).1

/-- The models of a path that a batch holds are told by its own contents. -/
theorem models_applyBatch_of_mem (distinct : Batch.Distinct batch.paths) (held : path ∈ batch.paths)
    (same : path.same spelling = true) :
    ((after config updates).applyBatch read batch config).models spelling =
      modelsAfter config ((after config updates).models spelling) (read path) := by
  -- of the updates of the batch, only the path's own concerns it
  have own {update : Update} (listed : update ∈ updatesOf read batch.paths)
      (concerned : update.path.same spelling = true) :
      updateOf? path (read path) = some update := by
    obtain ⟨held', called⟩ := mem_updatesOf read listed
    have alike : update.path.same path = true := by
      rw [Path.same, Path.same_iff.mp concerned, ← Path.same_iff.mp same, beq_self_eq_true]
    rwa [distinct.eq_of_same held' held alike] at called
  rw [applyBatch_after, models_after, models_after]
  cases called : updateOf? path (read path) with
  | some update =>
    have listed : update ∈ updatesOf read batch.paths :=
      List.mem_filterMap.mpr ⟨path, held, called⟩
    have concerned : update.path.same spelling = true := by rwa [path_of_updateOf? called]
    have single : ∀ other ∈ updatesOf read batch.paths, other.path.same spelling = true →
        other = update :=
      fun other listed concerned => Option.some.inj ((own listed concerned).symm.trans called)
    rw [lastText?_append_of_single updates listed concerned single,
      modelsAfter_of_update config called]
  | none =>
    have others : ∀ update ∈ updatesOf read batch.paths, update.path.same spelling = false := by
      intro update listed
      by_contra concerned
      have := own listed (by simpa using concerned)
      simp [called] at this
    rw [lastText?_append_of_others updates others, modelsAfter_of_no_update config called]

end after

/-! ### The batch as a whole -/

/-- Sessions follow the files of a batch if the models of each of its paths are those of its text,
or none if the path is not there, and stay as they are if it cannot be read, whatever the other
paths yield, and if those of all other paths stay as they are. The order of the batch does not
matter, and neither does it matter if the batch comes again. What reading the paths yields may be
the answers of a snapshot or any others. -/
structure FollowsFiles (sessions : Sessions) (batch : Batch) : Prop where
  readable : ∀ path ∈ batch.paths, ∀ text, read path = .ok text →
    (sessions.applyBatch read batch config).models path = Model.ofText text config
  missing : ∀ path ∈ batch.paths, read path = .error .notFound →
    (sessions.applyBatch read batch config).models path = []
  unreadable : ∀ path ∈ batch.paths, ∀ fault, read path = .error fault → fault ≠ .notFound →
    (sessions.applyBatch read batch config).models path = sessions.models path
  others : ∀ path, batch.contains path = false →
    (sessions.applyBatch read batch config).models path = sessions.models path
  order : ∀ pushed, (Batch.ofList pushed).paths.Perm batch.paths → ∀ path,
    (sessions.applyBatch read (.ofList pushed) config).models path =
      (sessions.applyBatch read batch config).models path
  again : ∀ path,
    ((sessions.applyBatch read batch config).applyBatch read batch config).models path =
      (sessions.applyBatch read batch config).models path

/-- Sessions after any updates follow the files of a batch that is collected of any paths, whatever
reading these yields, if all have the same settings. The models of the texts that are read are those
that come from answering a question that never ends by the type itself or by nothing
(`Model.ofText`). -/
theorem followsFiles_after (updates : List Update) (pushed : List Path) :
    (after config updates).FollowsFiles config read (.ofList pushed) := by
  have distinct := Batch.distinct_ofList
  have own {path : Path} (held : path ∈ (Batch.ofList pushed).paths) :=
    models_applyBatch_of_mem config read updates (distinct pushed) held path.same_refl
  constructor
  case readable =>
    intro path held text yields
    rw [own held, yields, modelsAfter]
  case missing =>
    intro path held yields
    rw [own held, yields, modelsAfter]
  case unreadable =>
    intro path held fault yields other
    rw [own held, yields, modelsAfter_of_other config other]
  case others =>
    exact fun path outside => models_applyBatch_of_not_contains config read updates outside
  case order =>
    -- a path of the batch is told by what reading it yields, and any other one stays as it is, so the
    -- order of the paths does not matter
    intro reordered same path
    have contains : (Batch.ofList reordered).contains path = (Batch.ofList pushed).contains path :=
      same.any_eq
    cases held : (Batch.ofList pushed).contains path with
    | false =>
      rw [models_applyBatch_of_not_contains config read updates held,
        models_applyBatch_of_not_contains config read updates (contains.trans held)]
    | true =>
      obtain ⟨spelling, listed, spelled⟩ := exists_mem_of_contains held
      rw [models_applyBatch_of_mem config read updates (distinct pushed) listed spelled,
        models_applyBatch_of_mem config read updates (distinct reordered) (same.mem_iff.mpr listed)
          spelled]
  case again =>
    intro path
    have once := applyBatch_after config read updates (.ofList pushed)
    cases held : (Batch.ofList pushed).contains path with
    | false => rw [once, models_applyBatch_of_not_contains config read _ held]
    | true =>
      obtain ⟨spelling, listed, spelled⟩ := exists_mem_of_contains held
      rw [once, models_applyBatch_of_mem config read _ (distinct pushed) listed spelled, ← once,
        models_applyBatch_of_mem config read updates (distinct pushed) listed spelled,
        modelsAfter_modelsAfter]

end batch

end TypeAtlas.Sessions
