import Mathlib.Data.List.Induction
import TypeAtlas.Proofs.Model.Differences
import TypeAtlas.Sessions

/-!
# Sessions with a history

What is known of a path after any updates is told by the last of them that concerns the path: its
text, read with the settings of all updates, or nothing if it has none
(`Sessions.session?_after`). It does not matter how the path is spelled, what texts it had before,
or how often it was forgotten in between.

The diffs that updates of a path return compare its models before and after
(`Sessions.diff_eq_between`). Each of them leads from the ids of the ones to the ids of the others
(`ModelDiff.apply_between`), and so all of them together lead from no id to the ids that there are
in the end (`Sessions.replay_diffsFrom`).

Main statement: `Sessions.remembers_after`.
-/

set_option autoImplicit false

namespace TypeAtlas

namespace Sessions

/-! ### One update -/

section update

variable (sessions : Sessions) {path other : Path}

/-- What is known of a path is known of all its spellings. -/
theorem session?_congr (same : path.same other = true) :
    sessions.session? path = sessions.session? other := by
  have alike (file : Path × Session) : file.1.same path = file.1.same other := by
    rw [Path.same, Path.same, Path.same_iff.mp same]
  simp only [session?, alike]

/-- A path that is erased has no session. -/
theorem session?_erase_of_same (same : path.same other = true) :
    (sessions.erase path).session? other = none := by
  have none : ∀ file ∈ (sessions.erase path).files, file.1.same other = false := by
    intro file kept
    have differs : file.1.same path = false := by simpa using (List.mem_filter.mp kept).2
    rwa [Path.same, ← Path.same_iff.mp same]
  rw [session?, List.find?_eq_none.mpr (by simpa using none), Option.map_none]

/-- Erasing a path leaves the sessions of others. -/
theorem session?_erase_of_not_same (differs : path.same other = false) :
    (sessions.erase path).session? other = sessions.session? other := by
  have kept (file : Path × Session) : file.1.same other → (!file.1.same path) = true := by
    intro found
    have spelled : file.1.same path = other.same path := by
      rw [Path.same, Path.same, Path.same_iff.mp found]
    rw [spelled, Path.same_comm, differs]
    rfl
  simp only [session?, erase, List.find?_filter]
  congr 2
  funext file
  exact Bool.eq_iff_iff.mpr (by simpa using kept file)

/-- A path has the session that was inserted for it, in each of its spellings. -/
theorem session?_insert_of_same (same : path.same other = true) (session : Session) :
    (sessions.insert path session).session? other = some session := by
  simp [session?, insert, same]

/-- Inserting a session leaves those of other paths. -/
theorem session?_insert_of_not_same (differs : path.same other = false) (session : Session) :
    (sessions.insert path session).session? other = sessions.session? other := by
  rw [← sessions.session?_erase_of_not_same differs]
  simp [session?, insert, differs]

/-- An update of a path makes known what its text is read as: with the settings of the path, or with
those of the update if the path was not known. -/
theorem session?_update_of_same (same : path.same other = true) (text : Option String)
    (config : ExtractConfig) :
    (sessions.update path text config).session? other =
      text.map fun text => match sessions.session? other with
        | some session => session.read text
        | none => .ofText text config := by
  rw [← sessions.session?_congr same]
  unfold update
  cases text with
  | none => exact sessions.session?_erase_of_same same
  | some text =>
    simp only
    cases sessions.session? path with
    | some session => exact sessions.session?_insert_of_same same _
    | none => exact sessions.session?_insert_of_same same _

/-- An update of another path leaves what is known of a path. -/
theorem session?_update_of_not_same (differs : path.same other = false) (text : Option String)
    (config : ExtractConfig) :
    (sessions.update path text config).session? other = sessions.session? other := by
  unfold update
  cases text with
  | none => exact sessions.session?_erase_of_not_same differs
  | some text =>
    simp only
    cases sessions.session? path with
    | some session => exact sessions.session?_insert_of_not_same differs _
    | none => exact sessions.session?_insert_of_not_same differs _

/-- An update of another path leaves the models of a path. -/
theorem models_update_of_not_same (differs : path.same other = false) (text : Option String)
    (config : ExtractConfig) :
    (sessions.update path text config).models other = sessions.models other := by
  simp only [models, sessions.session?_update_of_not_same differs]

/-- Whichever way an update goes, it returns what differs between the models before and after. -/
theorem diff_eq_between (path : Path) (text : Option String) (config : ExtractConfig) :
    sessions.diff path text config =
      .between (sessions.models path) ((sessions.update path text config).models path) := by
  simp only [models, sessions.session?_update_of_same (Path.same_refl path)]
  unfold diff
  cases text <;> cases sessions.session? path <;> rfl

end update

/-! ### Histories -/

/-- A path with its new text, or with none if it is to be forgotten. -/
structure Update where
  path : Path
  text : Option String

/-- The last text of a path, unless the last update of the path had none. -/
def lastText? (updates : List Update) (path : Path) : Option String :=
  (updates.reverse.find? fun update => update.path.same path).bind (·.text)

/-- The models of a text, of which there are none where there is no text. -/
def modelsOf (config : ExtractConfig) : Option String → List Model
  | some text => Model.ofText text config
  | none => []

section history

variable (config : ExtractConfig)

/-- The sessions after an update. -/
def take (sessions : Sessions) (update : Update) : Sessions :=
  sessions.update update.path update.text config

/-- The sessions after updates one by one, if nothing was known before. -/
def after (updates : List Update) : Sessions := updates.foldl (take config) empty

/-- What the updates of a path return, from given sessions on. -/
def diffsFrom (path : Path) : Sessions → List Update → List ModelDiff
  | _, [] => []
  | sessions, update :: rest =>
    let later := diffsFrom path (sessions.take config update) rest
    if update.path.same path then sessions.diff update.path update.text config :: later else later

/-- The last update tells the last text of its path and of no other. -/
theorem lastText?_concat (updates : List Update) (update : Update) (path : Path) :
    lastText? (updates ++ [update]) path =
      if update.path.same path then update.text else lastText? updates path := by
  rw [lastText?, List.reverse_append, List.reverse_singleton, List.singleton_append,
    List.find?_cons]
  cases update.path.same path <;> rfl

/-- What is known of a path is its last text, read with the settings of all updates. -/
theorem session?_after (updates : List Update) (path : Path) :
    (after config updates).session? path =
      (lastText? updates path).map fun text => .ofText text config := by
  induction updates using List.reverseRecOn with
  | nil => rfl
  | append_singleton updates last ih =>
    rw [lastText?_concat, after, List.foldl_append, List.foldl_cons, List.foldl_nil, ← after, take]
    split_ifs with same
    · -- a path that is known has the settings of all updates, and so does one that is not
      rw [session?_update_of_same _ same, ih]
      cases lastText? updates path <;> rfl
    · rw [session?_update_of_not_same _ (by simpa using same), ih]

/-- After a history the models of a path are those of its last text: by induction on the updates,
from the last one back. -/
theorem models_after (updates : List Update) (path : Path) :
    (after config updates).models path = modelsOf config (lastText? updates path) := by
  rw [models, session?_after]
  cases lastText? updates path with
  | none => rfl
  | some text => simp only [Option.map_some, Session.ofText, modelsOf]

/-- The diffs of a path lead from the ids of its models at first to those of its models at last. -/
theorem replay_diffsFrom (path : Path) (sessions : Sessions) (updates : List Update) :
    ModelDiff.replay (diffsFrom config path sessions updates) (Model.ids (sessions.models path)) =
      Model.ids ((updates.foldl (take config) sessions).models path) := by
  induction updates generalizing sessions with
  | nil => rfl
  | cons update rest ih =>
    rw [List.foldl_cons, ← ih, diffsFrom]
    split_ifs with same
    · have spelled (sessions : Sessions) : sessions.models update.path = sessions.models path := by
        rw [models, models, sessions.session?_congr same]
      rw [ModelDiff.replay, List.foldl_cons, ← ModelDiff.replay, diff_eq_between, spelled, spelled,
        ModelDiff.apply_between]
      rfl
    · have kept : (sessions.take config update).models path = sessions.models path :=
        sessions.models_update_of_not_same (by simpa using same) _ config
      rw [kept]

/-- Sessions remember a history of updates if the models of each path are those of its last text,
the next update changes the models of no other path and returns what differs for its own, and the
diffs that were returned for a path lead from no id to those of its models. -/
structure Remembers (sessions : Sessions) (updates : List Update) : Prop where
  models : ∀ path, sessions.models path = modelsOf config (lastText? updates path)
  others : ∀ (next : Update) (path : Path), next.path.same path = false →
    (sessions.take config next).models path = sessions.models path
  diff : ∀ next : Update, sessions.diff next.path next.text config =
    .between (sessions.models next.path) ((sessions.take config next).models next.path)
  replay : ∀ path, ModelDiff.replay (diffsFrom config path empty updates) ∅ =
    Model.ids (sessions.models path)

/-- After all updates, sessions remember them. The models of their texts are those that come from
answering a question that never ends by the type itself or by nothing (`Model.ofText`). -/
theorem remembers_after (updates : List Update) :
    (after config updates).Remembers config updates where
  models := models_after config updates
  others := fun next _ differs => models_update_of_not_same _ differs next.text config
  diff := fun next => diff_eq_between _ next.path next.text config
  replay := fun path => replay_diffsFrom config path empty updates

end history

end Sessions

end TypeAtlas
