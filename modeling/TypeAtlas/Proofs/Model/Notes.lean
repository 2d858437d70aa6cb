import Mathlib.Data.List.Nodup
import TypeAtlas.Model.Extraction

/-!
# What is noted while models are extracted

Noting ids in order leaves the first occurrence of each (`Notes.addAll_nil`), and never one twice
(`Notes.nodup_addAll`).

`Noting.Yields action answer ids` says what an action does, whatever has been noted before it: it
gives this answer, and it notes these ids. An action that yields something therefore never reads
what has been noted, and actions that follow each other note one list of ids after the other
(`Noting.Yields.bind`, `Noting.Yields.mapM`).
-/

set_option autoImplicit false

namespace TypeAtlas

namespace Notes

/-! ### Lists of notes -/

/-- Noting an id notes none twice. -/
theorem nodup_add {notes : Notes} (h : notes.Nodup) (id : String) : (notes.add id).Nodup := by
  unfold add
  split_ifs with old
  · exact h
  · rw [← List.concat_eq_append]
    exact h.concat (by simpa using old)

/-- Nothing is ever noted twice. -/
theorem nodup_addAll : (ids : List String) → ∀ {notes : Notes}, notes.Nodup →
    (notes.addAll ids).Nodup
  | [], _, h => h
  | id :: rest, _, h => nodup_addAll rest (nodup_add h id)

/-- Ids may be noted in two parts. -/
theorem addAll_append (notes : Notes) (first second : List String) :
    notes.addAll (first ++ second) = (notes.addAll first).addAll second :=
  List.foldl_append

/-- Of the ids that are noted in order, the first occurrences are added that are not there yet. -/
theorem addAll_eq (notes : Notes) (ids : List String) :
    notes.addAll ids = notes ++ (ids.removeAll notes).eraseDups := by
  induction ids generalizing notes with
  | nil => simp [addAll]
  | cons id rest ih =>
    rw [addAll, List.foldl_cons, ← addAll, ih, add, List.cons_removeAll]
    by_cases old : id ∈ notes
    · simp [old]
    · have later : rest.removeAll (notes ++ [id]) =
          (rest.removeAll notes).filter fun other => !other == id := by
        simp only [List.removeAll, List.filter_filter]
        refine List.filter_congr fun other _ => ?_
        by_cases same : other = id <;> simp [same]
      simp [old, later, List.eraseDups_cons]

/-- What has been noted stays in front of what is noted later. -/
theorem prefix_addAll (notes : Notes) (ids : List String) : notes <+: notes.addAll ids := by
  rw [addAll_eq]
  exact List.prefix_append _ _

/-- Noting ids in order leaves the first occurrence of each. -/
theorem addAll_nil (ids : List String) : Notes.addAll [] ids = ids.eraseDups := by
  simp [addAll_eq]

end Notes

namespace Noting

/-! ### What an action yields -/

/-- Whatever has been noted before, the action gives this answer and notes these ids. -/
def Yields {α : Type} (action : Noting α) (answer : α) (ids : List String) : Prop :=
  ∀ notes : Notes, action.run notes = (answer, notes.addAll ids)

namespace Yields

variable {α β : Type}

/-- An answer that is given at once notes nothing. -/
theorem pure (answer : α) : Yields (Pure.pure answer) answer [] := fun _ => rfl

/-- Noting an id notes it and nothing else. -/
theorem note (id : String) : Yields (TypeAtlas.note id) () [id] := fun _ => rfl

/-- Actions that follow each other note one list of ids after the other. -/
theorem bind {action : Noting α} {next : α → Noting β} {first : α} {answer : β}
    {ids more : List String} (h : action.Yields first ids) (hn : (next first).Yields answer more) :
    Yields (action >>= next) answer (ids ++ more) := by
  intro notes
  rw [Notes.addAll_append, StateT.run_bind, h]
  exact hn _

/-- An action followed by one that notes nothing. -/
theorem bind_pure {action : Noting α} {next : α → Noting β} {first : α} {answer : β}
    {ids : List String} (h : action.Yields first ids) (hn : (next first).Yields answer []) :
    Yields (action >>= next) answer ids := by
  simpa using h.bind hn

/-- An action after one that notes nothing. -/
theorem pure_bind {action : Noting α} {next : α → Noting β} {first : α} {answer : β}
    {ids : List String} (h : action.Yields first []) (hn : (next first).Yields answer ids) :
    Yields (action >>= next) answer ids := by
  simpa using h.bind hn

/-- The same for each item of a list: the answers are listed, and so are the ids. -/
theorem mapM {ask : α → Noting β} {answer : α → β} {ids : α → List String}
    (h : ∀ a, (ask a).Yields (answer a) (ids a)) :
    (list : List α) → Yields (list.mapM ask) (list.map answer) (list.flatMap ids)
  | [] => by simpa using pure []
  | a :: rest => by
      rw [List.mapM_cons, List.flatMap_cons]
      exact (h a).bind ((mapM h rest).bind_pure (pure _))

end Yields

end Noting

end TypeAtlas
