import Mathlib.Data.List.Induction
import Mathlib.Data.List.Pairwise
import TypeAtlas.Proofs.Path.Spellings
import TypeAtlas.Watch.Batch
import TypeAtlas.Watch.Filter

/-!
# What a batch holds

A batch holds the first spelling of each path that was pushed, in the order of arrival
(`Batch.paths_ofList`). So what it holds can be told from the list of all pushed paths: a path is
held if no path before it in the list is the same. The step from one push to the next is
`Batch.firstSpellings_concat`.

Main statement: `Batch.collects_ofList`. Neither batches nor filters can tell two spellings of a
path apart; what spellings of a path look like is told by `Path.same_iff_join`.
-/

set_option autoImplicit false

namespace TypeAtlas.Watch

/-- A filter answers alike for two spellings of a path. -/
theorem Filter.accepts_congr (filter : Filter) {a b : Path} (same : a.same b = true) :
    filter.accepts a = filter.accepts b := by
  have parts : a.parts = b.parts := Path.same_iff.mp same
  cases filter with
  | sources => simp only [accepts, Path.extension?, Path.fileName?, parts]
  | target chosen => simp only [accepts, Path.same, parts]

namespace Batch

/-- The paths of a list that no path before them is the same as. -/
def firstSpellings (pushed : List Path) : List Path :=
  (pushed.zipIdx.filter fun (path, index) => !(pushed.take index).any path.same).map (·.1)

/-- A last path is a first spelling unless some path before it is the same. -/
theorem firstSpellings_concat (pushed : List Path) (path : Path) :
    firstSpellings (pushed ++ [path]) =
      firstSpellings pushed ++ if pushed.any path.same then [] else [path] := by
  have earlier : ∀ entry ∈ pushed.zipIdx,
      (!((pushed ++ [path]).take entry.2).any entry.1.same) =
        !(pushed.take entry.2).any entry.1.same := by
    intro entry listed
    have before : entry.2 ≤ pushed.length := by
      have := (List.mem_zipIdx listed).2.1
      omega
    rw [List.take_append_of_le_length before]
  unfold firstSpellings
  rw [List.zipIdx_append, List.filter_append, List.map_append, List.filter_congr earlier]
  congr 1
  cases new : pushed.any path.same <;> simp [new]

/-! ### Pushing -/

section push

variable (batch : Batch) (path : Path)

/-- Pushing a path that is there in some spelling changes nothing. -/
theorem push_of_contains (held : batch.contains path = true) : batch.push path = batch := by
  rw [push, if_pos held]

/-- A pushed path comes last unless it is there in some spelling. -/
theorem paths_push : (batch.push path).paths =
    batch.paths ++ if batch.contains path then [] else [path] := by
  unfold push
  split_ifs <;> simp

/-- A batch holds a path in all its spellings or in none. -/
theorem contains_congr {a b : Path} (same : a.same b = true) :
    batch.contains a = batch.contains b := by
  unfold contains
  congr 1
  funext other
  exact Path.same_congr same other

/-- After pushing a path a batch contains what it did and all spellings of the path. -/
theorem contains_push (other : Path) :
    (batch.push path).contains other = (batch.contains other || other.same path) := by
  rw [contains, paths_push, List.any_append, ← contains]
  cases held : batch.contains path with
  | false => simp
  | true =>
    -- nothing is added, but a spelling of the path that was to be added is held
    cases spelled : other.same path with
    | false => simp
    | true => simp [contains_congr batch spelled, held]

/-- Paths that are held can be pushed again and again. -/
theorem foldl_push_of_contains {batch : Batch} : (paths : List Path) →
    (∀ path ∈ paths, batch.contains path = true) → paths.foldl push batch = batch
  | [], _ => rfl
  | path :: rest, held => by
    rw [List.foldl_cons, batch.push_of_contains path (held path List.mem_cons_self)]
    exact foldl_push_of_contains rest fun other listed =>
      held other (List.mem_cons_of_mem path listed)

end push

/-! ### Collecting -/

/-- No two of the paths are the same. -/
def Distinct (paths : List Path) : Prop := paths.Pairwise fun a b => a.same b = false

/-- Of distinct paths no two are the same. -/
theorem Distinct.eq_of_same {paths : List Path} (distinct : Distinct paths) {a b : Path}
    (first : a ∈ paths) (second : b ∈ paths) (same : a.same b = true) : a = b := by
  have symmetric : Std.Symm fun a b : Path => a.same b = false :=
    ⟨fun a b differs => by rwa [Path.same_comm]⟩
  by_contra differ
  have := distinct.forall first second differ
  simp [same] at this

/-- What the batch of all pushed paths is like: it holds the first spelling of each path, in the
order of arrival, and no path in two spellings. A path is in it, however it is spelled, if it was
pushed in some spelling. Pushing further paths one by one makes the batch of all of them, and
pushing the same ones again changes nothing. -/
structure Collects (batch : Batch) (pushed : List Path) : Prop where
  paths : batch.paths = firstSpellings pushed
  distinct : Distinct batch.paths
  contains_iff : ∀ path, batch.contains path = true ↔ ∃ other ∈ pushed, path.same other = true
  further : ∀ more, more.foldl push batch = ofList (pushed ++ more)
  again : pushed.foldl push batch = batch

/-- The last path of a list is pushed last. -/
theorem ofList_concat (pushed : List Path) (path : Path) :
    ofList (pushed ++ [path]) = (ofList pushed).push path := by
  rw [ofList, List.foldl_append]
  rfl

/-- The batch of pushed paths contains a path exactly if some pushed path is the same. -/
theorem contains_ofList (pushed : List Path) (path : Path) :
    (ofList pushed).contains path = pushed.any path.same := by
  induction pushed using List.reverseRecOn with
  | nil => rfl
  | append_singleton pushed last ih =>
    rw [ofList_concat, contains_push, ih, List.any_append]
    simp

/-- The batch of pushed paths contains a path exactly if the path was pushed in some spelling. -/
theorem contains_ofList_iff {pushed : List Path} {path : Path} :
    (ofList pushed).contains path = true ↔ ∃ other ∈ pushed, path.same other = true := by
  rw [contains_ofList, List.any_eq_true]

/-- The batch of pushed paths holds their first spellings. -/
theorem paths_ofList (pushed : List Path) : (ofList pushed).paths = firstSpellings pushed := by
  induction pushed using List.reverseRecOn with
  | nil => rfl
  | append_singleton pushed last ih =>
    rw [ofList_concat, paths_push, contains_ofList, ih, firstSpellings_concat]

/-- No two paths of a batch are the same. -/
theorem distinct_ofList (pushed : List Path) : Distinct (ofList pushed).paths := by
  induction pushed using List.reverseRecOn with
  | nil => exact List.Pairwise.nil
  | append_singleton pushed last ih =>
    rw [ofList_concat, paths_push]
    cases held : (ofList pushed).contains last with
    | true => simpa using ih
    | false =>
      refine List.pairwise_append.mpr ⟨ih, List.pairwise_singleton _ _, ?_⟩
      intro earlier listed path new
      obtain rfl : path = last := by simpa using new
      have others : ∀ other ∈ (ofList pushed).paths, path.same other = false := by
        simpa [contains] using held
      rw [Path.same_comm]
      exact others earlier listed

/-- Collecting any paths keeps their first spellings, and neither the batch nor a filter can tell
two spellings of a path apart. -/
theorem collects_ofList (pushed : List Path) :
    (ofList pushed).Collects pushed ∧
      ∀ (filter : Filter) (a b : Path), a.same b = true → filter.accepts a = filter.accepts b where
  left :=
    { paths := paths_ofList pushed
      distinct := distinct_ofList pushed
      contains_iff := fun _ => contains_ofList_iff
      further := fun _ => List.foldl_append.symm
      again := foldl_push_of_contains pushed fun path listed =>
        contains_ofList_iff.mpr ⟨path, listed, path.same_refl⟩ }
  right := fun filter _ _ same => filter.accepts_congr same

/-- Four pushes of two paths. -/
example : (ofList [⟨"src/a.ts"⟩, ⟨"./src/a.ts"⟩, ⟨"src//a.ts"⟩, ⟨"src/./a.ts/"⟩]).paths =
    [⟨"src/a.ts"⟩, ⟨"./src/a.ts"⟩] := by
  decide

end Batch

end TypeAtlas.Watch
