import Std.Data.ExtTreeMap

/-!
Things that are kept in order and found by name.

A table has a list of entries and an index, which tells at which place of the list the entry of a
name is. Entries are only ever added at the end or changed where they are, and their names never
change, so a place once told stays right. Every table carries the proof that its index and its list
agree (`Table.agrees`). From this follows that no name comes twice (`Table.nodup_map_name`) and that
looking a name up in the index finds the same entry as looking for it in the list
(`Table.find?_eq`).
-/

set_option autoImplicit false

namespace TypeAtlas

/-- Entries in the order in which their names were first added, and where to find them. -/
structure Table {α : Type} (name : α → String) where
  entries : List α
  /-- The place of the entry of each name. -/
  index : Std.ExtTreeMap String Nat
  /-- A place is told for a name exactly if the entry there has this name. -/
  agrees : ∀ key place, index[key]? = some place ↔ entries[place]?.map name = some key

namespace Table

variable {α : Type} {name : α → String}

/-- The table without entries. -/
def empty : Table name where
  entries := []
  index := ∅
  agrees := by simp

instance : Inhabited (Table name) := ⟨empty⟩

variable (table : Table name)

/-! ### Looking up -/

/-- The index never leads out of the list. -/
theorem lt_length {key : String} {place : Nat} (h : table.index[key]? = some place) :
    place < table.entries.length := by
  obtain ⟨entry, found, -⟩ := Option.map_eq_some_iff.mp ((table.agrees key place).mp h)
  exact (List.getElem?_eq_some_iff.mp found).1

/-- The entry of a name, at the place that the index tells. -/
def find? (key : String) : Option α :=
  match told : table.index[key]? with
  | some place => some (table.entries.get ⟨place, table.lt_length told⟩)
  | none => none

/-- What is found is an entry, and it has the name that was looked for. -/
theorem mem_of_find?_eq_some {key : String} {entry : α} (h : table.find? key = some entry) :
    entry ∈ table.entries ∧ name entry = key := by
  unfold find? at h
  split at h
  · rename_i place told
    cases h
    have here := (table.agrees key place).mp told
    rw [List.getElem?_eq_getElem (table.lt_length told), Option.map_some] at here
    exact ⟨List.get_mem _ _, Option.some.inj here⟩
  · cases h

/-- The index tells the place of every entry by its name. -/
theorem index_getElem (place : Nat) (inside : place < table.entries.length) :
    table.index[name table.entries[place]]? = some place :=
  (table.agrees _ place).mpr (by rw [List.getElem?_eq_getElem inside, Option.map_some])

/-- Every entry is found by its name. -/
theorem find?_of_mem {entry : α} (h : entry ∈ table.entries) :
    table.find? (name entry) = some entry := by
  obtain ⟨place, inside, rfl⟩ := List.mem_iff_getElem.mp h
  have told := table.index_getElem place inside
  unfold find?
  split
  · rename_i other again
    obtain rfl : place = other := Option.some.inj (told.symm.trans again)
    rfl
  · rename_i nothing
    rw [told] at nothing
    cases nothing

/-- Looking up in the index finds what looking through the list finds. -/
theorem find?_eq (key : String) :
    table.find? key = table.entries.find? fun entry => name entry == key := by
  cases found : table.entries.find? fun entry => name entry == key with
  | some entry =>
    obtain rfl : name entry = key := by simpa using List.find?_some found
    exact table.find?_of_mem (List.mem_of_find?_eq_some found)
  | none =>
    rw [List.find?_eq_none] at found
    rw [Option.eq_none_iff_forall_ne_some]
    intro entry h
    obtain ⟨mem, named⟩ := table.mem_of_find?_eq_some h
    exact found entry mem (by simpa using named)

/-- No two entries have one name: the index tells one place for it. -/
theorem nodup_map_name : (table.entries.map name).Nodup := by
  rw [List.nodup_iff_pairwise_ne, List.pairwise_iff_getElem]
  intro i j hi hj less same
  rw [List.length_map] at hi hj
  rw [List.getElem_map, List.getElem_map] at same
  have first := table.index_getElem i hi
  rw [same, table.index_getElem j hj] at first
  exact Nat.ne_of_lt less (Option.some.inj first).symm

/-- Tables with the same entries are the same, since these tell the places. -/
theorem ext_entries {table other : Table name} (h : table.entries = other.entries) :
    table = other := by
  obtain ⟨entries, index, agrees⟩ := table
  obtain ⟨entries', index', agrees'⟩ := other
  obtain rfl : entries = entries' := h
  have same : index = index' := by
    refine Std.ExtTreeMap.ext_getElem? fun key => Option.ext fun place => ?_
    rw [agrees, agrees']
  subst same
  rfl

/-! ### Adding and changing -/

/-- An entry that is changed where it is keeps its name if changing keeps names. -/
theorem map_name_modify {change : α → α} (keeps : ∀ entry, name (change entry) = name entry)
    (entries : List α) (place other : Nat) :
    (entries.modify place change)[other]?.map name = entries[other]?.map name := by
  rw [List.getElem?_modify]
  cases entries[other]? with
  | none => rfl
  | some entry =>
    rw [Option.map_eq_map, Option.map_some, Option.map_some, Option.map_some]
    split
    · rw [keeps]
    · rfl

/-- A new name at the end of the list is told the place behind all others. -/
theorem agrees_insert {new : α} (absent : table.index[name new]? = none) (key : String)
    (place : Nat) :
    (table.index.insert (name new) table.entries.length)[key]? = some place ↔
      (table.entries ++ [new])[place]?.map name = some key := by
  rw [Std.ExtTreeMap.getElem?_insert]
  rcases Nat.lt_trichotomy place table.entries.length with old | rfl | beyond
  · rw [List.getElem?_append_left old, ← table.agrees]
    split
    · rename_i same
      obtain rfl := Std.LawfulEqOrd.eq_of_compare same
      simp [absent, Nat.ne_of_gt old]
    · rfl
  · rw [List.getElem?_concat_length, Option.map_some]
    split
    · rename_i same
      simp [Std.LawfulEqOrd.eq_of_compare same]
    · rename_i other
      have apart : name new ≠ key := fun same => other (by simp [same])
      have none : table.index[key]? ≠ some table.entries.length := fun told =>
        Nat.lt_irrefl _ (table.lt_length told)
      simp [apart, none]
  · have none : table.index[key]? ≠ some place := fun told =>
      Nat.lt_asymm beyond (table.lt_length told)
    have outside : (table.entries ++ [new])[place]? = Option.none :=
      List.getElem?_eq_none (by rw [List.length_append]; exact beyond)
    rw [outside]
    split
    · simp [Nat.ne_of_lt beyond]
    · simp [none]

/-- Adds a thing: it is merged into the entry of its name, or comes last if there is none. -/
def add (merge : α → α → α) (keeps : ∀ first later, name (merge first later) = name first)
    (new : α) : Table name :=
  match told : table.index[name new]? with
  | some place =>
    { table with
      entries := table.entries.modify place (merge · new)
      agrees := fun key other => by
        rw [map_name_modify fun first => keeps first new]
        exact table.agrees key other }
  | none =>
    { entries := table.entries ++ [new]
      index := table.index.insert (name new) table.entries.length
      agrees := table.agrees_insert told }

/-- Changes all entries and none of their names. -/
def map (change : α → α) (keeps : ∀ entry, name (change entry) = name entry) : Table name where
  entries := table.entries.map change
  index := table.index
  agrees key place := by
    have kept : name ∘ change = name := funext keeps
    rw [table.agrees, List.getElem?_map, Option.map_map, kept]

end Table

end TypeAtlas
