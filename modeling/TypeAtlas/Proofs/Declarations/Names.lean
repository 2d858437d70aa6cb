import Mathlib.Data.List.Nodup
import TypeAtlas.Source

/-!
# Tables as lists of entries

What a table holds after something was added is told from its entries alone: a thing with a new name
comes last, and any other is merged into the first entry of its name (`Table.entries_add`). The
place that the index tells for the name is that of the first such entry, since no other entry has
the name.

So nothing but the lists needs to be looked at from here on. Inheritance and the expansion of
aliases leave the names in them as they are.
-/

set_option autoImplicit false

namespace TypeAtlas

/-! ### Adding by name -/

/-- Adds a named thing at the end, or merges it into the first one of the same name. -/
def addNamed {α : Type} (name : α → String) (merge : α → α → α) (new : α) : List α → List α
  | [] => [new]
  | first :: rest =>
    if name first = name new then merge first new :: rest
    else first :: addNamed name merge new rest

section addNamed

variable {α : Type} {name : α → String} {merge : α → α → α}

/-- A merged thing keeps its place and its name; a thing with a new name comes last. -/
theorem map_name_addNamed (keeps : ∀ first later, name (merge first later) = name first) (new : α) :
    (list : List α) →
      (addNamed name merge new list).map name =
        if name new ∈ list.map name then list.map name else list.map name ++ [name new]
  | [] => by simp [addNamed]
  | first :: rest => by
      unfold addNamed
      split_ifs with taken inside inside
      · simp [keeps]
      · exact absurd (by simp [taken]) inside
      · rw [List.map_cons, map_name_addNamed keeps new rest, if_pos]
        · rfl
        · simpa [Ne.symm taken] using inside
      · rw [List.map_cons, map_name_addNamed keeps new rest, if_neg]
        · rfl
        · exact fun mem => inside (List.mem_cons_of_mem _ mem)

/-- Adding by name keeps names distinct. -/
theorem nodup_map_name_addNamed (keeps : ∀ first later, name (merge first later) = name first)
    (new : α) {list : List α} (h : (list.map name).Nodup) :
    ((addNamed name merge new list).map name).Nodup := by
  rw [map_name_addNamed keeps]
  split_ifs with inside
  · exact h
  · rw [← List.concat_eq_append]
    exact h.concat inside

/-- A thing with a new name comes last. -/
theorem addNamed_of_not_mem {new : α} :
    {list : List α} → name new ∉ list.map name → addNamed name merge new list = list ++ [new]
  | [], _ => rfl
  | first :: rest, absent => by
      rw [List.map_cons, List.mem_cons, not_or] at absent
      rw [addNamed, if_neg (Ne.symm absent.1), addNamed_of_not_mem absent.2, List.cons_append]

/-- A thing is merged into the entry at a place if this is the first one of its name. -/
theorem addNamed_eq_modify {new : α} :
    {list : List α} → {place : Nat} → list[place]?.map name = some (name new) →
      (∀ other < place, list[other]?.map name ≠ some (name new)) →
        addNamed name merge new list = list.modify place (merge · new)
  | [], _, here, _ => by cases here
  | first :: rest, 0, here, _ => by
      have same : name first = name new := by simpa using here
      rw [addNamed, if_pos same, List.modify_zero_cons]
  | first :: rest, place + 1, here, before => by
      have other : name first ≠ name new := by simpa using before 0 (Nat.succ_pos place)
      have later : ∀ inner < place, rest[inner]?.map name ≠ some (name new) := fun inner less => by
        simpa using before (inner + 1) (Nat.succ_lt_succ less)
      rw [addNamed, if_neg other, addNamed_eq_modify (by simpa using here) later,
        List.modify_succ_cons]

/-- What holds of things, and of a new thing alone or merged into another, holds once it is added by
name. -/
theorem forall_mem_addNamed {holds : α → Prop} {new : α}
    (keeps : ∀ first, holds first → holds (merge first new)) (h : holds new) :
    {list : List α} → (∀ a ∈ list, holds a) → ∀ a ∈ addNamed name merge new list, holds a
  | [], _ => by simpa [addNamed] using h
  | first :: rest, all => by
      obtain ⟨here, others⟩ := List.forall_mem_cons.mp all
      unfold addNamed
      split_ifs
      · exact List.forall_mem_cons.mpr ⟨keeps first here, others⟩
      · exact List.forall_mem_cons.mpr ⟨here, forall_mem_addNamed keeps h others⟩

/-- Among things of distinct names each is what is found of its name. -/
theorem find?_eq_some_of_mem {list : List α} (distinct : (list.map name).Nodup) {a : α}
    (h : a ∈ list) :
    list.find? (fun other => name other == name a) = some a := by
  induction list with
  | nil => cases h
  | cons first rest ih =>
    rw [List.map_cons, List.nodup_cons] at distinct
    rcases List.mem_cons.mp h with rfl | later
    · simp
    · have other : name first ≠ name a := fun same =>
        distinct.1 (List.mem_map.mpr ⟨a, later, same.symm⟩)
      rw [List.find?_cons_of_neg (by simpa using other), ih distinct.2 later]

end addNamed

/-! ### Tables -/

namespace Table

variable {α : Type} {name : α → String} {merge : α → α → α} (table : Table name)
  (keeps : ∀ first later, name (merge first later) = name first)

/-- Adding to a table adds to its entries by name: the place that the index tells is that of the
only entry of the name. -/
theorem entries_add (new : α) :
    (table.add merge keeps new).entries = addNamed name merge new table.entries := by
  unfold add
  split
  · rename_i place told
    refine (addNamed_eq_modify ((table.agrees _ place).mp told) fun other less same => ?_).symm
    have again := (table.agrees _ other).mpr same
    rw [told] at again
    exact absurd (Option.some.inj again).symm (Nat.ne_of_lt less)
  · rename_i absent
    refine (addNamed_of_not_mem fun mem => ?_).symm
    obtain ⟨entry, inside, same⟩ := List.mem_map.mp mem
    obtain ⟨place, within, rfl⟩ := List.mem_iff_getElem.mp inside
    rw [← same, table.index_getElem place within] at absent
    cases absent

/-- What holds of all entries, and of a new thing alone or merged into an entry, holds of all
entries once it is added. -/
theorem forall_mem_add {holds : α → Prop} {new : α} {table : Table name}
    (kept : ∀ first, holds first → holds (merge first new)) (h : holds new)
    (all : ∀ entry ∈ table.entries, holds entry) :
    ∀ entry ∈ (table.add merge keeps new).entries, holds entry := by
  rw [entries_add]
  exact forall_mem_addNamed kept h all

/-- Where the entries of a table are those of another one in another order, each name finds the same
in both. -/
theorem find?_eq_of_perm {table other : Table name} (permuted : table.entries.Perm other.entries) :
    table.find? = other.find? := by
  funext key
  cases found : table.find? key with
  | some entry =>
    obtain ⟨mem, rfl⟩ := table.mem_of_find?_eq_some found
    exact (other.find?_of_mem (permuted.mem_iff.mp mem)).symm
  | none =>
    refine (Option.eq_none_iff_forall_ne_some.mpr fun entry also => ?_).symm
    obtain ⟨mem, rfl⟩ := other.mem_of_find?_eq_some also
    rw [table.find?_of_mem (permuted.mem_iff.mpr mem)] at found
    cases found

end Table

end TypeAtlas
