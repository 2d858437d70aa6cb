import Mathlib.Data.List.Nodup
import TypeAtlas.Declarations.Basic

/-!
# Members that are added by name

Members are added at the end, each unless its name is taken by then (`Member.append_eq`). What is
added is the first member of each name that was not taken before (`Member.newMembers_eq`), so it
depends on the names that are taken and on nothing else (`Member.newMembers_congr`), and members
that are added in two goes are added as if in one (`Member.newMembers_append`).
-/

set_option autoImplicit false

namespace TypeAtlas

namespace Member

/-! ### Members with new names -/

/-- The members that are added to others: each unless its name is taken by then. -/
def newMembers (members : List Member) : List Member → List Member
  | [] => []
  | member :: rest =>
    if hasName members member.name then newMembers members rest
    else member :: newMembers (members ++ [member]) rest

/-- Members have a name exactly if it is one of their names. -/
theorem hasName_iff {members : List Member} {name : String} :
    hasName members name ↔ name ∈ members.map (·.name) := by
  simp [hasName]

/-- Members stay where they are, and new ones follow. -/
theorem append_eq (members : List Member) (more : List Member) :
    append members more = members ++ newMembers members more := by
  induction more generalizing members with
  | nil => simp [append, newMembers]
  | cons member rest ih =>
    rw [append, List.foldl_cons, ← append, ih, insert, newMembers]
    split_ifs <;> simp

/-- A new member is the first of its name and has a name that was not taken. -/
theorem named?_newMembers {members more : List Member} {member : Member}
    (h : member ∈ newMembers members more) :
    named? more member.name = some member ∧ member.name ∉ members.map (·.name) := by
  induction more generalizing members with
  | nil => cases h
  | cons first rest ih =>
    rw [newMembers] at h
    split_ifs at h with taken
    · obtain ⟨found, free⟩ := ih h
      have other : first.name ≠ member.name := fun same => free (same ▸ hasName_iff.mp taken)
      exact ⟨by simpa [named?, other] using found, free⟩
    · rcases List.mem_cons.mp h with rfl | later
      · exact ⟨by simp [named?], fun mem => taken (hasName_iff.mpr mem)⟩
      · obtain ⟨found, free⟩ := ih later
        rw [List.map_append, List.mem_append, not_or] at free
        have other : first.name ≠ member.name := fun same => free.2 (by simp [same])
        exact ⟨by simpa [named?, other] using found, free.1⟩

/-- Every name that is not taken comes to be the name of a new member. -/
theorem mem_map_name_newMembers {members more : List Member} {name : String} :
    name ∈ (newMembers members more).map (·.name) ↔
      name ∈ more.map (·.name) ∧ name ∉ members.map (·.name) := by
  induction more generalizing members with
  | nil => simp [newMembers]
  | cons first rest ih =>
    rw [newMembers]
    split_ifs with taken
    · rw [ih, List.map_cons, List.mem_cons]
      constructor
      · exact fun ⟨mem, free⟩ => ⟨.inr mem, free⟩
      · rintro ⟨rfl | mem, free⟩
        · exact absurd (hasName_iff.mp taken) free
        · exact ⟨mem, free⟩
    · rw [List.map_cons, List.mem_cons, ih, List.map_cons, List.mem_cons, List.map_append,
        List.mem_append, not_or]
      have free : first.name ∉ members.map (·.name) := fun mem => taken (hasName_iff.mpr mem)
      by_cases same : name = first.name
      · simp [same, free]
      · simp [same]

/-- No two of the members that are added have one name. -/
theorem nodup_map_name_newMembers (members more : List Member) :
    ((newMembers members more).map (·.name)).Nodup := by
  induction more generalizing members with
  | nil => simp [newMembers]
  | cons first rest ih =>
    rw [newMembers]
    split_ifs with taken
    · exact ih members
    · rw [List.map_cons, List.nodup_cons]
      refine ⟨fun mem => ?_, ih _⟩
      exact (mem_map_name_newMembers.mp mem).2 (by simp)

/-! ### First members -/

/-- The first member of each name. -/
def firstOfEach (members : List Member) : List Member :=
  members.eraseDupsBy fun member other => member.name == other.name

/-- The members whose names others do not have. -/
def besides (taken members : List Member) : List Member :=
  members.filter fun member => !hasName taken member.name

/-- The first member stays, and later ones of its name go before the others are looked at. -/
theorem firstOfEach_cons (member : Member) (rest : List Member) :
    firstOfEach (member :: rest) = member :: firstOfEach (besides [member] rest) := by
  have same : (fun other : Member => decide ((other.name == member.name) = false)) =
      fun other => !hasName [member] other.name := by
    funext other
    rw [Bool.eq_iff_iff]
    simp [hasName, eq_comm (a := other.name)]
  rw [firstOfEach, List.eraseDupsBy_cons, same]
  rfl

/-- Leaving out the names of some members and then of others is leaving out the names of both. -/
theorem besides_besides (taken more members : List Member) :
    besides more (besides taken members) = besides (taken ++ more) members := by
  unfold besides
  rw [List.filter_filter]
  refine List.filter_congr fun member _ => ?_
  simp [hasName, Bool.and_comm]

/-- What is added is the first member of each name that was not taken. -/
theorem newMembers_eq (members more : List Member) :
    newMembers members more = firstOfEach (besides members more) := by
  induction more generalizing members with
  | nil => rfl
  | cons first rest ih =>
    rw [newMembers]
    split_ifs with taken
    · rw [ih, besides, besides, List.filter_cons_of_neg (by simpa using taken)]
    · have kept : besides members (first :: rest) = first :: besides members rest :=
        List.filter_cons_of_pos (by simpa using taken)
      rw [kept, firstOfEach_cons, besides_besides, ih]

/-- Which members are new is a matter of the names that are taken. -/
theorem newMembers_congr {members others : List Member}
    (same : ∀ name, name ∈ members.map (·.name) ↔ name ∈ others.map (·.name))
    (more : List Member) : newMembers members more = newMembers others more := by
  have taken (name : String) : hasName members name = hasName others name :=
    Bool.eq_iff_iff.mpr (hasName_iff.trans ((same name).trans hasName_iff.symm))
  simp only [newMembers_eq, besides, taken]

/-- What is added after other members is new beside those. -/
theorem newMembers_append (members first later : List Member) :
    newMembers members (first ++ later) =
      newMembers members first ++ newMembers (members ++ first) later := by
  induction first generalizing members with
  | nil => simp [newMembers]
  | cons member rest ih =>
    rw [List.cons_append, newMembers, newMembers]
    split_ifs with taken
    · have known : member.name ∈ members.map (·.name) := hasName_iff.mp taken
      have same (name : String) : name ∈ (members ++ rest).map (·.name) ↔
          name ∈ (members ++ member :: rest).map (·.name) := by
        simp only [List.map_append, List.map_cons, List.mem_append, List.mem_cons]
        constructor
        · tauto
        · rintro (old | rfl | new) <;> tauto
      rw [ih, newMembers_congr same]
    · rw [ih, List.cons_append, List.append_assoc, List.singleton_append]

/-- Changing members but for their names changes the new ones alike. -/
theorem newMembers_map {change : Member → Member}
    (keeps : ∀ member, (change member).name = member.name) (members more : List Member) :
    newMembers members (more.map change) = (newMembers members more).map change := by
  induction more generalizing members with
  | nil => rfl
  | cons member rest ih =>
    rw [List.map_cons, newMembers, newMembers, keeps]
    split_ifs
    · exact ih members
    · rw [ih, List.map_cons, newMembers_congr fun name => ?_]
      simp [keeps]

/-- Nothing is new among members whose names are taken. -/
theorem newMembers_eq_nil {members more : List Member}
    (taken : ∀ member ∈ more, member.name ∈ members.map (·.name)) :
    newMembers members more = [] := by
  rw [List.eq_nil_iff_forall_not_mem]
  intro member mem
  obtain ⟨found, free⟩ := named?_newMembers mem
  exact free (taken member (List.mem_of_find?_eq_some found))

/-- Members that would not be new beside some of the taken ones need not be looked at. -/
theorem newMembers_newMembers {members fewer : List Member}
    (among : ∀ member ∈ fewer, member.name ∈ members.map (·.name)) (more : List Member) :
    newMembers members (newMembers fewer more) = newMembers members more := by
  induction more generalizing members fewer with
  | nil => rfl
  | cons member rest ih =>
    have known (taken : hasName fewer member.name) : hasName members member.name := by
      obtain ⟨other, mem, same⟩ := List.mem_map.mp (hasName_iff.mp taken)
      exact hasName_iff.mpr (same ▸ among other mem)
    have further (other : Member) (mem : other ∈ fewer ++ [member]) :
        other ∈ fewer ∨ other = member := by simpa using mem
    simp only [newMembers]
    split_ifs with taken old old
    · exact ih among
    · exact absurd (known taken) old
    · rw [newMembers, if_pos old]
      refine ih fun other mem => ?_
      rcases further other mem with before | rfl
      · exact among other before
      · exact hasName_iff.mp old
    · rw [newMembers, if_neg old]
      refine congrArg (member :: ·) (ih fun other mem => ?_)
      rw [List.map_append, List.mem_append]
      rcases further other mem with before | rfl
      · exact .inl (among other before)
      · exact .inr (by simp)

end Member

end TypeAtlas
