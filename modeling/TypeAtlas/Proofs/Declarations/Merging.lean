import Mathlib.Data.List.Induction
import TypeAtlas.Proofs.Declarations.Members
import TypeAtlas.Proofs.Declarations.Names

/-!
# What merging by name leaves of a list of declarations

However declarations of different kinds follow each other, those of one kind are added to the list
of their kind alone (`Declarations.interfaces_ofList` and its like). There a declaration with a new
name comes last and every other one is merged into the entry of its name, so an entry is made of
the first declaration of its name and the later ones in order (`exists_merged_of_mem_addAllNamed`).
The index of the kind tells the place of each name in the order of first addition
(`Table.index_eq_idxOf?`).

Main statement: `Declarations.isMergeOf_ofList`. Each kind has one entry for each name in the order
of first addition, its index leads from the name to the entry, and what the entry holds is told from
the declarations of the name (`InterfaceDecl.MergedFrom`, `ClassDecl.MergedFrom`,
`EnumDecl.MergedFrom`).
-/

set_option autoImplicit false

namespace TypeAtlas

/-! ### Adding by name -/

section addNamed

variable {α : Type} (name : α → String) (merge : α → α → α)

/-- What is left of things that are added by name one after the other. -/
def addAllNamed (added : List α) : List α :=
  added.foldl (fun entries new => addNamed name merge new entries) []

variable {name merge}

/-- The last thing that is added is added to what is left of those before it. -/
theorem addAllNamed_concat (added : List α) (new : α) :
    addAllNamed name merge (added ++ [new]) =
      addNamed name merge new (addAllNamed name merge added) :=
  List.foldl_append

/-- An entry has another name than what is added and was there before, or the new thing was merged
into it, or it is the new thing. -/
theorem mem_addNamed {new entry : α} {entries : List α} (distinct : (entries.map name).Nodup)
    (h : entry ∈ addNamed name merge new entries) :
    (entry ∈ entries ∧ name entry ≠ name new) ∨
      (∃ first ∈ entries, name first = name new ∧ entry = merge first new) ∨
        (name new ∉ entries.map name ∧ entry = new) := by
  induction entries with
  | nil => exact .inr (.inr ⟨by simp, by simpa [addNamed] using h⟩)
  | cons first rest ih =>
    rw [List.map_cons, List.nodup_cons] at distinct
    unfold addNamed at h
    split_ifs at h with same
    · rcases List.mem_cons.mp h with rfl | later
      · exact .inr (.inl ⟨first, List.mem_cons_self, same, rfl⟩)
      · refine .inl ⟨List.mem_cons_of_mem _ later, fun again => distinct.1 ?_⟩
        exact List.mem_map.mpr ⟨entry, later, again.trans same.symm⟩
    · rcases List.mem_cons.mp h with rfl | later
      · exact .inl ⟨List.mem_cons_self, same⟩
      · rcases ih distinct.2 later with ⟨mem, other⟩ | ⟨old, mem, named, rfl⟩ | ⟨absent, rfl⟩
        · exact .inl ⟨List.mem_cons_of_mem _ mem, other⟩
        · exact .inr (.inl ⟨old, List.mem_cons_of_mem _ mem, named, rfl⟩)
        · exact .inr (.inr ⟨by simpa [Ne.symm same] using absent, rfl⟩)

variable (keeps : ∀ first later, name (merge first later) = name first)

include keeps

/-- No two of the things that are left have one name. -/
theorem nodup_map_name_addAllNamed (added : List α) :
    ((addAllNamed name merge added).map name).Nodup := by
  unfold addAllNamed
  exact List.foldlRecOn (motive := fun entries : List α => (entries.map name).Nodup) added _ .nil
    fun _ h new _ => nodup_map_name_addNamed keeps new h

/-- There is one entry for each name, in the order of first addition. -/
theorem map_name_addAllNamed (added : List α) :
    (addAllNamed name merge added).map name = (added.map name).eraseDups := by
  induction added using List.reverseRecOn with
  | nil => rfl
  | append_singleton added new ih =>
    rw [addAllNamed_concat, map_name_addNamed keeps, ih, List.map_append,
      List.eraseDups_append, List.map_singleton, List.cons_removeAll]
    generalize added.map name = names
    by_cases old : name new ∈ names <;> simp [old, List.eraseDups_cons]

/-- An entry is the first thing of its name, with the later ones of that name merged into it in
order. -/
theorem exists_merged_of_mem_addAllNamed {added : List α} {entry : α}
    (h : entry ∈ addAllNamed name merge added) :
    ∃ first later, added.filter (fun other => name other == name entry) = first :: later ∧
      entry = later.foldl merge first := by
  induction added using List.reverseRecOn generalizing entry with
  | nil => cases h
  | append_singleton added new ih =>
    rw [addAllNamed_concat] at h
    rcases mem_addNamed (nodup_map_name_addAllNamed keeps added) h with
      ⟨mem, other⟩ | ⟨old, mem, named, rfl⟩ | ⟨absent, rfl⟩
    · obtain ⟨first, later, all, merged⟩ := ih mem
      refine ⟨first, later, ?_, merged⟩
      rw [List.filter_append, all]
      simp [Ne.symm other]
    · obtain ⟨first, later, all, merged⟩ := ih mem
      refine ⟨first, later ++ [new], ?_, by rw [List.foldl_append, ← merged]; rfl⟩
      rw [List.filter_append, keeps, all]
      simp [named]
    · refine ⟨entry, [], ?_, rfl⟩
      rw [map_name_addAllNamed keeps, List.mem_eraseDups] at absent
      have none : added.filter (fun other => name other == name entry) = [] := by
        rw [List.filter_eq_nil_iff]
        exact fun other mem same => absent (List.mem_map.mpr ⟨other, mem, by simpa using same⟩)
      rw [List.filter_append, none]
      simp

omit keeps in
/-- Where no name comes twice, nothing is merged. -/
theorem addAllNamed_of_nodup {added : List α} (distinct : (added.map name).Nodup) :
    addAllNamed name merge added = added := by
  induction added using List.reverseRecOn with
  | nil => rfl
  | append_singleton added new ih =>
    rw [List.map_append, List.nodup_append] at distinct
    obtain ⟨before, -, apart⟩ := distinct
    rw [addAllNamed_concat, ih before, addNamed_of_not_mem]
    exact fun old => apart _ old _ (by simp) rfl

end addNamed

/-! ### Declarations of one name -/

/-- The members of declarations of one name: those of the first, and of the later ones the first of
each name that the first declaration does not have, as those of a later declaration. -/
def Member.ofDeclarations (first : List Member) (later : List (List Member)) : List Member :=
  first ++ (Member.firstOfEach (Member.besides first later.flatten)).map fun member =>
    { member with origin := .merged }

/-- Merging the members of later declarations one after the other leaves those of all declarations
together. -/
theorem Member.foldl_mergedMembers (first : List Member) (later : List (List Member)) :
    later.foldl mergedMembers first = ofDeclarations first later := by
  have one (later : List (List Member)) (first : List Member) :
      later.foldl mergedMembers first = mergedMembers first later.flatten := by
    induction later generalizing first with
    | nil => rfl
    | cons next rest ih =>
      rw [List.foldl_cons, ih, List.flatten_cons, mergedMembers, mergedMembers, mergedMembers,
        List.map_append, append, append, append, List.foldl_append]
  rw [one, mergedMembers, append_eq, newMembers_map (by intro; rfl), newMembers_eq]
  rfl

/-- An interface is what is left of its first declaration and the later ones. -/
structure InterfaceDecl.MergedFrom (merged first : InterfaceDecl) (later : List InterfaceDecl) :
    Prop where
  name : merged.name = first.name
  span : merged.span = first.span
  typeParameters : merged.typeParameters = first.typeParameters
  bases : merged.bases = (first :: later).flatMap (·.bases)
  members : merged.members = Member.ofDeclarations first.members (later.map (·.members))

/-- Merging the declarations of an interface one after the other leaves what the first and the later
ones say. -/
theorem InterfaceDecl.mergedFrom_foldl (first : InterfaceDecl) (later : List InterfaceDecl) :
    (later.foldl merge first).MergedFrom first later := by
  have members : (later.foldl merge first).members =
      Member.ofDeclarations first.members (later.map (·.members)) := by
    rw [← Member.foldl_mergedMembers, List.foldl_map]
    exact (List.foldl_hom InterfaceDecl.members fun _ _ => rfl).symm
  have others (later : List InterfaceDecl) (first : InterfaceDecl) :
      (later.foldl merge first).name = first.name ∧ (later.foldl merge first).span = first.span ∧
        (later.foldl merge first).typeParameters = first.typeParameters ∧
          (later.foldl merge first).bases = (first :: later).flatMap (·.bases) := by
    induction later generalizing first with
    | nil => simp
    | cons next rest ih => simp [ih, merge]
  obtain ⟨name, span, typeParameters, bases⟩ := others later first
  exact ⟨name, span, typeParameters, bases, members⟩

/-- A class is what is left of its first declaration and the later ones. -/
structure ClassDecl.MergedFrom (merged first : ClassDecl) (later : List ClassDecl) : Prop where
  name : merged.name = first.name
  span : merged.span = first.span
  typeParameters : merged.typeParameters = first.typeParameters
  isAbstract : merged.isAbstract = first.isAbstract
  /-- The first base class that is written. -/
  base : merged.base = (first :: later).findSome? (·.base)
  interfaces : merged.interfaces = (first :: later).flatMap (·.interfaces)
  members : merged.members = Member.ofDeclarations first.members (later.map (·.members))

/-- Merging the declarations of a class one after the other leaves what the first and the later ones
say. -/
theorem ClassDecl.mergedFrom_foldl (first : ClassDecl) (later : List ClassDecl) :
    (later.foldl merge first).MergedFrom first later := by
  have members : (later.foldl merge first).members =
      Member.ofDeclarations first.members (later.map (·.members)) := by
    rw [← Member.foldl_mergedMembers, List.foldl_map]
    exact (List.foldl_hom ClassDecl.members fun _ _ => rfl).symm
  have others (later : List ClassDecl) (first : ClassDecl) :
      (later.foldl merge first).name = first.name ∧ (later.foldl merge first).span = first.span ∧
        (later.foldl merge first).typeParameters = first.typeParameters ∧
          (later.foldl merge first).isAbstract = first.isAbstract ∧
            (later.foldl merge first).interfaces = (first :: later).flatMap (·.interfaces) := by
    induction later generalizing first with
    | nil => simp
    | cons next rest ih => simp [ih, merge]
  have base (later : List ClassDecl) (first : ClassDecl) :
      (later.foldl merge first).base = (first :: later).findSome? (·.base) := by
    induction later generalizing first with
    | nil => cases written : first.base <;> simp [written]
    | cons next rest ih =>
      rw [List.foldl_cons, ih]
      cases written : first.base <;> simp [merge, written, List.findSome?_cons]
  obtain ⟨name, span, typeParameters, isAbstract, interfaces⟩ := others later first
  exact ⟨name, span, typeParameters, isAbstract, base later first, interfaces, members⟩

/-- An enumeration is what is left of its first declaration and the later ones. -/
structure EnumDecl.MergedFrom (merged first : EnumDecl) (later : List EnumDecl) : Prop where
  name : merged.name = first.name
  members : merged.members = (first :: later).flatMap (·.members)

/-- Merging the declarations of an enumeration one after the other leaves what the first and the
later ones say. -/
theorem EnumDecl.mergedFrom_foldl (first : EnumDecl) (later : List EnumDecl) :
    (later.foldl merge first).MergedFrom first later := by
  induction later generalizing first with
  | nil => exact ⟨rfl, by simp⟩
  | cons next rest ih =>
    obtain ⟨name, members⟩ := ih (merge first next)
    exact ⟨name, by simpa [merge] using members⟩

/-! ### Declarations of one kind -/

namespace Declaration

/-- The interface that is declared. -/
def interface? : Declaration → Option InterfaceDecl
  | .interface decl => some decl
  | _ => none

/-- The alias that is declared. -/
def alias? : Declaration → Option AliasDecl
  | .typeAlias decl => some decl
  | _ => none

/-- The class that is declared. -/
def class? : Declaration → Option ClassDecl
  | .class decl => some decl
  | _ => none

/-- The enumeration that is declared. -/
def enum? : Declaration → Option EnumDecl
  | .enum decl => some decl
  | _ => none

end Declaration

/-- Entries are what is left of things of one kind that were added in order: one for each name in
the order of first addition, and made of the things of that name. The index tells the place of each
name in this order and of no other name, and what is found by a name is its entry. -/
structure AreMergedFrom {α : Type} (name : α → String) (MergedFrom : α → α → List α → Prop)
    (added entries : List α) (index : Std.ExtTreeMap String Nat) (find? : String → Option α) :
    Prop where
  names : entries.map name = (added.map name).eraseDups
  placed : ∀ key, index[key]? = (added.map name).eraseDups.idxOf? key
  found : ∀ entry ∈ entries, find? (name entry) = some entry
  missing : ∀ key, key ∉ added.map name → find? key = none
  merged : ∀ entry ∈ entries, ∃ first later,
    added.filter (fun other => name other == name entry) = first :: later ∧
      MergedFrom entry first later

/-- The index of a table tells where in the list of names a name is. -/
theorem Table.index_eq_idxOf? {α : Type} {name : α → String} (table : Table name) (key : String) :
    table.index[key]? = (table.entries.map name).idxOf? key := by
  refine Option.ext fun place => ?_
  rw [table.agrees, ← List.getElem?_map, List.idxOf?_eq_some_iff, List.getElem?_eq_some_iff]
  constructor
  · rintro ⟨inside, rfl⟩
    refine ⟨inside, rfl, fun other less same => ?_⟩
    exact Nat.ne_of_lt less ((table.nodup_map_name.getElem_inj_iff).mp same)
  · rintro ⟨inside, same, -⟩
    exact ⟨inside, same⟩

/-- A table whose entries are what is left of things that were added by name finds each of them. -/
theorem areMergedFrom_of_entries {α : Type} {name : α → String} {merge : α → α → α}
    {MergedFrom : α → α → List α → Prop}
    (keeps : ∀ first later, name (merge first later) = name first)
    (folded : ∀ first later, MergedFrom (later.foldl merge first) first later) {added : List α}
    {table : Table name} (left : table.entries = addAllNamed name merge added) :
    AreMergedFrom name MergedFrom added table.entries table.index table.find? where
  names := left ▸ map_name_addAllNamed keeps added
  placed key := by rw [table.index_eq_idxOf?, left, map_name_addAllNamed keeps]
  found entry mem := table.find?_of_mem mem
  missing key absent := by
    refine Option.eq_none_iff_forall_ne_some.mpr fun entry found => absent ?_
    obtain ⟨mem, rfl⟩ := table.mem_of_find?_eq_some found
    rw [← List.mem_eraseDups, ← map_name_addAllNamed keeps, ← left]
    exact List.mem_map_of_mem mem
  merged entry mem := by
    obtain ⟨first, later, all, rfl⟩ := exists_merged_of_mem_addAllNamed keeps (left ▸ mem)
    exact ⟨first, later, all, folded first later⟩

namespace Declarations

/-! ### Declarations of all kinds -/

/-- If a kind of declarations is added by name and the other kinds leave it alone, its entries are
what is left of the declarations of that kind. -/
theorem kind_ofList {α : Type} {name : α → String} {merge : α → α → α}
    {kind : Declarations → List α} {declared? : Declaration → Option α} (empty : kind {} = [])
    (adds : ∀ decls new, kind (decls.add new) = match declared? new with
      | some decl => addNamed name merge decl (kind decls)
      | none => kind decls)
    (list : List Declaration) :
    kind (ofList list) = addAllNamed name merge (list.filterMap declared?) := by
  induction list using List.reverseRecOn with
  | nil => exact empty
  | append_singleton list new ih =>
    rw [ofList, List.foldl_append, ← ofList, List.foldl_cons, List.foldl_nil, adds, ih,
      List.filterMap_append]
    cases declared : declared? new with
    | none => simp [declared]
    | some decl => simp [declared, addAllNamed_concat]

/-- The interfaces of a list of declarations are those in it, added one after the other. -/
theorem interfaces_ofList (list : List Declaration) :
    (ofList list).interfaces =
      addAllNamed (·.name) InterfaceDecl.merge (list.filterMap (·.interface?)) :=
  kind_ofList rfl (fun decls new => by
    cases new with
    | interface decl => exact decls.interfaceTable.entries_add InterfaceDecl.name_merge decl
    | typeAlias | «class» | enum => rfl) list

/-- The aliases of a list of declarations are those in it, added one after the other; the first of
each name stays. -/
theorem aliases_ofList (list : List Declaration) :
    (ofList list).aliases =
      addAllNamed (·.name) (fun first _ => first) (list.filterMap (·.alias?)) :=
  kind_ofList rfl (fun decls new => by
    cases new with
    | typeAlias decl => exact decls.aliasTable.entries_add (fun _ _ => rfl) decl
    | interface | «class» | enum => rfl) list

/-- The classes of a list of declarations are those in it, added one after the other. -/
theorem classes_ofList (list : List Declaration) :
    (ofList list).classes =
      addAllNamed (·.name) ClassDecl.merge (list.filterMap (·.class?)) :=
  kind_ofList rfl (fun decls new => by
    cases new with
    | «class» decl => exact decls.classTable.entries_add ClassDecl.name_merge decl
    | interface | typeAlias | enum => rfl) list

/-- The enumerations of a list of declarations are those in it, added one after the other. -/
theorem enums_ofList (list : List Declaration) :
    (ofList list).enums = addAllNamed (·.name) EnumDecl.merge (list.filterMap (·.enum?)) :=
  kind_ofList rfl (fun decls new => by
    cases new with
    | enum decl => exact decls.enumTable.entries_add EnumDecl.name_merge decl
    | interface | typeAlias | «class» => rfl) list

/-- Declarations are what is left of a list of them: of each kind the entries are made of those of
their kind, and the index of the kind leads to them. Of aliases with one name the first is left. -/
structure IsMergeOf (decls : Declarations) (list : List Declaration) : Prop where
  interfaces : AreMergedFrom (·.name) InterfaceDecl.MergedFrom (list.filterMap (·.interface?))
    decls.interfaces decls.interfaceTable.index decls.interface?
  aliases : AreMergedFrom (·.name) (fun merged first _ => merged = first)
    (list.filterMap (·.alias?)) decls.aliases decls.aliasTable.index decls.alias?
  classes : AreMergedFrom (·.name) ClassDecl.MergedFrom (list.filterMap (·.class?))
    decls.classes decls.classTable.index decls.class?
  enums : AreMergedFrom (·.name) EnumDecl.MergedFrom (list.filterMap (·.enum?))
    decls.enums decls.enumTable.index decls.enum?

section

variable (list : List Declaration)

/-- The interfaces of one name become one, with all their supertypes. -/
theorem areMergedFrom_interfaces :
    AreMergedFrom (·.name) InterfaceDecl.MergedFrom (list.filterMap (·.interface?))
      (ofList list).interfaces (ofList list).interfaceTable.index (ofList list).interface? :=
  areMergedFrom_of_entries InterfaceDecl.name_merge InterfaceDecl.mergedFrom_foldl
    (interfaces_ofList list)

/-- Of the aliases of one name the first is left. -/
theorem areMergedFrom_aliases :
    AreMergedFrom (·.name) (fun merged first _ => merged = first) (list.filterMap (·.alias?))
      (ofList list).aliases (ofList list).aliasTable.index (ofList list).alias? := by
  refine areMergedFrom_of_entries (fun _ _ => rfl) (fun first later => ?_) (aliases_ofList list)
  induction later with
  | nil => rfl
  | cons _ _ ih => exact ih

/-- The classes of one name become one. -/
theorem areMergedFrom_classes :
    AreMergedFrom (·.name) ClassDecl.MergedFrom (list.filterMap (·.class?)) (ofList list).classes
      (ofList list).classTable.index (ofList list).class? :=
  areMergedFrom_of_entries ClassDecl.name_merge ClassDecl.mergedFrom_foldl (classes_ofList list)

/-- The enumerations of one name become one. -/
theorem areMergedFrom_enums :
    AreMergedFrom (·.name) EnumDecl.MergedFrom (list.filterMap (·.enum?)) (ofList list).enums
      (ofList list).enumTable.index (ofList list).enum? :=
  areMergedFrom_of_entries EnumDecl.name_merge EnumDecl.mergedFrom_foldl (enums_ofList list)

/-- Whatever declarations are added in whatever order, those of one name become one, which is found
by the index of its kind. -/
theorem isMergeOf_ofList : (ofList list).IsMergeOf list where
  interfaces := areMergedFrom_interfaces list
  aliases := areMergedFrom_aliases list
  classes := areMergedFrom_classes list
  enums := areMergedFrom_enums list

end

end Declarations

end TypeAtlas
