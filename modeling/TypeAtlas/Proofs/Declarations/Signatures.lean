import TypeAtlas.Proofs.Declarations.Answers
import TypeAtlas.Proofs.Declarations.InheritedLast
import TypeAtlas.Proofs.Declarations.Merging
import TypeAtlas.Proofs.Types.Unambiguous

/-!
# The first signature of a method

A method is written with one signature at a time, and each further one of its name in the same body
is put after those that are there. Of all signatures of a method the first alone is marked as that
of its declaration. That is a law for all members, which the declarations of every tree obey
(`Source.marksFirst_declarationsOf`).

The first signature is also the one that was written first. A body keeps it at the front
(`Member.exists_written_of_mem_ofParts`), merging keeps the members of the first declaration that
has one of a name (`Declarations.exists_named?_of_mem_ofList`), and inheriting changes nothing but
types. Main statement: `Source.firstWritten_declarationsOf`.
-/

set_option autoImplicit false

namespace TypeAtlas

/-! ### Marks -/

/-- There is a first signature, which belongs to the declaration of the member, and none of the
others does. -/
def Signature.FirstMarked (signatures : List Signature) : Prop :=
  ∃ first rest, signatures = first :: rest ∧ first.ofMember = true ∧
    ∀ other ∈ rest, other.ofMember = false

/-- Of the signatures of a method the first alone is marked as that of its declaration. -/
def marksFirst : TypeLaw where
  shape _ := True
  form form := ∀ signatures, form = .method signatures → Signature.FirstMarked signatures

/-- That the first signature alone is marked is a lasting law: types that are put in change no
marks. -/
theorem TypeLaw.lasting_marksFirst : marksFirst.Lasting where
  keyword _ := trivial
  reference _ _ := trivial
  array _ := trivial
  function _ := trivial
  property _ _ other := by cases other
  getter _ _ other := by cases other
  setter _ _ other := by cases other
  method signature marked signatures same := by
    cases same
    exact ⟨signature, [], rfl, marked, List.forall_mem_nil _⟩
  overloaded signatures more marked all same := by
    cases same
    obtain ⟨first, rest, rfl, own, others⟩ := marked signatures rfl
    exact ⟨first, _, rfl, own,
      List.forall_mem_append.mpr ⟨others, List.forall_mem_map.mpr fun _ _ => rfl⟩⟩
  kept :=
    { shape := fun _ _ => trivial
      form := by
        intro form change marked signatures same
        cases form <;> cases same
        obtain ⟨first, rest, rfl, own, others⟩ := marked _ rfl
        exact ⟨first.mapTypes change, rest.map (·.mapTypes change), rfl, own,
          List.forall_mem_map.mpr others⟩
      parts := fun _ _ _ => trivial }
  union _ := trivial

/-- Every method in the declarations of every tree has a first signature that is marked, and no
other one is. -/
theorem Source.marksFirst_declarationsOf (tree : Node) (hops : Nat) :
    (declarationsOf tree hops).Obey marksFirst :=
  obey_declarationsOf TypeLaw.lasting_marksFirst (.of_forall (fun _ => trivial) tree) hops

/-! ### Bodies -/

/-- A form is that of a member as it was written, or, if that is a method, has further signatures
after those that were written. -/
inductive MemberForm.Continues : MemberForm → MemberForm → Prop
  | same (form : MemberForm) : Continues form form
  | overloaded (signatures more : List Signature) :
      Continues (.method (signatures ++ more)) (.method signatures)

/-- A form that continues another one continues what this continues. -/
theorem MemberForm.Continues.trans {form other written : MemberForm} (h : form.Continues other)
    (ho : other.Continues written) : form.Continues written := by
  cases ho with
  | same => exact h
  | overloaded signatures more =>
    generalize shape : MemberForm.method (signatures ++ more) = middle at h
    cases h with
    | same => exact shape ▸ .overloaded signatures more
    | overloaded _ further =>
      cases shape
      rw [List.append_assoc]
      exact .overloaded signatures (more ++ further)

/-- A method goes on with the signature it is written with. -/
theorem MemberForm.Continues.head_of_method {written : MemberForm} {signatures : List Signature}
    (h : (MemberForm.method signatures).Continues written)
    (single : ∀ all, written = .method all → ∃ signature, all = [signature]) :
    ∃ first rest, signatures = first :: rest ∧ written = .method [first] := by
  cases h with
  | same =>
    obtain ⟨signature, rfl⟩ := single _ rfl
    exact ⟨signature, [], rfl, rfl⟩
  | overloaded all more =>
    obtain ⟨signature, rfl⟩ := single _ rfl
    exact ⟨signature, more, rfl, rfl⟩

namespace Member

/-- An overload continues the form of the first declaration. -/
theorem continues_overloaded (first later : Member) :
    (first.overloaded later).form.Continues first.form := by
  unfold overloaded
  split
  · rename_i signatures more isMethod _
    rw [isMethod]
    exact .overloaded signatures _
  · exact .same _

/-- Several overloads one after the other continue the form of the first declaration. -/
theorem continues_foldl_overloaded (first : Member) (later : List Member) :
    (later.foldl overloaded first).form.Continues first.form := by
  induction later generalizing first with
  | nil => exact .same _
  | cons next rest ih => exact (ih _).trans (continues_overloaded first next)

/-- Members are made of parts as declarations are of a list: each name once, later parts as
overloads of the first. -/
theorem ofParts_eq (parts : List (Option Member)) :
    ofParts parts = addAllNamed (·.name) overloaded (parts.filterMap id) := by
  rw [ofParts, addAllNamed, List.foldl_filterMap]
  congr
  funext members part
  cases part with
  | none => rfl
  | some member => exact pushTo_eq member members

/-- A member of a body goes on with the first part of its name. -/
theorem exists_written_of_mem_ofParts {parts : List (Option Member)} {member : Member}
    (h : member ∈ ofParts parts) :
    ∃ written, named? (parts.filterMap id) member.name = some written ∧
      member.form.Continues written.form := by
  rw [ofParts_eq] at h
  obtain ⟨first, later, all, merged⟩ := exists_merged_of_mem_addAllNamed name_overloaded h
  refine ⟨first, ?_, merged ▸ continues_foldl_overloaded first later⟩
  rw [named?, ← List.head?_filter, all]
  rfl

/-- No member is found by a name exactly if none has it. -/
theorem named?_eq_none_iff {members : List Member} {name : String} :
    named? members name = none ↔ name ∉ members.map (·.name) := by
  simp [named?]

/-- A body has a member of each name that a part of it has. -/
theorem named?_ofParts_eq_none {parts : List (Option Member)} {name : String}
    (h : named? (ofParts parts) name = none) : named? (parts.filterMap id) name = none := by
  have names : (ofParts parts).map (·.name) = ((parts.filterMap id).map (·.name)).eraseDups := by
    rw [ofParts_eq]
    exact map_name_addAllNamed name_overloaded _
  rw [named?_eq_none_iff] at h ⊢
  rwa [names, List.mem_eraseDups] at h

end Member

/-! ### Declarations of one name -/

/-- Whether a name is declared as one kind of thing. -/
def Declaration.declares (kind : DeclarationKind) (name : String) (new : Declaration) : Bool :=
  new.kind == kind && new.name == name

/-- The members that the bodies of one name are written with, in the order of the source. The name
may be declared as other kinds of things as well, which are not looked at. -/
def Node.writtenMembers (tree : Node) (kind : DeclarationKind) (name : String) : List Member :=
  (tree.declaringNodes.filter fun node => node.toDeclaration?.any (·.declares kind name)).flatMap
    fun node => node.memberParts.filterMap id

/-- A name is looked for among the first members before the later ones. -/
theorem Member.named?_append (first later : List Member) (name : String) :
    named? (first ++ later) name = (named? first name).or (named? later name) :=
  List.find?_append

/-- What bodies of one name have as their first member of a name goes on with the first one that is
written. -/
theorem Node.exists_written (tree : Node) {kind : DeclarationKind} {owner name : String}
    {member : Member} (h : Member.named?
      ((tree.declarations.filter (·.declares kind owner)).flatMap (·.members)) name = some member) :
    ∃ written, Member.named? (tree.writtenMembers kind owner) name = some written ∧
      member.form.Continues written.form := by
  rw [declarations_eq] at h
  unfold writtenMembers
  generalize tree.declaringNodes = nodes at h ⊢
  -- Both lists leave out the same nodes, and where the first body is without the name the search goes
  -- on in the same rest.
  induction nodes with
  | nil => cases h
  | cons node rest ih =>
    cases made : node.toDeclaration? with
    | none =>
      rw [List.filterMap_cons_none made] at h
      rw [List.filter_cons_of_neg (by simp [made])]
      exact ih h
    | some new =>
      rw [List.filterMap_cons_some made] at h
      by_cases declares : new.declares kind owner
      · rw [List.filter_cons_of_pos declares, List.flatMap_cons, Member.named?_append] at h
        rw [List.filter_cons_of_pos (by simpa [made]), List.flatMap_cons, Member.named?_append]
        rw [members_of_toDeclaration? made] at h
        cases here : Member.named? (Member.ofParts node.memberParts) name with
        | some own =>
          rw [here] at h
          obtain rfl : own = member := Option.some.inj h
          obtain rfl : own.name = name := by simpa using List.find?_some here
          obtain ⟨written, first, continues⟩ :=
            Member.exists_written_of_mem_ofParts (List.mem_of_find?_eq_some here)
          exact ⟨written, by rw [first]; rfl, continues⟩
        | none =>
          rw [here, Option.none_or] at h
          rw [Member.named?_ofParts_eq_none here, Option.none_or]
          exact ih h
      · rw [List.filter_cons_of_neg declares] at h
        rw [List.filter_cons_of_neg (by simpa [made] using declares)]
        exact ih h

namespace Declarations

/-- A member of declarations of one name has the form that the first of its name has among their
members. -/
theorem exists_named?_of_mem_ofDeclarations {first : List Member} {later : List (List Member)}
    (distinct : (first.map (·.name)).Nodup) {member : Member}
    (h : member ∈ Member.ofDeclarations first later) :
    ∃ written, Member.named? (first ++ later.flatten) member.name = some written ∧
      member.form = written.form := by
  rw [Member.ofDeclarations, ← Member.newMembers_eq] at h
  rcases List.mem_append.mp h with own | merged
  · have found : Member.named? first member.name = some member :=
      find?_eq_some_of_mem distinct own
    exact ⟨member, by rw [Member.named?_append, found]; rfl, rfl⟩
  · obtain ⟨written, new, rfl⟩ := List.mem_map.mp merged
    obtain ⟨found, free⟩ := Member.named?_newMembers new
    exact ⟨written, by rwa [Member.named?_append, Member.named?_eq_none_iff.mpr free], rfl⟩

/-- The declarations of one kind and one name, taken as such or as declarations of any kind. -/
theorem map_filter_filterMap {α : Type} {declared? : Declaration → Option α}
    {make : α → Declaration}
    {kind : DeclarationKind}
    (declared : ∀ new, (declared? new).map make = if new.kind = kind then some new else none)
    (list : List Declaration) (name : String) :
    ((list.filterMap declared?).filter fun decl => (make decl).name == name).map make =
      list.filter (·.declares kind name) := by
  induction list with
  | nil => rfl
  | cons new rest ih =>
    have here := declared new
    split_ifs at here with same
    · obtain ⟨decl, found, rfl⟩ := Option.map_eq_some_iff.mp here
      rw [List.filterMap_cons_some found, List.filter_cons, List.filter_cons]
      have declares : (make decl).declares kind name = ((make decl).name == name) := by
        simp [Declaration.declares, same]
      rw [declares]
      split_ifs
      · rw [List.map_cons, ih]
      · exact ih
    · rw [List.filterMap_cons_none (Option.map_eq_none_iff.mp here), ih,
        List.filter_cons_of_neg (by simp [Declaration.declares, same])]

section merged

variable (list : List Declaration) (name : String)

/-- The interfaces of a name in a list are the declarations that declare the name as an
interface. -/
theorem filter_interfaces :
    ((list.filterMap (·.interface?)).filter fun decl => decl.name == name).map .interface =
      list.filter (·.declares .interfaceDecl name) :=
  map_filter_filterMap (fun new => by cases new <;> rfl) list name

/-- The aliases of a name in a list are the declarations that declare the name as an alias. -/
theorem filter_aliases :
    ((list.filterMap (·.alias?)).filter fun decl => decl.name == name).map .typeAlias =
      list.filter (·.declares .aliasDecl name) :=
  map_filter_filterMap (fun new => by cases new <;> rfl) list name

/-- The classes of a name in a list are the declarations that declare the name as a class. -/
theorem filter_classes :
    ((list.filterMap (·.class?)).filter fun decl => decl.name == name).map .class =
      list.filter (·.declares .classDecl name) :=
  map_filter_filterMap (fun new => by cases new <;> rfl) list name

variable {list}

/-- A declaration that is left of a list has the members that the first ones of their names are
among those of the declarations that were merged. -/
theorem exists_named?_of_mem_ofList (distinct : ∀ new ∈ list, (new.members.map (·.name)).Nodup)
    {entry : Declaration} (has : (ofList list).Has entry) {member : Member}
    (mem : member ∈ entry.members) :
    ∃ written, Member.named?
        ((list.filter (·.declares entry.kind entry.name)).flatMap (·.members)) member.name =
          some written ∧
      member.form = written.form := by
  -- the first declaration of the name is one of the list
  have among {first : Declaration} {later : List Declaration} {kind : DeclarationKind}
      (all : first :: later = list.filter (·.declares kind entry.name)) :
      (first.members.map (·.name)).Nodup :=
    distinct first (List.mem_of_mem_filter (all ▸ List.mem_cons_self))
  cases entry with
  | interface decl =>
    obtain ⟨first, later, all, merged⟩ := (areMergedFrom_interfaces list).merged decl has
    have same := filter_interfaces list decl.name
    have inside : member ∈ decl.members := mem
    rw [all] at same
    rw [merged.members] at inside
    rw [Declaration.kind, Declaration.name, ← same, List.map_cons, List.flatMap_cons,
      List.flatMap_map, List.flatMap_def]
    exact exists_named?_of_mem_ofDeclarations (among same) inside
  | typeAlias decl =>
    obtain ⟨first, later, all, rfl⟩ := (areMergedFrom_aliases list).merged decl has
    have same := filter_aliases list decl.name
    rw [all] at same
    have found : Member.named? (Declaration.typeAlias decl).members member.name = some member :=
      find?_eq_some_of_mem (among same) mem
    refine ⟨member, ?_, rfl⟩
    rw [Declaration.kind, Declaration.name, ← same, List.map_cons, List.flatMap_cons,
      Member.named?_append, found]
    rfl
  | «class» decl =>
    obtain ⟨first, later, all, merged⟩ := (areMergedFrom_classes list).merged decl has
    have same := filter_classes list decl.name
    have inside : member ∈ decl.members := mem
    rw [all] at same
    rw [merged.members] at inside
    rw [Declaration.kind, Declaration.name, ← same, List.map_cons, List.flatMap_cons,
      List.flatMap_map, List.flatMap_def]
    exact exists_named?_of_mem_ofDeclarations (among same) inside
  | enum decl => cases mem

end merged

end Declarations

/-! ### First signatures -/

/-- The first member of a name, where a declaration of some kind is written, is a method with this
signature. -/
def Node.Introduces (tree : Node) (kind : DeclarationKind) (owner name : String)
    (signature : Signature) : Prop :=
  ∃ written, Member.named? (tree.writtenMembers kind owner) name = some written ∧
    written.form = .method [signature]

/-- A member that a part declares has one signature at most. -/
def Member.IsSingle (member : Member) : Prop :=
  ∀ signatures, member.form = .method signatures → ∃ signature, signatures = [signature]

namespace Node

/-- A method that a node declares has one signature. -/
theorem isSingle_of_toMethod? {node : Node} {signature : Signature} {member : Member}
    (h : node.toMethod? signature = some member) : member.IsSingle := by
  intro signatures isMethod
  have form := form_of_toMember? h
  rw [isMethod] at form
  split_ifs at form
  all_goals
    cases form
    exact ⟨_, rfl⟩

/-- A property has no signatures, so one at most. -/
theorem isSingle_of_toMember?_property {node : Node} {type : Option TypeExpr} {member : Member}
    (h : node.toMember? (.property type) = some member) : member.IsSingle := by
  intro signatures isMethod
  rw [form_of_toMember? h] at isMethod
  cases isMethod

/-- A part of an object type declares a member with one signature at most. -/
theorem isSingle_of_toObjectMember? {node : Node} {member : Member}
    (h : node.toObjectMember? = some member) : member.IsSingle := by
  rw [toObjectMember?] at h
  split at h
  · exact isSingle_of_toMember?_property h
  · exact isSingle_of_toMethod? h
  · cases h

/-- A part of the body of a class declares members with one signature at most. -/
theorem isSingle_of_mem_toClassMembers {node : Node} {member : Member}
    (h : some member ∈ node.toClassMembers) : member.IsSingle := by
  unfold toClassMembers at h
  split at h
  · cases h
  · split at h
    case h_1 => exact isSingle_of_toMember?_property (List.mem_singleton.mp h).symm
    case h_2 =>
      split_ifs at h
      · unfold parameterProperties at h
        split at h
        · cases h
        · obtain ⟨child, _, same⟩ := List.mem_map.mp h
          simp only at same
          split_ifs at same
          obtain ⟨parameter, _, rfl⟩ := Option.map_eq_some_iff.mp same
          intro signatures isMethod
          cases isMethod
      · exact isSingle_of_toMethod? (List.mem_singleton.mp h).symm
    case h_3 | h_4 => exact isSingle_of_toMethod? (List.mem_singleton.mp h).symm
    case h_5 => cases h

variable {tree : Node}

/-- Every member that bodies are written with has one signature at most. -/
theorem isSingle_of_mem_writtenMembers {kind : DeclarationKind} {owner : String} :
    ∀ member ∈ tree.writtenMembers kind owner, member.IsSingle := by
  intro member mem
  obtain ⟨node, _, inside⟩ := List.mem_flatMap.mp mem
  obtain ⟨part, listed, same⟩ := List.mem_filterMap.mp inside
  obtain rfl : part = some member := same
  exact forall_mem_memberParts (fun _ _ => isSingle_of_toObjectMember?)
    (fun _ _ => isSingle_of_mem_toClassMembers) member listed

/-- A method of a declaration has as its first signature the one that was written first. -/
theorem introduces_of_mem_ofList {entry : Declaration}
    (has : (Declarations.ofList tree.declarations).Has entry) {member : Member}
    (mem : member ∈ entry.members) {signatures : List Signature}
    (isMethod : member.form = .method signatures) :
    ∃ first rest, signatures = first :: rest ∧
      tree.Introduces entry.kind entry.name member.name first := by
  have distinct : ∀ new ∈ tree.declarations, (new.members.map (·.name)).Nodup := by
    intro new listed
    obtain ⟨node, _, made⟩ := exists_of_mem_declarations listed
    rw [members_of_toDeclaration? made]
    exact Member.nodup_map_name_ofParts _
  obtain ⟨merged, found, sameForm⟩ := Declarations.exists_named?_of_mem_ofList distinct has mem
  obtain ⟨written, first, continues⟩ := tree.exists_written found
  rw [← sameForm, isMethod] at continues
  obtain ⟨signature, rest, all, single⟩ := continues.head_of_method
    (isSingle_of_mem_writtenMembers written (List.mem_of_find?_eq_some first))
  exact ⟨signature, rest, all, written, first, single⟩

end Node

namespace Declarations

variable {decls : Declarations}

/-- As long as nothing has been inherited, all members of a declaration are its own. -/
theorem Fresh.members (h : decls.Fresh) {entry : Declaration} (has : decls.Has entry) :
    Member.NoneInherited entry.members := by
  cases entry with
  | interface decl => exact h.interfaces decl has
  | typeAlias decl =>
    simp only [Declaration.members]
    split
    · exact h.aliases decl has _ _ (by assumption)
    · exact Member.noneInherited_nil
  | «class» decl => exact h.classes decl has
  | enum decl => exact Member.noneInherited_nil

end Declarations

/-- The signature of a member is the first one it is written with: in the declarations of its name,
or in those of the supertype that passes it on, with arguments in place of type parameters. -/
inductive Node.FirstWritten (tree : Node) (kind : DeclarationKind) (name : String)
    (bases : List TypeExpr) (member : Member) : Signature → Prop
  | own {signature : Signature} (fresh : member.isInherited = false)
      (introduced : tree.Introduces kind name member.name signature) :
      FirstWritten tree kind name bases member signature
  | inherited {ancestor : Ancestor} {signature : Signature}
      (above : ancestor ∈ (Declarations.ofList tree.declarations).ancestors bases [name])
      (origin : member.origin = .inherited ancestor.name)
      (introduced : tree.Introduces
        ((Declarations.ofList tree.declarations).passingKind ancestor.name) ancestor.name
        member.name signature) :
      FirstWritten tree kind name bases member (signature.mapTypes ancestor.bindings.inside)

/-- An inherited member has the form that it had, with the arguments in place. -/
theorem Member.form_inheritedFrom (owner : String) (bindings : Bindings) (member : Member) :
    (member.inheritedFrom owner bindings).form = member.form.mapTypes bindings.inside := by
  unfold inheritedFrom
  simp only [substitute_eq]
  split_ifs <;> rfl

namespace Node

variable {tree : Node}

/-- The signatures of an inherited method start with the first one that the supertype it comes from
is written with. -/
theorem firstWritten_of_mem_inheritedMembers (kind : DeclarationKind) {name : String}
    {bases : List TypeExpr} {member : Member}
    (mem : member ∈ (Declarations.ofList tree.declarations).inheritedMembers name bases)
    {signatures : List Signature} (isMethod : member.form = .method signatures) :
    ∃ first rest, signatures = first :: rest ∧ tree.FirstWritten kind name bases member first := by
  have fresh := Declarations.fresh_ofList_declarations tree
  obtain ⟨ancestor, above, passed⟩ := List.mem_flatMap.mp mem
  obtain ⟨written, listed, rfl⟩ := List.mem_map.mp passed
  obtain ⟨owner, has, ofKind, named, inside⟩ := Declarations.exists_of_mem_bequest listed
  rw [Member.form_inheritedFrom] at isMethod
  cases form : written.form with
  | method all =>
    rw [form] at isMethod
    cases isMethod
    obtain ⟨signature, rest, rfl, introduced⟩ := introduces_of_mem_ofList has inside form
    rw [ofKind, named] at introduced
    refine ⟨_, _, rfl, .inherited above ?_ ?_⟩
    · exact (Member.inheritedAs_inheritedFrom (fresh.members has written inside) _ _).origin
    · rwa [Member.name_inheritedFrom]
  | property | getter | setter =>
    rw [form] at isMethod
    cases isMethod

/-- With all that is inherited, a method of a declaration has as its first signature the one that
was written first. -/
theorem firstWritten_of_mem_append {entry : Declaration}
    (has : (Declarations.ofList tree.declarations).Has entry) {member : Member}
    (mem : member ∈ Member.append entry.members
      ((Declarations.ofList tree.declarations).inheritedMembers entry.name entry.bases))
    {signatures : List Signature} (isMethod : member.form = .method signatures) :
    ∃ first rest, signatures = first :: rest ∧
      tree.FirstWritten entry.kind entry.name entry.bases member first := by
  rw [Member.append_eq] at mem
  rcases List.mem_append.mp mem with own | added
  · have fresh := (Declarations.fresh_ofList_declarations tree).members has
    obtain ⟨first, rest, all, introduced⟩ := introduces_of_mem_ofList has own isMethod
    exact ⟨first, rest, all, .own (fresh member own) introduced⟩
  · exact firstWritten_of_mem_inheritedMembers entry.kind
      (List.mem_of_find?_eq_some (Member.named?_newMembers added).1) isMethod

end Node

/-- In the declarations of every tree, a method has as its first signature the one that was written
first. -/
theorem Source.firstWritten_declarationsOf {tree : Node} {hops : Nat} {entry : Declaration}
    (has : (declarationsOf tree hops).Has entry) {member : Member} (mem : member ∈ entry.members)
    {signatures : List Signature} (isMethod : member.form = .method signatures) :
    ∃ first rest, signatures = first :: rest ∧
      tree.FirstWritten entry.kind entry.name entry.bases member first := by
  cases entry with
  | interface decl =>
    obtain ⟨own, listed, rfl⟩ := List.mem_map.mp has
    have written : (Declarations.ofList tree.declarations).Has (.interface own) := listed
    exact Node.firstWritten_of_mem_append written mem isMethod
  | typeAlias decl =>
    obtain ⟨own, listed, rfl⟩ := List.mem_map.mp has
    have written : (Declarations.ofList tree.declarations).Has (.typeAlias own) := listed
    exact Node.firstWritten_of_mem_append written
      (by rw [Member.append_eq]; exact List.mem_append_left _ mem) isMethod
  | «class» decl =>
    obtain ⟨own, listed, rfl⟩ := List.mem_map.mp has
    have written : (Declarations.ofList tree.declarations).Has (.class own) := listed
    exact Node.firstWritten_of_mem_append written mem isMethod
  | enum decl => cases mem

/-- The declarations of a text are those of its tree. -/
theorem Source.declarations_read (text : String) (aliasDepth : Nat) :
    (read text aliasDepth).declarations =
      declarationsOf (read text aliasDepth).tree (read text aliasDepth).hops := by
  rw [read]

end TypeAtlas
