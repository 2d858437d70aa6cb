import Mathlib
import TypeAtlas.Proofs.Declarations.Flat
import TypeAtlas.Proofs.Model.Candidates
import TypeAtlas.Proofs.Model.Classes

/-!
# The alternatives of unions

The operands of a union are looked at one by one when a model is made, and an operand that is a
union itself is shown as its text. So the models among its own operands go unnoticed, unless the
operands are all the alternatives there are (`TypeExpr.alternatives`), which they are in flat types.

Main statement: `Model.meetAlternatives_ofTree`. Declarations are flat, and their models meet all
alternatives, if no union is written in a union and none comes to take the place of a type parameter
that is an operand. Neither condition can be dropped: parentheses keep a union in a union
(`Model.not_flat_nested`), and so does an argument that is a union (`Model.not_flat_spread`).
-/

set_option autoImplicit false

namespace TypeAtlas

/-! ### Alternatives -/

mutual

/-- The types that are left when all unions in a union are opened up. A type that is no union is its
own only alternative. -/
def TypeExpr.alternatives : TypeExpr → List TypeExpr
  | ⟨.union items, _⟩ => alternativesOf items
  | type => [type]

/-- The alternatives of several types, one after the other. -/
def alternativesOf : List TypeExpr → List TypeExpr
  | [] => []
  | type :: types => type.alternatives ++ alternativesOf types

end

namespace TypeExpr

/-- The operands of a type are those of a union. -/
theorem operands?_eq (type : TypeExpr) :
    type.operands? = Connective.union.operands? type.shape := by
  unfold operands? Connective.operands?
  cases type.shape <;> rfl

/-- A type that is no union is its own only alternative. -/
theorem alternatives_of_operands?_eq_none {type : TypeExpr} (h : type.operands? = none) :
    type.alternatives = [type] := by
  obtain ⟨shape, text⟩ := type
  cases shape <;> first | rfl | cases h

/-- Types that are no unions are their own alternatives. -/
theorem alternativesOf_eq_self :
    {types : List TypeExpr} → (∀ type ∈ types, type.operands? = none) → alternativesOf types = types
  | [], _ => rfl
  | type :: types, plain => by
    obtain ⟨first, rest⟩ := List.forall_mem_cons.mp plain
    rw [alternativesOf, alternatives_of_operands?_eq_none first, alternativesOf_eq_self rest]
    rfl

/-- The operands of a flat union are all its alternatives. -/
theorem alternatives_of_operands? {type : TypeExpr} (flat : (flat .union).shape type.shape)
    {items : List TypeExpr} (h : type.operands? = some items) : type.alternatives = items := by
  have plain : ∀ item ∈ items, item.operands? = none := fun item mem => by
    rw [operands?_eq] at h ⊢
    exact flat items h item mem
  obtain ⟨shape, text⟩ := type
  cases shape <;> cases h
  exact alternativesOf_eq_self plain

end TypeExpr

namespace Extraction

variable (extraction : Extraction)

/-- The operands of a union are all its alternatives. A field for it shows them one by one if one of
them names a model, and each model that one of them names is a dependency. -/
structure MeetsAlternatives (type : TypeExpr) (operands : List TypeExpr) (field : SchemaField)
    (dependencies : List String) : Prop where
  alternatives : type.alternatives = operands
  shown : (∃ alternative ∈ type.alternatives, (extraction.model? alternative).isSome) →
    field.shape = .union (operands.map extraction.refOf)
  registered : ∀ alternative ∈ type.alternatives, ∀ id ∈ extraction.model? alternative,
    id ∈ dependencies

/-- A union with an operand that names a model is shown operand by operand. -/
theorem shape_of_operands? {type : TypeExpr} {field : SchemaField}
    (shown : field.shape = extraction.shapeOf type ∨ field.shape = extraction.aliasShapeOf type)
    {items : List TypeExpr} (h : type.operands? = some items)
    (named : ∃ item ∈ items, (extraction.model? item).isSome) :
    field.shape = .union (items.map extraction.refOf) := by
  rcases extraction.shape_of_items shown h with ⟨none, -⟩ | union
  · obtain ⟨item, mem, some⟩ := named
    rw [none item mem] at some
    cases some
  · exact union

/-- What the fields of a candidate refer to are dependencies of its model. -/
theorem models_subset_dependencies {candidate : Candidate} {field : SchemaField}
    (mem : field ∈ extraction.schemaOf candidate) :
    field.shape.models ⊆ (extraction.modelOf candidate).dependencies := by
  intro id named
  rw [dependencies_modelOf, List.mem_eraseDups, referencesOf]
  exact List.mem_append_right _
    ((extraction.fieldsShow_schemaOf candidate).models_subset mem named)

/-- Where the types of fields are flat, the fields meet all alternatives. -/
theorem meetsAlternatives {candidate : Candidate}
    (flat : ∀ type ∈ extraction.fieldTypes candidate, (flat .union).shape type.shape) :
    List.Forall₂ (fun type field => ∀ operands, type.operands? = some operands →
        extraction.MeetsAlternatives type operands field
          (extraction.modelOf candidate).dependencies)
      (extraction.fieldTypes candidate) (extraction.modelOf candidate).schema := by
  obtain ⟨lengths, shown⟩ := List.forall₂_iff_zip.mp (extraction.forall₂_schemaOf candidate)
  rw [schema_modelOf]
  refine List.forall₂_iff_zip.mpr ⟨lengths, fun {type field} both operands h => ?_⟩
  obtain ⟨mem, listed⟩ := List.of_mem_zip both
  have alternatives := TypeExpr.alternatives_of_operands? (flat type mem) h
  refine ⟨alternatives, fun named => ?_, fun alternative among id named => ?_⟩
  · exact extraction.shape_of_operands? (shown both) h (alternatives ▸ named)
  · rw [alternatives] at among
    have shape := extraction.shape_of_operands? (shown both) h
      ⟨alternative, among, Option.isSome_of_mem named⟩
    refine extraction.models_subset_dependencies listed ?_
    rw [shape]
    refine List.mem_filterMap.mpr ⟨extraction.refOf alternative, List.mem_map_of_mem among, ?_⟩
    rw [model?_refOf]
    exact named

/-- The types of the fields of flat declarations are flat. -/
theorem flat_of_mem_fieldTypes {candidate : Candidate}
    (members : ∀ member ∈ candidate.declaration.members, member.Obeys (flat .union))
    (declared : ∀ decl, candidate = .typeAlias decl → decl.declared.Obeys (flat .union))
    (accessed : ∀ decl, candidate = .typeAlias decl →
      ∀ value ∈ extraction.scope.access? decl.declared, value.Obeys (flat .union)) :
    ∀ type ∈ extraction.fieldTypes candidate, (flat .union).shape type.shape := by
  refine extraction.forall_mem_fieldTypes (fun member mem => ?_)
    (fun decl same => (TypeExpr.obeys_iff.mp (declared decl same)).1)
    fun decl same value made => (TypeExpr.obeys_iff.mp (accessed decl same value made)).1
  have own : member.form.Obeys (flat .union) := members member mem
  unfold fieldType
  split
  · rename_i type form
    cases type with
    | none => exact (modest_flat .union).keyword _
    | some type =>
      rw [form, MemberForm.obeys_property] at own
      exact (TypeExpr.obeys_iff.mp (own.2 type rfl)).1
  all_goals exact (modest_flat .union).function _

end Extraction

namespace Model

/-- There is one model for each candidate, in order, and it meets all alternatives of the unions
that its fields are of. -/
def MeetAlternatives (extraction : Extraction) (candidates : List Extraction.Candidate)
    (models : List Model) : Prop :=
  List.Forall₂ (fun candidate model => model.id = candidate.name ∧
      List.Forall₂ (fun type field => ∀ operands, type.operands? = some operands →
          extraction.MeetsAlternatives type operands field model.dependencies)
        (extraction.fieldTypes candidate) model.schema)
    candidates models

/-- For every tree, be it that of a text or not: where no union is written in a union, and none is
put in place of a type parameter that is an operand of one, no operand of a union in the
declarations is a union, no operand of an intersection is an intersection, and the models meet all
alternatives of unions. -/
theorem meetAlternatives_ofTree {tree : Node} (written : tree.All Node.Flat)
    (contained : ∀ connective, ∃ admits wide,
      (Declarations.ofList tree.declarations).Contained connective admits wide)
    (hops : Nat) (config : ExtractConfig) :
    (∀ connective, (Source.declarationsOf tree hops).Obey (flat connective)) ∧
      MeetAlternatives (extraction ⟨Source.declarationsOf tree hops, hops⟩ config)
        (chosen ⟨Source.declarationsOf tree hops, hops⟩ config)
        (ofScope ⟨Source.declarationsOf tree hops, hops⟩ config) := by
  refine ⟨fun connective => ?_, ?_⟩
  · obtain ⟨admits, wide, within⟩ := contained connective
    exact (Source.flat_declarationsOf written within hops).1
  · obtain ⟨admits, wide, within⟩ := contained .union
    obtain ⟨lawful, within⟩ := Source.flat_declarationsOf written within hops
    rw [MeetAlternatives, ofScope_eq, extracted, List.map_map, List.forall₂_map_right_iff,
      List.forall₂_same]
    intro candidate mem
    have has := has_of_mem_chosen mem
    refine ⟨rfl, (extraction _ config).meetsAlternatives
      ((extraction _ config).flat_of_mem_fieldTypes (lawful.members has) ?_ ?_)⟩
    · rintro decl rfl
      exact (lawful.aliases decl has).declared
    · rintro decl rfl
      exact within.obeys_access lawful hops has

end Model

/-! ### Programs -/

/-- Where nothing is inherited, a tree declares what it is read as, with aliases expanded. -/
theorem Source.declarationsOf_of_read {tree : Node} {decls : Declarations} (hops : Nat)
    (read : Declarations.ofList tree.declarations = decls)
    (interfaces : decls.withInheritance.interfaces = decls.interfaces)
    (classes : decls.withInheritance.classes = decls.classes) :
    declarationsOf tree hops = decls.withExpandedAliases hops := by
  have inherited : decls.withInheritance = decls :=
    Declarations.ext_entries interfaces rfl classes rfl
  rw [declarationsOf, read, inherited]

namespace Node

/-- A node with parts, wherever it is written. -/
def group (kind : Kind) (role : Option Role) (text : String) (children : List Node) : Node :=
  ⟨kind, role, default, text, false, children⟩

/-- A node without parts. -/
def word (kind : Kind) (role : Option Role) (text : String) : Node := group kind role text []

/-- The node of a name that is used as a type. -/
def typeWord (name : String) : Node := word .typeIdentifier none name

/-- The node of a string that is used as a type. -/
def textWord (spelling : String) : Node :=
  group .literalType none spelling [word .string none spelling]

/-- The name, the type parameters and the body of an interface, with what is between them. -/
def interfaceOf (name : String) (head body : List Node) : Node :=
  group .interfaceDeclaration none "" (word .typeIdentifier (some .name) name ::
    (head ++ [group .interfaceBody (some .body) "" body]))

/-- The node of a property with a type. -/
def propertyOf (name : String) (type : Node) : Node :=
  group .propertySignature none ""
    [word .propertyIdentifier (some .name) name, group .typeAscription (some .type) "" [type]]

/-- The type parameters of a declaration: one with a name. -/
def typeParameter (name : String) : Node :=
  group .typeParameters (some .typeParameters) ""
    [group .typeParameter none name [word .typeIdentifier (some .name) name]]

/-- The name, the type parameters and the value of an alias. -/
def aliasOf (name : String) (head : List Node) (value : Node) : Node :=
  group .typeAliasDeclaration none ""
    (word .typeIdentifier (some .name) name :: (head ++ [value]))

/-- An interface `A`, a generic one `Box<T>` with the property `value: T`, one `C` that extends
`Box<A | null>`, and the alias `type U = A | C`. -/
def boxed : Node :=
  group .program none ""
    [interfaceOf "A" [] [],
      interfaceOf "Box" [typeParameter "T"]
        [group .propertySignature none ""
          [word .propertyIdentifier (some .name) "value",
            group .typeAscription (some .type) "" [typeWord "T"]]],
      interfaceOf "C"
        [group .extendsTypeClause none ""
          [group .genericType (some .type) "Box<A | null>"
            [word .typeIdentifier (some .name) "Box",
              group .typeArguments (some .typeArguments) ""
                [group .unionType none "A | null"
                  [typeWord "A", group .literalType none "null" [word .null none "null"]]]]]] [],
      aliasOf "U" [] (group .unionType (some .value) "A | C" [typeWord "A", typeWord "C"])]

/-- The declarations of the program are those that are written in it. -/
theorem ofList_declarations_boxed :
    (Declarations.ofList boxed.declarations).interfaces =
        [⟨"A", default, [], [], []⟩,
          ⟨"Box", default, [⟨"T", none, none⟩], [],
            [⟨"value", false, false, .property (some ⟨.reference "T" [], "T"⟩), default, .own⟩]⟩,
          ⟨"C", default, [], [⟨.reference "Box" [⟨.union [⟨.reference "A" [], "A"⟩,
            ⟨.keyword "null", "null"⟩], "A | null"⟩], "Box<A | null>"⟩], []⟩] ∧
      (Declarations.ofList boxed.declarations).aliases =
        [⟨"U", default, [],
          ⟨.union [⟨.reference "A" [], "A"⟩, ⟨.reference "C" [], "C"⟩], "A | C"⟩,
          ⟨.union [⟨.reference "A" [], "A"⟩, ⟨.reference "C" [], "C"⟩], "A | C"⟩⟩] ∧
      (Declarations.ofList boxed.declarations).classes = [] := by
  exact ⟨by cbv, by cbv, by cbv⟩

/-- Unions may be put in place of the type parameter of `Box`, which is no operand of one. -/
theorem contained_boxed (connective : Connective) :
    (Declarations.ofList boxed.declarations).Contained connective
      (fun owner place => owner = "Box" ∧ place = 0)
      (fun owner name => owner = "Box" ∧ name = "T") := by
  have union {width : Width} {items : List TypeExpr} {text : String}
      (plain : ∀ item ∈ items, item.shape.parts = [] ∧ ¬ item.Spreads connective width) :
      (TypeExpr.mk (.union items) text).Contained connective
        (fun owner place => owner = "Box" ∧ place = 0) width :=
    .of_union rfl (fun item mem => (plain item mem).2) fun item mem =>
      .of_parts_eq_nil (plain item mem).1
  have narrow (entry : Declaration) (name text : String) (other : name ≠ "T") :
      ¬ (TypeExpr.mk (.reference name []) text).Spreads connective
        (entry.width fun owner name => owner = "Box" ∧ name = "T") := by
    rw [TypeExpr.spreads_iff_of_reference rfl]
    rintro ⟨⟨_, _, same⟩, _⟩
    exact other same
  have word (width : Width) (word text : String) :
      ¬ (TypeExpr.mk (.keyword word) text).Spreads connective width := by
    rintro (combined | ⟨_, same, _⟩)
    · cases connective <;> cases combined
    · cases same
  obtain ⟨interfaces, aliases, classes⟩ := ofList_declarations_boxed
  refine ⟨?_, ?_, ?_, ?_, ?_, ?_⟩
  · simp [Declarations.forall_has_iff, interfaces, aliases, classes, Declaration.typeParameters,
      Declaration.name, List.getElem?_cons]
  · simp [Declarations.forall_has_iff, interfaces, aliases, classes, Declaration.typeParameters]
  · simp only [Declarations.forall_has_iff, interfaces, aliases, classes, Declaration.bases, List.forall_mem_cons,
      List.not_mem_nil, false_implies, implies_true, and_true, true_and]
    refine .of_reference rfl (fun place argument found _ => ?_) (List.forall_mem_singleton.mpr
      (union ?_))
    · cases place with
      | zero => exact ⟨rfl, rfl⟩
      | succ place => cases found
    · exact List.forall_mem_cons.mpr ⟨⟨rfl, narrow _ _ _ (by decide)⟩,
        List.forall_mem_singleton.mpr ⟨rfl, word _ _ _⟩⟩
  · simp only [interfaces, Member.Contained, Member.parts, MemberForm.parts, List.forall_mem_cons,
      List.not_mem_nil, false_implies, implies_true, and_true, true_and]
    exact List.forall_mem_singleton.mpr (.of_parts_eq_nil rfl)
  · rw [aliases]
    exact List.forall_mem_singleton.mpr (union (List.forall_mem_cons.mpr
      ⟨⟨rfl, narrow _ _ _ (by decide)⟩, List.forall_mem_singleton.mpr
        ⟨rfl, narrow _ _ _ (by decide)⟩⟩))
  · rw [classes]
    exact List.forall_mem_nil _

end Node

namespace Model

/-- The source with a generic interface and a union meets the conditions, and its models meet all
alternatives. -/
theorem meetAlternatives_boxed :
    Node.boxed.All Node.Flat ∧
      (∀ connective, (Source.declarationsOf Node.boxed 32).Obey (flat connective)) ∧
        MeetAlternatives (extraction ⟨Source.declarationsOf Node.boxed 32, 32⟩ {})
          (chosen ⟨Source.declarationsOf Node.boxed 32, 32⟩ {})
          (ofScope ⟨Source.declarationsOf Node.boxed 32, 32⟩ {}) := by
  have written : Node.boxed.All Node.Flat := Node.every_isFlat_iff.mp (by cbv)
  exact ⟨written, meetAlternatives_ofTree written
    (fun connective => ⟨_, _, Node.contained_boxed connective⟩) 32 {}⟩

end Model

/-! ### Unions in unions -/

/-- Declarations are not flat if an alias stands for a union with a union in it. -/
theorem Declarations.not_obey_flat {decls : Declarations} {decl : AliasDecl}
    (mem : decl ∈ decls.aliases) {items : List TypeExpr}
    (shape : decl.expanded.shape = .union items)
    {item : TypeExpr} (inside : item ∈ items) (union : item.operands?.isSome) :
    ¬ decls.Obey (flat .union) := by
  intro h
  have lawful := (TypeExpr.obeys_iff.mp (h.aliases decl mem).expanded).1
  rw [shape] at lawful
  rw [TypeExpr.operands?_eq, lawful items rfl item inside] at union
  cases union

namespace Node

/-- Three interfaces `A`, `B` and `C`, and the alias `type U = A | (B | C)`. -/
def nested : Node :=
  group .program none ""
    [interfaceOf "A" [] [], interfaceOf "B" [] [], interfaceOf "C" [] [],
      aliasOf "U" [] (group .unionType (some .value) "A | (B | C)"
        [typeWord "A", group .parenthesizedType none "(B | C)"
          [group .unionType none "B | C" [typeWord "B", typeWord "C"]]])]

/-- The type `A | (B | C)`, as it is read. -/
def nestedUnion : TypeExpr :=
  ⟨.union [⟨.reference "A" [], "A"⟩,
    ⟨.union [⟨.reference "B" [], "B"⟩, ⟨.reference "C" [], "C"⟩], "B | C"⟩], "A | (B | C)"⟩

/-- What `nested` declares. -/
def nestedDeclarations : Declarations :=
  .ofList
    [.interface ⟨"A", default, [], [], []⟩, .interface ⟨"B", default, [], [], []⟩,
      .interface ⟨"C", default, [], [], []⟩, .typeAlias ⟨"U", default, [], nestedUnion, nestedUnion⟩]

/-- The source with a union in parentheses declares these three interfaces and this alias. -/
theorem declarationsOf_nested : Source.declarationsOf nested 32 = nestedDeclarations := by
  have read : Declarations.ofList nested.declarations = nestedDeclarations :=
    congrArg Declarations.ofList (by cbv)
  rw [Source.declarationsOf_of_read 32 read (by cbv) rfl]
  exact Declarations.ext_entries rfl rfl rfl rfl

end Node

/-- A union in parentheses stays an operand of the union around it. The alias has three
alternatives, each of them names a model, and its model depends on the first one alone. -/
theorem Model.not_flat_nested :
    ¬ (Source.declarationsOf Node.nested 32).Obey (flat .union) ∧
      (∀ decl ∈ (Source.declarationsOf Node.nested 32).aliases,
        decl.declared.alternatives.map (·.print) = ["A", "B", "C"]) ∧
      (ofScope ⟨Source.declarationsOf Node.nested 32, 32⟩ {}).map
          (fun model => (model.id, model.dependencies)) =
        [("A", []), ("B", []), ("C", []), ("U", ["A"])] := by
  rw [Node.declarationsOf_nested]
  refine ⟨?_, List.forall_mem_singleton.mpr (by decide +kernel), by decide +kernel⟩
  exact Declarations.not_obey_flat (List.mem_singleton_self _) rfl
    (List.mem_cons_of_mem _ (List.mem_singleton_self _)) rfl

/-! ### Unions in place of operands -/

namespace Node

/-- The aliases `type W<T> = T | null` and `type V = W<A | B>`. -/
def spread : Node :=
  group .program none ""
    [aliasOf "W" [typeParameter "T"] (group .unionType (some .value) "T | null"
        [typeWord "T", group .literalType none "null" [word .null none "null"]]),
      aliasOf "V" [] (group .genericType (some .value) "W<A | B>"
        [word .typeIdentifier (some .name) "W", group .typeArguments (some .typeArguments) ""
          [group .unionType none "A | B" [typeWord "A", typeWord "B"]]])]

/-- The type `T | null`, as it is read. -/
def orNull : TypeExpr :=
  ⟨.union [⟨.reference "T" [], "T"⟩, ⟨.keyword "null", "null"⟩], "T | null"⟩

/-- The type `A | B`, as it is read. -/
def oneOrOther : TypeExpr :=
  ⟨.union [⟨.reference "A" [], "A"⟩, ⟨.reference "B" [], "B"⟩], "A | B"⟩

/-- What `spread` declares, given what `V` stands for. -/
def spreadDeclarations (expanded : TypeExpr) : Declarations :=
  .ofList
    [.typeAlias ⟨"W", default, [⟨"T", none, none⟩], orNull, orNull⟩,
      .typeAlias ⟨"V", default, [], ⟨.reference "W" [oneOrOther], "W<A | B>"⟩, expanded⟩]

/-- The source with a generic union declares these two aliases, of which the second stands for a
union in a union. -/
theorem declarationsOf_spread :
    Source.declarationsOf spread 32 =
      spreadDeclarations (.unwritten (.union [oneOrOther, ⟨.keyword "null", "null"⟩])) := by
  have read : Declarations.ofList spread.declarations =
      spreadDeclarations ⟨.reference "W" [oneOrOther], "W<A | B>"⟩ :=
    congrArg Declarations.ofList (by cbv)
  rw [Source.declarationsOf_of_read 32 read rfl rfl]
  exact Declarations.ext_entries rfl rfl rfl rfl

end Node

/-- It is not enough that unions are written flat. An argument that is a union becomes an operand
where its type parameter is one. -/
theorem Model.not_flat_spread :
    Node.spread.All Node.Flat ∧ ¬ (Source.declarationsOf Node.spread 32).Obey (flat .union) := by
  refine ⟨Node.every_isFlat_iff.mp (by cbv), ?_⟩
  rw [Node.declarationsOf_spread]
  exact Declarations.not_obey_flat (List.mem_cons_of_mem _ (List.mem_singleton_self _)) rfl
    (List.mem_cons_self) rfl

end TypeAtlas
