import TypeAtlas.Proofs.Declarations.Answers
import TypeAtlas.Proofs.Types.Unambiguous

/-!
# Declarations without members of one name

Declarations are unambiguous if the members of every interface and every class have distinct names
and so have those of every object type in them, however deep it is (`Declarations.Unambiguous`). The
latter is a law for all types, which the declarations of every tree obey. That an interface or a
class itself has members of distinct names is seen by what is done to its members: they are pushed
to a body, merged with those of later declarations, and inherited, each time by name
(`Declarations.HaveDistinctNames`).

Main statement: `Source.unambiguous_declarationsOf`.
-/

set_option autoImplicit false

namespace TypeAtlas

/-! ### Unambiguous declarations -/

/-- The bounds and defaults of type parameters are unambiguous. -/
def TypeParameter.AreUnambiguous (parameters : List TypeParameter) : Prop :=
  ∀ parameter ∈ parameters, ∀ type ∈ parameter.types, type.Unambiguous

/-- The members of an interface have distinct names, and all types in it are unambiguous. -/
structure InterfaceDecl.Unambiguous (decl : InterfaceDecl) : Prop where
  typeParameters : TypeParameter.AreUnambiguous decl.typeParameters
  bases : ∀ base ∈ decl.bases, base.Unambiguous
  members : Member.AreUnambiguous decl.members

/-- All types in an alias are unambiguous, as it is written and with aliases replaced. -/
structure AliasDecl.Unambiguous (decl : AliasDecl) : Prop where
  typeParameters : TypeParameter.AreUnambiguous decl.typeParameters
  declared : decl.declared.Unambiguous
  expanded : decl.expanded.Unambiguous

/-- The members of a class have distinct names, and all types in it are unambiguous. -/
structure ClassDecl.Unambiguous (decl : ClassDecl) : Prop where
  typeParameters : TypeParameter.AreUnambiguous decl.typeParameters
  base : ∀ base ∈ decl.base, base.Unambiguous
  interfaces : ∀ type ∈ decl.interfaces, type.Unambiguous
  members : Member.AreUnambiguous decl.members

/-- All declarations are unambiguous. -/
structure Declarations.Unambiguous (decls : Declarations) : Prop where
  interfaces : ∀ decl ∈ decls.interfaces, decl.Unambiguous
  aliases : ∀ decl ∈ decls.aliases, decl.Unambiguous
  classes : ∀ decl ∈ decls.classes, decl.Unambiguous

/-! ### Names of members -/

/-- The members of each interface and each class have distinct names. -/
structure Declarations.HaveDistinctNames (decls : Declarations) : Prop where
  interfaces : ∀ decl ∈ decls.interfaces, (decl.members.map (·.name)).Nodup
  classes : ∀ decl ∈ decls.classes, (decl.members.map (·.name)).Nodup

/-- The law of distinct names and distinct names in each declaration make all unambiguous. -/
theorem Declarations.Unambiguous.of_obey {decls : Declarations} (h : decls.Obey distinctNames)
    (distinct : decls.HaveDistinctNames) : decls.Unambiguous := by
  have type {type : TypeExpr} (h : type.Obeys distinctNames) : type.Unambiguous :=
    TypeExpr.unambiguous_iff_obeys.mpr h
  have members {members : List Member} (distinct : (members.map (·.name)).Nodup)
      (h : ∀ member ∈ members, member.Obeys distinctNames) : Member.AreUnambiguous members :=
    ⟨distinct, fun member mem => Member.unambiguous_iff_obeys.mpr (h member mem)⟩
  refine ⟨fun decl mem => ?_, fun decl mem => ?_, fun decl mem => ?_⟩
  · have own := h.interfaces decl mem
    exact ⟨fun parameter listed other inside => type (own.typeParameters parameter listed other
      inside), fun base listed => type (own.bases base listed),
      members (distinct.interfaces decl mem) own.members⟩
  · have own := h.aliases decl mem
    exact ⟨fun parameter listed other inside => type (own.typeParameters parameter listed other
      inside), type own.declared, type own.expanded⟩
  · have own := h.classes decl mem
    exact ⟨fun parameter listed other inside => type (own.typeParameters parameter listed other
      inside), fun base given => type (own.base base given),
      fun other listed => type (own.interfaces other listed),
      members (distinct.classes decl mem) own.members⟩

namespace Declarations

variable {decls : Declarations}

/-- Merging appends the members of a later declaration. -/
theorem HaveDistinctNames.add (h : decls.HaveDistinctNames) {new : Declaration}
    (own : (new.members.map (·.name)).Nodup) :
    (decls.add new).HaveDistinctNames :=
  match new, own with
  | .interface decl, own =>
    have new : (decl.members.map (·.name)).Nodup := own
    { h with
      interfaces := Table.forall_mem_add InterfaceDecl.name_merge
        (fun _ first => Member.nodup_map_name_append first _) new h.interfaces }
  | .typeAlias _, _ => { h with }
  | .class decl, own =>
    have new : (decl.members.map (·.name)).Nodup := own
    { h with
      classes := Table.forall_mem_add ClassDecl.name_merge
        (fun _ first => Member.nodup_map_name_append first _) new h.classes }
  | .enum _, _ => { h with }

/-- The declarations of a tree have members with distinct names. -/
theorem haveDistinctNames_ofList_declarations (tree : Node) :
    (ofList tree.declarations).HaveDistinctNames := by
  have none : ({} : Declarations).HaveDistinctNames :=
    ⟨List.forall_mem_nil _, List.forall_mem_nil _⟩
  unfold ofList
  refine List.foldlRecOn (motive := HaveDistinctNames) tree.declarations _ none
    fun decls all new mem => all.add ?_
  obtain ⟨node, _, made⟩ := Node.exists_of_mem_declarations mem
  rw [Node.members_of_toDeclaration? made]
  exact Member.nodup_map_name_ofParts _

/-- Inheriting keeps the names of members distinct. -/
theorem HaveDistinctNames.withInheritance (h : decls.HaveDistinctNames) :
    decls.withInheritance.HaveDistinctNames where
  interfaces := List.forall_mem_map.mpr fun decl mem =>
    Member.nodup_map_name_append (h.interfaces decl mem) _
  classes := List.forall_mem_map.mpr fun decl mem =>
    Member.nodup_map_name_append (h.classes decl mem) _

end Declarations

/-- That object types have members with distinct names is a lasting law. -/
theorem TypeLaw.lasting_distinctNames : distinctNames.Lasting where
  toModest := modest_distinctNames
  kept := kept_distinctNames
  union _ _ _ other := by cases other

/-- The declarations of every tree are unambiguous, with all that they inherit and with aliases
replaced. -/
theorem Source.unambiguous_declarationsOf (tree : Node) (hops : Nat) :
    (declarationsOf tree hops).Unambiguous := by
  have lawful : (declarationsOf tree hops).Obey distinctNames :=
    obey_declarationsOf TypeLaw.lasting_distinctNames
      (.of_forall (fun node => node.hasDistinctNames_toType) tree) hops
  -- what aliases stand for is no matter of the members of interfaces and classes
  have names : (declarationsOf tree hops).HaveDistinctNames :=
    ⟨(Declarations.haveDistinctNames_ofList_declarations tree).withInheritance.interfaces,
      (Declarations.haveDistinctNames_ofList_declarations tree).withInheritance.classes⟩
  exact .of_obey lawful names

end TypeAtlas
