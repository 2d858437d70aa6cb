import TypeAtlas.Declarations.Table
import TypeAtlas.Types.Basic

/-!
The declarations of a source, merged by name.

Interfaces, aliases, classes and enumerations are kept apart, each name once in the order of first
addition, and each kind has an index by name. Declarations of one name become one: supertypes add
up, and a member is added unless its name is already taken.
-/

set_option autoImplicit false

namespace TypeAtlas

open Text (Span)

/-- An interface. -/
structure InterfaceDecl where
  name : String
  /-- The stretch of its first declaration. -/
  span : Span
  /-- The type parameters of its first declaration. -/
  typeParameters : List TypeParameter
  /-- The supertypes of all its declarations. -/
  bases : List TypeExpr
  members : List Member

/-- A type alias. -/
structure AliasDecl where
  name : String
  span : Span
  typeParameters : List TypeParameter
  /-- What it stands for, as written. -/
  declared : TypeExpr
  /-- What it stands for once aliases are replaced by what they stand for. -/
  expanded : TypeExpr

/-- A class. -/
structure ClassDecl where
  name : String
  /-- The stretch of its first declaration. -/
  span : Span
  /-- The type parameters of its first declaration. -/
  typeParameters : List TypeParameter
  isAbstract : Bool
  /-- The class it extends. -/
  base : Option TypeExpr
  /-- The interfaces of all its declarations. -/
  interfaces : List TypeExpr
  /-- The members that its instances have. -/
  members : List Member

/-- An enumeration and the names of its members. -/
structure EnumDecl where
  name : String
  members : List String
deriving DecidableEq, Repr

/-- A declaration of any kind. -/
inductive Declaration where
  | interface (decl : InterfaceDecl)
  | typeAlias (decl : AliasDecl)
  | class (decl : ClassDecl)
  | enum (decl : EnumDecl)

/-- The declarations of a source. -/
structure Declarations where
  interfaceTable : Table InterfaceDecl.name := .empty
  aliasTable : Table AliasDecl.name := .empty
  classTable : Table ClassDecl.name := .empty
  enumTable : Table EnumDecl.name := .empty

instance : Inhabited Declarations := ⟨{}⟩

/-! ### Members by name -/

namespace Member

/-- Whether one of the members has the name. -/
def hasName (members : List Member) (name : String) : Bool :=
  members.any fun member => member.name == name

/-- Adds a member at the end unless its name is taken. -/
def insert (members : List Member) (member : Member) : List Member :=
  if hasName members member.name then members else members ++ [member]

/-- Adds members at the end, each unless its name is taken. -/
def append (members more : List Member) : List Member := more.foldl insert members

end Member

/-! ### Declarations of one name -/

/-- Members as those of a later declaration. -/
def mergedMembers (members more : List Member) : List Member :=
  Member.append members (more.map fun member => { member with origin := .merged })

namespace InterfaceDecl

/-- Two declarations of an interface as one. -/
def merge (first later : InterfaceDecl) : InterfaceDecl :=
  { first with
    bases := first.bases ++ later.bases
    members := mergedMembers first.members later.members }

/-- Merging keeps the name. -/
theorem name_merge (first later : InterfaceDecl) : (first.merge later).name = first.name := rfl

end InterfaceDecl

namespace ClassDecl

/-- Two declarations of a class as one. -/
def merge (first later : ClassDecl) : ClassDecl :=
  { first with
    base := first.base <|> later.base
    interfaces := first.interfaces ++ later.interfaces
    members := mergedMembers first.members later.members }

/-- Merging keeps the name. -/
theorem name_merge (first later : ClassDecl) : (first.merge later).name = first.name := rfl

end ClassDecl

namespace EnumDecl

/-- Two declarations of an enumeration as one. -/
def merge (first later : EnumDecl) : EnumDecl :=
  { first with members := first.members ++ later.members }

/-- Merging keeps the name. -/
theorem name_merge (first later : EnumDecl) : (first.merge later).name = first.name := rfl

end EnumDecl

namespace Declarations

/-- The interfaces, in the order of first declaration. -/
def interfaces (decls : Declarations) : List InterfaceDecl := decls.interfaceTable.entries

/-- The aliases, in the order of first declaration. -/
def aliases (decls : Declarations) : List AliasDecl := decls.aliasTable.entries

/-- The classes, in the order of first declaration. -/
def classes (decls : Declarations) : List ClassDecl := decls.classTable.entries

/-- The enumerations, in the order of first declaration. -/
def enums (decls : Declarations) : List EnumDecl := decls.enumTable.entries

/-- Adds a declaration. Of two aliases with one name the first counts. -/
def add (decls : Declarations) : Declaration → Declarations
  | .interface decl =>
    { decls with
      interfaceTable := decls.interfaceTable.add InterfaceDecl.merge InterfaceDecl.name_merge decl }
  | .typeAlias decl =>
    { decls with aliasTable := decls.aliasTable.add (fun first _ => first) (fun _ _ => rfl) decl }
  | .class decl =>
    { decls with classTable := decls.classTable.add ClassDecl.merge ClassDecl.name_merge decl }
  | .enum decl =>
    { decls with enumTable := decls.enumTable.add EnumDecl.merge EnumDecl.name_merge decl }

/-- Adds declarations in order. -/
def ofList (list : List Declaration) : Declarations := list.foldl add {}

/-- The interface of a name. -/
def interface? (decls : Declarations) (name : String) : Option InterfaceDecl :=
  decls.interfaceTable.find? name

/-- The alias of a name. -/
def alias? (decls : Declarations) (name : String) : Option AliasDecl :=
  decls.aliasTable.find? name

/-- The class of a name. -/
def class? (decls : Declarations) (name : String) : Option ClassDecl :=
  decls.classTable.find? name

/-- The enumeration of a name. -/
def enum? (decls : Declarations) (name : String) : Option EnumDecl :=
  decls.enumTable.find? name

section find?

variable (decls : Declarations) (name : String)

/-- The index of interfaces finds the one of the name in their list. -/
theorem interface?_eq : decls.interface? name = decls.interfaces.find? (·.name == name) :=
  decls.interfaceTable.find?_eq name

/-- The index of aliases finds the one of the name in their list. -/
theorem alias?_eq : decls.alias? name = decls.aliases.find? (·.name == name) :=
  decls.aliasTable.find?_eq name

/-- The index of classes finds the one of the name in their list. -/
theorem class?_eq : decls.class? name = decls.classes.find? (·.name == name) :=
  decls.classTable.find?_eq name

/-- The index of enumerations finds the one of the name in their list. -/
theorem enum?_eq : decls.enum? name = decls.enums.find? (·.name == name) :=
  decls.enumTable.find?_eq name

end find?

section mem

variable {decls : Declarations} {name : String}

/-- The interface that is found is one of them and has the name. -/
theorem mem_of_interface? {decl : InterfaceDecl} (h : decls.interface? name = some decl) :
    decl ∈ decls.interfaces ∧ decl.name = name :=
  decls.interfaceTable.mem_of_find?_eq_some h

/-- The alias that is found is one of them and has the name. -/
theorem mem_of_alias? {decl : AliasDecl} (h : decls.alias? name = some decl) :
    decl ∈ decls.aliases ∧ decl.name = name :=
  decls.aliasTable.mem_of_find?_eq_some h

/-- The class that is found is one of them and has the name. -/
theorem mem_of_class? {decl : ClassDecl} (h : decls.class? name = some decl) :
    decl ∈ decls.classes ∧ decl.name = name :=
  decls.classTable.mem_of_find?_eq_some h

end mem

/-- Declarations with the same entries of each kind are the same. -/
theorem ext_entries {decls other : Declarations} (interfaces : decls.interfaces = other.interfaces)
    (aliases : decls.aliases = other.aliases) (classes : decls.classes = other.classes)
    (enums : decls.enums = other.enums) : decls = other := by
  obtain ⟨_, _, _, _⟩ := decls
  obtain ⟨_, _, _, _⟩ := other
  congr
  · exact Table.ext_entries interfaces
  · exact Table.ext_entries aliases
  · exact Table.ext_entries classes
  · exact Table.ext_entries enums

end Declarations

end TypeAtlas
