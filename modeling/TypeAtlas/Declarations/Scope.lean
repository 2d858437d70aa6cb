import TypeAtlas.Declarations.Basic
import TypeAtlas.Text.Quoted
import TypeAtlas.Types.Printer
import TypeAtlas.Types.Substitution

/-!
Questions about types, answered from the declarations of one source.

Only names declared in the source are known. What a type stands for, what a property of it is and
what an indexed access yields depend on each other, and on declarations that go round in circles
the answer may never come. Each of the three therefore takes fuel and says `endless` when it runs
out. The functions without fuel are given `Scope.patience`, which is more than any machine has room
for: a question that has no answer takes all the room there is.
-/

set_option autoImplicit false

namespace TypeAtlas

/-- The kinds of declarations. -/
inductive DeclarationKind where
  | interfaceDecl | aliasDecl | classDecl | enumDecl
deriving DecidableEq, Repr

/-- Why a question has no answer. -/
inductive Unanswered where
  /-- Answering goes on for longer than the fuel lasts. -/
  | endless
deriving DecidableEq, Repr

/-- Declarations to answer from, and how often a type is replaced by what it stands for. -/
structure Scope where
  declarations : Declarations
  hops : Nat

/-- The words for types of plain values. -/
def valueKeywords : List String :=
  ["string", "number", "boolean", "bigint", "symbol", "undefined", "null", "any", "unknown",
    "never", "void"]

/-- One type, or the union of several. Operands of unions are taken one by one, and of two with
one text the first counts. -/
def TypeExpr.join (types : List TypeExpr) : Option TypeExpr :=
  let items := types.flatMap fun type => type.operands?.getD [type]
  let distinct := items.foldl
    (fun (found : List TypeExpr) item =>
      if found.any fun other => other.print == item.print then found else found ++ [item]) []
  match distinct with
  | [] => none
  | [type] => some type
  | _ => some (.unwritten (.union distinct))

namespace Scope

/-- The kind of the declaration of a name. -/
def kind? (scope : Scope) (name : String) : Option DeclarationKind :=
  if (scope.declarations.interface? name).isSome then some .interfaceDecl
  else if (scope.declarations.alias? name).isSome then some .aliasDecl
  else if (scope.declarations.class? name).isSome then some .classDecl
  else if (scope.declarations.enum? name).isSome then some .enumDecl
  else none

/-- The name of the alias that a type names. -/
def aliasName? (scope : Scope) (type : TypeExpr) : Option String :=
  type.referenceName?.filter fun name => (scope.declarations.alias? name).isSome

/-- What an alias stands for with the given arguments. -/
def aliasValue? (scope : Scope) (name : String) (arguments : List TypeExpr) : Option TypeExpr :=
  (scope.declarations.alias? name).map fun decl =>
    decl.declared.substitute (.ofArguments decl.typeParameters arguments)

/-- The type of a member of a named interface or class with the given arguments. -/
def memberOf? (scope : Scope) (owner name : String) (arguments : List TypeExpr) :
    Option TypeExpr :=
  let among (parameters : List TypeParameter) (members : List Member) : Option TypeExpr :=
    ((Member.named? members name).bind (·.valueType?)).map
      (·.substitute (.ofArguments parameters arguments))
  match scope.declarations.interface? owner, scope.declarations.class? owner with
  | some decl, _ => among decl.typeParameters decl.members
  | none, some decl => among decl.typeParameters decl.members
  | none, none => none

/-! ### Questions with fuel -/

/-- Takes steps from a value until one leads nowhere, but no more than a number of them. -/
def settle {α : Type} (step : α → Except Unanswered (Option α)) :
    Nat → α → Except Unanswered α
  | 0, a => .ok a
  | n + 1, a =>
    match step a with
    | .error why => .error why
    | .ok none => .ok a
    | .ok (some next) => settle step n next

/-- The answers for all items, items without one left out. -/
def collect {α β : Type} (ask : α → Except Unanswered (Option β)) :
    List α → Except Unanswered (List β)
  | [] => .ok []
  | a :: rest =>
    match ask a with
    | .error why => .error why
    | .ok answer => (collect ask rest).map (answer.toList ++ ·)

/-- The answers for all items, or none as soon as one has none. -/
def collectAll {α β : Type} (ask : α → Except Unanswered (Option β)) :
    List α → Except Unanswered (Option (List β))
  | [] => .ok (some [])
  | a :: rest =>
    match ask a with
    | .error why => .error why
    | .ok none => .ok none
    | .ok (some answer) => (collectAll ask rest).map fun more => more.map (answer :: ·)

/-- The answer for the first item that has one. -/
def firstAnswer {α β : Type} (ask : α → Except Unanswered (Option β)) :
    List α → Except Unanswered (Option β)
  | [] => .ok none
  | a :: rest =>
    match ask a with
    | .error why => .error why
    | .ok none => firstAnswer ask rest
    | .ok (some answer) => .ok (some answer)

/-- What a type is replaced by, given what indexed accesses yield: an alias by its value, and an
indexed access by what it yields. -/
def hop (scope : Scope) (access : TypeExpr → TypeExpr → Except Unanswered (Option TypeExpr))
    (type : TypeExpr) : Except Unanswered (Option TypeExpr) :=
  match type.shape with
  | .reference name arguments => .ok (scope.aliasValue? name arguments)
  | .indexedAccess object index => access object index
  | _ => .ok none

/-- What a key selects of an object, given the properties of types and what types stand for: a
literal selects a property, and `number` the elements of an array. -/
def select (property : TypeExpr → String → Except Unanswered (Option TypeExpr))
    (apparent : TypeExpr → Except Unanswered TypeExpr) (object key : TypeExpr) :
    Except Unanswered (Option TypeExpr) :=
  match key.shape with
  | .literal spelling => property object (Text.unquoted spelling)
  | .keyword "number" => (apparent object).map (·.element?)
  | _ => .ok none

mutual

/-- What a type stands for: aliases and indexed accesses are replaced until neither is left, or
as often as the scope allows. -/
def apparentWithin (scope : Scope) : Nat → TypeExpr → Except Unanswered TypeExpr
  | 0, _ => .error .endless
  | fuel + 1, type =>
    settle (hop scope (accessWithin scope fuel)) scope.hops type

/-- The type of a property. A property of a union is that of every operand which has it, one of
an intersection that of the first. -/
def propertyWithin (scope : Scope) :
    Nat → TypeExpr → String → Except Unanswered (Option TypeExpr)
  | 0, _, _ => .error .endless
  | fuel + 1, type, name =>
    match apparentWithin scope fuel type with
    | .error why => .error why
    | .ok apparent =>
      match apparent.shape with
      | .object members _ => .ok ((Member.named? members name).bind (·.valueType?))
      | .reference owner arguments => .ok (scope.memberOf? owner name arguments)
      | .union items =>
        (collect (fun item => propertyWithin scope fuel item name) items).map TypeExpr.join
      | .intersection items => firstAnswer (fun item => propertyWithin scope fuel item name) items
      | _ => .ok none

/-- What an indexed access yields: what its keys select. Without an answer for each key there is
none. -/
def accessWithin (scope : Scope) :
    Nat → TypeExpr → TypeExpr → Except Unanswered (Option TypeExpr)
  | 0, _, _ => .error .endless
  | fuel + 1, object, index =>
    match apparentWithin scope fuel index with
    | .error why => .error why
    | .ok index =>
      (collectAll (select (propertyWithin scope fuel) (apparentWithin scope fuel) object)
        (index.operands?.getD [index])).map fun types => types.bind TypeExpr.join

end

/-! ### Questions -/

/-- How deeply questions may be nested. -/
def patience : Nat := Nat.pow 2 62

/-- What a type stands for. Where the question never ends the answer is the type itself. -/
def apparent (scope : Scope) (type : TypeExpr) : TypeExpr :=
  match scope.apparentWithin patience type with
  | .ok apparent => apparent
  | .error _ => type

/-- The type of a property. Where the question never ends the answer is that there is none. -/
def property? (scope : Scope) (type : TypeExpr) (name : String) : Option TypeExpr :=
  match scope.propertyWithin patience type name with
  | .ok found => found
  | .error _ => none

/-- What an indexed access yields. Where the question never ends the answer is that it yields
nothing. -/
def access? (scope : Scope) (type : TypeExpr) : Option TypeExpr :=
  match type.shape with
  | .indexedAccess object index =>
    match scope.accessWithin patience object index with
    | .ok found => found
    | .error _ => none
  | _ => none

/-- Whether a name is that of an enumeration or of a member of one. -/
def isEnumOrMember (scope : Scope) (name : String) : Bool :=
  (scope.declarations.enum? name).isSome ||
    match name.toList.span (· != '.') with
    | (owner, '.' :: member) =>
      (scope.declarations.enum? (String.ofList owner)).any fun decl =>
        decl.members.contains (String.ofList member)
    | _ => false

/-- Whether a type stands for a plain value: a literal, a word for values, or an enumeration. -/
def isValueLike (scope : Scope) (type : TypeExpr) : Bool :=
  match (scope.apparent type).shape with
  | .keyword word => valueKeywords.contains word
  | .literal _ => true
  | .reference name [] => scope.isEnumOrMember name
  | _ => false

/-- The name of a type: the text it was written as, else the alias it names, else its text. -/
def nameOf (scope : Scope) (type : TypeExpr) : String :=
  ((type.declaredText? <|> scope.aliasName? type)).getD type.print

end Scope

/-- The declarations with each alias replaced by what it stands for. -/
def Declarations.withExpandedAliases (decls : Declarations) (hops : Nat) : Declarations :=
  { decls with
    aliasTable := decls.aliasTable.map
      (fun decl => { decl with expanded := (⟨decls, hops⟩ : Scope).apparent decl.declared })
      fun _ => rfl }

/-- Each alias keeps its declared type; the expanded one is what this stands for. -/
theorem Declarations.aliases_withExpandedAliases (decls : Declarations) (hops : Nat) :
    (decls.withExpandedAliases hops).aliases = decls.aliases.map fun decl =>
      { decl with expanded := (⟨decls, hops⟩ : Scope).apparent decl.declared } := rfl

end TypeAtlas
