import TypeAtlas.Declarations.Basic
import TypeAtlas.Types.OfTree

/-!
The declarations that a syntax tree holds.

Only declarations that are statements of the program count, be they bare, exported or ambient. One
without a name is left out.
-/

set_option autoImplicit false

namespace TypeAtlas

namespace Node

/-- The name that a node declares, if it is written. -/
def declaredName? (node : Node) : Option String :=
  match node.part? .name with
  | some name =>
    if name.1.missing || name.1.kind == .error || name.1.text.isEmpty then none
    else some name.1.text
  | none => none

/-- The interface that a node declares. -/
def toInterface? (node : Node) : Option InterfaceDecl :=
  node.declaredName?.map fun name =>
    { name, span := node.span, typeParameters := node.toTypeParameters
      bases := node.named.flatMap fun child =>
        if child.1.kind = .extendsTypeClause then child.1.toTypes else []
      members := match node.part? .body with
        | some body => body.1.objectMembers
        | none => [] }

/-- The alias that a node declares. -/
def toAlias? (node : Node) : Option AliasDecl :=
  match node.declaredName?, node.part? .value with
  | some name, some value =>
    if value.1.missing then none
    else
      let declared := value.1.toType
      some { name, span := node.span, typeParameters := node.toTypeParameters, declared,
             expanded := declared }
  | _, _ => none

/-! ### Classes -/

/-- The properties that the parameters of a constructor declare: those with a modifier. -/
def parameterProperties (node : Node) : List (Option Member) :=
  match node.part? .parameters with
  | none => []
  | some parameters =>
    parameters.1.named.map fun child =>
      let readonly := child.1.hasToken "readonly"
      let modified := readonly || child.1.children.any fun part =>
        part.kind == .accessibilityModifier || part.kind == .overrideModifier
      if modified then
        child.1.toParameter?.map fun parameter =>
          ⟨parameter.name, child.1.kind == .optionalParameter, readonly, .property parameter.type,
            child.1.span, .own⟩
      else none

/-- The type of a field: the one it is annotated with, else that of its first value. -/
def fieldType? (node : Node) : Option TypeExpr :=
  let annotated := match node.part? .type with
    | some ascription => ascription.1.toAscription?
    | none => none
  annotated <|> (node.part? .value).map fun value => value.1.inferredType

/-- What a part of a class body declares for the instances of the class. -/
def toClassMembers (node : Node) : List (Option Member) :=
  if node.hasError || node.modifiers.isStatic then []
  else
    match node.kind with
    | .publicFieldDefinition => [node.toMember? (.property node.fieldType?)]
    | .methodDefinition =>
      if (node.part? .name).any fun name => name.1.text == "constructor" then
        node.parameterProperties
      else [node.toMethod? (node.toSignature true)]
    | .methodSignature | .abstractMethodSignature => [node.toMethod? (node.toSignature false)]
    | _ => []

/-- The class that an `extends` clause names, with its type arguments. -/
def toBase? (node : Node) : Option TypeExpr :=
  match node.part? .value with
  | none => none
  | some value =>
    let arguments := node.part? .typeArguments
    let stop := (arguments.map fun list => list.1.span.stop.byte).getD value.1.span.stop.byte
    some (.written
      (.reference (Text.oneLine value.1.text)
        ((arguments.map fun list => list.1.toTypes).getD []))
      (node.textBetween value.1.span.start.byte stop))

/-- The clauses after the name of a class. -/
def heritage (node : Node) : List Node :=
  node.named.flatMap fun child =>
    if child.1.kind = .classHeritage then child.1.named.map (·.1) else []

/-- The class that a node declares. -/
def toClass? (node : Node) : Option ClassDecl :=
  node.declaredName?.map fun name =>
    { name, span := node.span, typeParameters := node.toTypeParameters
      isAbstract := node.kind == .abstractClassDeclaration
      base := node.heritage.foldl
        (fun base clause => if clause.kind = .extendsClause then clause.toBase? else base) none
      interfaces := node.heritage.flatMap fun clause =>
        if clause.kind = .implementsClause then clause.toTypes else []
      members := match node.part? .body with
        | some body => Member.ofParts (body.1.named.flatMap fun child => child.1.toClassMembers)
        | none => [] }

/-! ### Enumerations -/

/-- The enumeration that a node declares. -/
def toEnum? (node : Node) : Option EnumDecl :=
  node.declaredName?.map fun name =>
    { name
      members := match node.part? .body with
        | some body => body.1.named.filterMap fun child =>
            if child.1.kind = .enumAssignment then
              (child.1.part? .name).map fun name => name.1.memberName
            else some child.1.memberName
        | none => [] }

/-! ### Programs -/

/-- The declaration that a node makes, if it is one of a type. -/
def toDeclaration? (node : Node) : Option Declaration :=
  match node.kind with
  | .interfaceDeclaration => node.toInterface?.map .interface
  | .typeAliasDeclaration => node.toAlias?.map .typeAlias
  | .classDeclaration | .abstractClassDeclaration => node.toClass?.map .class
  | .enumDeclaration => node.toEnum?.map .enum
  | _ => none

/-- What an ambient statement declares, or else the statement itself. -/
def ambientParts (node : Node) : List Node :=
  if node.kind = .ambientDeclaration then node.named.map (·.1) else [node]

/-- The nodes that a statement of a program declares something with. -/
def declaringParts (node : Node) : List Node :=
  if node.kind = .exportStatement then
    (node.children.filter fun child => child.role == some .declaration).flatMap ambientParts
  else node.ambientParts

/-- The declarations that a program holds, in order. What could not be read as a program holds
none. -/
def declarations (node : Node) : List Declaration :=
  if node.kind = .program then
    node.named.flatMap fun statement => statement.1.declaringParts.filterMap (·.toDeclaration?)
  else []

end Node

end TypeAtlas
