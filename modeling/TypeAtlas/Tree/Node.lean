import TypeAtlas.Text.Location

/-!
Syntax trees of TypeScript sources.

A tree is made of nodes of a closed set of kinds. A node knows the stretch of source it covers,
the text of that stretch, the role it plays in its parent and its children, comments and
punctuation included. Readers of a tree look at children by role and skip comments and
punctuation. The lemmas here say that a child is smaller than its parent, which is what every
recursion over trees rests on.
-/

set_option autoImplicit false

namespace TypeAtlas

open Text (Span)

/-- The kinds of nodes. A `token` is punctuation or a keyword and carries its spelling; every
other kind is a named one. -/
inductive Kind where
  | token (spelling : String)
  | comment | markupComment | error | program
  | identifier | propertyIdentifier | privatePropertyIdentifier | typeIdentifier
  | statementIdentifier | shorthandPropertyIdentifier | shorthandPropertyIdentifierPattern
  | nestedIdentifier | nestedTypeIdentifier
  | string | stringFragment | escapeSequence | number | regex | regexPattern | regexFlags
  | true | false | null | undefined | this | super
  | templateString | templateSubstitution
  -- declarations
  | interfaceDeclaration | typeAliasDeclaration | classDeclaration | abstractClassDeclaration
  | enumDeclaration | ambientDeclaration | exportStatement | importStatement | importAlias
  | functionDeclaration | generatorFunctionDeclaration | functionSignature | lexicalDeclaration
  | variableDeclaration | variableDeclarator | module | internalModule
  | interfaceBody | classBody | enumBody | enumAssignment
  | extendsTypeClause | classHeritage | extendsClause | implementsClause
  | namespaceExport | exportClause | exportSpecifier | importClause | namespaceImport
  | namedImports | importSpecifier | importAttribute | importRequireClause
  -- members
  | propertySignature | methodSignature | abstractMethodSignature | callSignature
  | constructSignature | indexSignature | mappedTypeClause | publicFieldDefinition
  | methodDefinition | classStaticBlock | computedPropertyName | accessibilityModifier
  | overrideModifier | decorator
  -- parameters and ascriptions
  | typeParameters | typeParameter | constraint | defaultType | typeArguments
  | formalParameters | requiredParameter | optionalParameter | restPattern | objectPattern
  | objectAssignmentPattern | arrayPattern | assignmentPattern | pairPattern
  | typeAscription | typePredicateAscription | assertsAscription | asserts | typePredicate
  | omittingTypeAscription | addingTypeAscription | optingTypeAscription
  -- types
  | predefinedType | genericType | arrayType | readonlyType | tupleType | optionalType | restType
  | unionType | intersectionType | functionType | constructorType | objectType | lookupType
  | literalType | thisType | existentialType | parenthesizedType | conditionalType | inferType
  | flowMaybeType | typeQuery | indexTypeQuery | templateLiteralType | templateType
  -- expressions
  | object | pair | array | spreadElement | arguments | parenthesizedExpression
  | sequenceExpression | unaryExpression | updateExpression | binaryExpression
  | ternaryExpression | assignmentExpression | augmentedAssignmentExpression | awaitExpression
  | yieldExpression | newExpression | callExpression | memberExpression | optionalChain
  | subscriptExpression | nonNullExpression | asExpression | satisfiesExpression
  | instantiationExpression | typeAssertion | arrowFunction | functionExpression
  | generatorFunction | classExpression | metaProperty | import
  -- statements
  | statementBlock | expressionStatement | returnStatement | ifStatement | elseClause
  | forStatement | forInStatement | whileStatement | doStatement | switchStatement | switchBody
  | switchCase | switchDefault | tryStatement | catchClause | finallyClause | throwStatement
  | breakStatement | continueStatement | debuggerStatement | labeledStatement | withStatement
  | emptyStatement | hashBangLine
deriving DecidableEq, Hashable, Repr, Inhabited

/-- Whether a kind is a named one: neither punctuation nor a keyword. -/
def Kind.isNamed : Kind → Bool
  | .token _ => Bool.false
  | _ => Bool.true

/-- The parts a child can play in its parent. -/
inductive Role where
  | name | alias | source | key | label | property | object | index | module | function
  | arguments | argument | typeArguments | constructor | optionalChain
  | body | value | declaration | decorator | keyword | handler | finalizer
  | condition | consequence | alternative | initializer | increment
  | left | operator | right
  | typeParameters | parameters | parameter | returnType | pattern | flags
  | type | indexType | constraint | sign
deriving DecidableEq, Hashable, Repr

/-- A node of a syntax tree. -/
structure Node where
  /-- What the node is. -/
  kind : Kind
  /-- The part it plays in its parent, if it has a special one. -/
  role : Option Role
  /-- The stretch of source it covers. -/
  span : Span
  /-- The source text of that stretch. -/
  text : String
  /-- The node was not written, but supplied where the source lacks it. -/
  missing : Bool
  /-- The parts of the node in source order. -/
  children : List Node

namespace Node

instance : Inhabited Node := ⟨⟨.error, none, default, "", Bool.false, []⟩⟩

/-- A child is smaller than its parent. -/
theorem sizeOf_lt_of_mem {child node : Node} (h : child ∈ node.children) :
    sizeOf child < sizeOf node := by
  obtain ⟨kind, role, span, text, missing, children⟩ := node
  have : sizeOf child < sizeOf children := List.sizeOf_lt_of_mem h
  simp only [Node.mk.sizeOf_spec]
  omega

mutual

/-- Whether the tree holds a stretch that could not be read, or a supplied node. -/
def hasError : Node → Bool
  | ⟨kind, _, _, _, missing, children⟩ => kind == .error || missing || anyError children

/-- Whether one of the trees holds an error. -/
def anyError : List Node → Bool
  | [] => Bool.false
  | child :: rest => child.hasError || anyError rest

end

/-- The named children of a node that are not comments. -/
def named (node : Node) : List { child : Node // child ∈ node.children } :=
  node.children.attach.filter fun child => child.1.kind.isNamed && child.1.kind != .comment

/-- The first named child that is not a comment. -/
def firstNamed? (node : Node) : Option { child : Node // child ∈ node.children } :=
  node.named.head?

/-- The first child that plays a role. -/
def part? (node : Node) (role : Role) : Option { child : Node // child ∈ node.children } :=
  node.children.attach.find? fun child => child.1.role == some role

/-- Whether one of the children is the given keyword or punctuation. -/
def hasToken (node : Node) (spelling : String) : Bool :=
  node.children.any fun child => child.kind == .token spelling

/-- The text between two offsets into the source that lie in the node. -/
def textBetween (node : Node) (first last : Nat) : String :=
  String.Pos.Raw.extract node.text ⟨first - node.span.start.byte⟩ ⟨last - node.span.start.byte⟩

/-- The parts of a node that do not themselves have the given kind, nodes of that kind being
opened up. -/
def operands (kind : Kind) (node : Node) : List { part : Node // sizeOf part < sizeOf node } :=
  node.named.flatMap fun child =>
    have smaller := sizeOf_lt_of_mem child.2
    if child.1.kind = kind then
      (operands kind child.1).map fun part => ⟨part.1, Nat.lt_trans part.2 smaller⟩
    else [⟨child.1, smaller⟩]
termination_by sizeOf node

/-- The kinds of nodes that are functions or classes of their own. -/
def functionKinds : List Kind :=
  [.arrowFunction, .functionExpression, .functionDeclaration, .generatorFunction,
    .generatorFunctionDeclaration, .methodDefinition, .classExpression, .classDeclaration]

/-- Whether a function with this body returns a value: a `return` with an expression in it, in
no function or class within. -/
def returnsValue (node : Node) : Bool :=
  (node.kind == .returnStatement && node.firstNamed?.isSome) ||
    node.named.any fun child =>
      have := sizeOf_lt_of_mem child.2
      !functionKinds.contains child.1.kind && returnsValue child.1
termination_by sizeOf node

end Node

end TypeAtlas
