import TypeAtlas.Text.Quoted
import TypeAtlas.Tree.Node
import TypeAtlas.Types.Basic

/-!
The types, signatures and members that a syntax tree stands for.

Nothing here fails: a form of type that is not known is read as unsupported, and a member with an
error in it is left out.
-/

set_option autoImplicit false

namespace TypeAtlas

/-! ### Members of one body -/

namespace Member

/-- Adds the member to those of the same body. A method whose name is taken by a method adds its
signatures there; every other member whose name is taken is left out. -/
def pushTo (member : Member) : List Member → List Member
  | [] => [member]
  | first :: rest =>
    if first.name = member.name then
      match first.form, member.form with
      | .method signatures, .method more =>
        { first with
          form := .method (signatures ++ more.map fun signature =>
            { signature with ofMember := false }) } :: rest
      | _, _ => first :: rest
    else first :: pushTo member rest

/-- The members of a body, given what its parts are read as. -/
def ofParts (parts : List (Option Member)) : List Member :=
  parts.foldl (fun members part => match part with
    | some member => member.pushTo members
    | none => members) []

end Member

/-- The words before the name of a member, and the question mark after it. -/
structure Modifiers where
  optional : Bool
  readonly : Bool
  isStatic : Bool
  isAsync : Bool
  isGetter : Bool
  isSetter : Bool

namespace Node

/-- The words that modify the member of this node. -/
def modifiers (node : Node) : Modifiers :=
  let before (child : Node) : Bool :=
    match node.part? .name with
    | some name => child.span.start.byte < name.1.span.start.byte
    | none => true
  let has (spelling : String) (early : Bool) : Bool :=
    node.children.any fun child => child.kind == .token spelling && before child == early
  ⟨has "?" false, has "readonly" true, has "static" true, has "async" true, has "get" true,
    has "set" true⟩

/-- The name that a node gives to a member: a string without its quotes, or the text on one
line. -/
def memberName (node : Node) : String :=
  if node.kind = .string then Text.unquoted node.text else Text.oneLine node.text

/-- The member that a node declares, if it has a name. -/
def toMember? (node : Node) (form : MemberForm) : Option Member :=
  match node.part? .name with
  | some name =>
    if name.1.missing then none
    else
      let modifiers := node.modifiers
      some ⟨name.1.memberName, modifiers.optional, modifiers.readonly, form, node.span, .own⟩
  | none => none

/-- The name and the modifiers of a parameter that take no type, unless the parameter is
`this`. -/
def parameterName? (node : Node) : Option (String × Bool) :=
  if node.kind = .requiredParameter || node.kind = .optionalParameter then
    match node.part? .pattern with
    | some pattern =>
      match pattern.1.kind with
      | .this => none
      | .restPattern => some ((pattern.1.firstNamed?.map (·.1.text)).getD "", true)
      | _ => some (Text.oneLine pattern.1.text, false)
    | none => none
  else none

/-- What an unannotated function with the given body returns. -/
def inferredReturn (body : Node) : TypeExpr :=
  .keyword (if body.returnsValue then "any" else "void")

/-- The member for a method, given its signature. What is not annotated is inferred, and what an
asynchronous method returns is promised once. -/
def toMethod? (node : Node) (signature : Signature) : Option Member :=
  let modifiers := node.modifiers
  let returned := signature.returnType <|> (node.part? .body).map fun body => inferredReturn body.1
  let promised := returned.bind (·.referenceName?) == some "Promise"
  let returned :=
    if modifiers.isAsync && !promised then
      some (.reference "Promise" [returned.getD (.keyword "any")])
    else returned
  let form : MemberForm :=
    if modifiers.isSetter then .setter signature.parameters.head?
    else if modifiers.isGetter then .getter returned
    else .method [{ signature with returnType := returned, ofMember := true }]
  node.toMember? form

mutual

/-- The type that a node stands for. -/
def toType (node : Node) : TypeExpr :=
  match node.kind with
  | .parenthesizedType =>
    match node.firstNamed? with
    | some inner => inner.1.toType
    | none => .written .unsupported node.text
  | .readonlyType =>
    match node.firstNamed? with
    | some inner => .written inner.1.toType.shape node.text
    | none => .written .unsupported node.text
  | .predefinedType => .written (.keyword node.text) node.text
  | .typeIdentifier | .nestedTypeIdentifier | .identifier =>
    .written (.reference (Text.oneLine node.text) []) node.text
  | .genericType =>
    let name := ((node.part? .name).map fun name => Text.oneLine name.1.text).getD ""
    let arguments := match node.part? .typeArguments with
      | some arguments => arguments.1.toTypes
      | none => []
    .written (.reference name arguments) node.text
  | .arrayType =>
    match node.firstNamed? with
    | some element => .written (.array element.1.toType) node.text
    | none => .written .unsupported node.text
  | .tupleType => .written (.tuple (node.named.map fun item => item.1.toTupleItem)) node.text
  | .unionType =>
    .written (.union ((node.operands .unionType).map fun item => item.1.toType)) node.text
  | .intersectionType =>
    .written (.intersection ((node.operands .intersectionType).map fun item => item.1.toType))
      node.text
  | .functionType => .written (.function (node.toSignature false)) node.text
  | .objectType =>
    .written (.object (Member.ofParts (node.toMembers)) node.toCallSignatures) node.text
  | .lookupType =>
    match node.named with
    | object :: index :: _ => .written (.indexedAccess object.1.toType index.1.toType) node.text
    | _ => .written .unsupported node.text
  | .literalType =>
    if node.firstNamed?.any fun word => word.1.kind == .null || word.1.kind == .undefined then
      .written (.keyword node.text) node.text
    else .written (.literal node.text) node.text
  | .thisType => .written .this node.text
  | .typePredicate => .written (.keyword "boolean") node.text
  | .existentialType => .written (.keyword "any") node.text
  | _ => .written .unsupported node.text
termination_by (sizeOf node, 2)
decreasing_by
  all_goals first
    | exact Prod.Lex.left _ _ (sizeOf_lt_of_mem (Subtype.property _))
    | exact Prod.Lex.left _ _ item.2
    | (apply Prod.Lex.right; decide)

/-- The types that the parts of a node stand for. -/
def toTypes (node : Node) : List TypeExpr := node.named.map fun item => item.1.toType
termination_by (sizeOf node, 0)
decreasing_by exact Prod.Lex.left _ _ (sizeOf_lt_of_mem item.2)

/-- The type of a member of a tuple, without what makes it optional. -/
def toTupleItem (node : Node) : TypeExpr :=
  match node.kind with
  | .optionalType | .restType =>
    match node.firstNamed? with
    | some inner => inner.1.toType
    | none => .keyword "any"
  | _ => node.toType
termination_by (sizeOf node, 3)
decreasing_by
  · exact Prod.Lex.left _ _ (sizeOf_lt_of_mem inner.2)
  · apply Prod.Lex.right; decide

/-- The type of an ascription. -/
def toAscription? (node : Node) : Option TypeExpr :=
  match node.kind with
  | .typeAscription => node.firstNamed?.map fun type => type.1.toType
  | .typePredicateAscription =>
    some (.written (.keyword "boolean") (String.ofList (node.text.toList.dropWhile (· = ':'))))
  | .assertsAscription => some (.keyword "void")
  | _ => some node.toType
termination_by (sizeOf node, 3)
decreasing_by
  · exact Prod.Lex.left _ _ (sizeOf_lt_of_mem type.2)
  · apply Prod.Lex.right; decide

/-- The first type in a node, such as the bound of a type parameter. -/
def toFirstType? (node : Node) : Option TypeExpr := node.firstNamed?.map fun type => type.1.toType
termination_by (sizeOf node, 0)
decreasing_by exact Prod.Lex.left _ _ (sizeOf_lt_of_mem type.2)

/-- The type parameter that a node declares. -/
def toTypeParameter? (node : Node) : Option TypeParameter :=
  if node.kind = .typeParameter then
    match node.part? .name with
    | some name =>
      some ⟨name.1.text,
        match node.part? .constraint with
        | some bound => bound.1.toFirstType?
        | none => none,
        match node.part? .value with
        | some fallback => fallback.1.toFirstType?
        | none => none⟩
    | none => none
  else none
termination_by (sizeOf node, 0)
decreasing_by
  · exact Prod.Lex.left _ _ (sizeOf_lt_of_mem bound.2)
  · exact Prod.Lex.left _ _ (sizeOf_lt_of_mem fallback.2)

/-- The type parameters in a list of them. -/
def toTypeParameterList (node : Node) : List TypeParameter :=
  node.named.filterMap fun parameter => parameter.1.toTypeParameter?
termination_by (sizeOf node, 0)
decreasing_by exact Prod.Lex.left _ _ (sizeOf_lt_of_mem parameter.2)

/-- The type parameters that a node declares. -/
def toTypeParameters (node : Node) : List TypeParameter :=
  match node.part? .typeParameters with
  | some parameters => parameters.1.toTypeParameterList
  | none => []
termination_by (sizeOf node, 0)
decreasing_by exact Prod.Lex.left _ _ (sizeOf_lt_of_mem parameters.2)

/-- The parameter of a function that a node declares. -/
def toParameter? (node : Node) : Option Parameter :=
  match node.parameterName? with
  | some (name, rest) =>
    some ⟨name, node.kind == .optionalParameter || (node.part? .value).isSome, rest,
      match node.part? .type with
      | some ascription => ascription.1.toAscription?
      | none => none⟩
  | none => none
termination_by (sizeOf node, 0)
decreasing_by exact Prod.Lex.left _ _ (sizeOf_lt_of_mem ascription.2)

/-- The parameters in a list of them. -/
def toParameters (node : Node) : List Parameter :=
  node.named.filterMap fun parameter => parameter.1.toParameter?
termination_by (sizeOf node, 0)
decreasing_by exact Prod.Lex.left _ _ (sizeOf_lt_of_mem parameter.2)

/-- The signature of a function, method or function type. -/
def toSignature (node : Node) (hasBody : Bool) : Signature :=
  let parameters := match node.part? .parameters with
    | some parameters => parameters.1.toParameters
    | none =>
      match node.part? .parameter with
      | some parameter => [⟨parameter.1.text, false, false, none⟩]
      | none => []
  let returned := match node.part? .returnType with
    | some returned =>
      if node.kind = .functionType then some returned.1.toType else returned.1.toAscription?
    | none => none
  ⟨node.toTypeParameters, parameters, returned, hasBody, false⟩
termination_by (sizeOf node, 1)
decreasing_by
  · exact Prod.Lex.left _ _ (sizeOf_lt_of_mem parameters.2)
  · exact Prod.Lex.left _ _ (sizeOf_lt_of_mem returned.2)
  · exact Prod.Lex.left _ _ (sizeOf_lt_of_mem returned.2)
  · apply Prod.Lex.right; decide

/-- The member that a part of an object type or interface declares. -/
def toObjectMember? (node : Node) : Option Member :=
  match node.kind with
  | .propertySignature =>
    node.toMember? (.property (match node.part? .type with
      | some ascription => ascription.1.toAscription?
      | none => none))
  | .methodSignature => node.toMethod? (node.toSignature false)
  | _ => none
termination_by (sizeOf node, 2)
decreasing_by
  · exact Prod.Lex.left _ _ (sizeOf_lt_of_mem ascription.2)
  · apply Prod.Lex.right; decide

/-- What the parts of an object type or interface declare, those with errors left out. -/
def toMembers (node : Node) : List (Option Member) :=
  node.named.map fun child => if child.1.hasError then none else child.1.toObjectMember?
termination_by (sizeOf node, 0)
decreasing_by exact Prod.Lex.left _ _ (sizeOf_lt_of_mem child.2)

/-- The ways in which a value of an object type can be called. -/
def toCallSignatures (node : Node) : List Signature :=
  node.named.filterMap fun child =>
    if !child.1.hasError && child.1.kind == .callSignature then some (child.1.toSignature false)
    else none
termination_by (sizeOf node, 0)
decreasing_by exact Prod.Lex.left _ _ (sizeOf_lt_of_mem child.2)

end

/-- The members of an object type or interface. -/
def objectMembers (node : Node) : List Member := Member.ofParts node.toMembers

/-! ### Types of values -/

/-- The type of a field that only has a first value. -/
def inferredType (node : Node) : TypeExpr :=
  match node.kind with
  | .string | .templateString => .keyword "string"
  | .number => .keyword "number"
  | .true | .false => .keyword "boolean"
  | .regex => .reference "RegExp" []
  | .object => .keyword "object"
  | .unaryExpression =>
    let signed := (node.part? .argument).any fun argument => argument.1.kind == .number
    .keyword (if signed then "number" else "any")
  | .newExpression =>
    match node.part? .constructor with
    | some constructor =>
      .reference (Text.oneLine constructor.1.text)
        (((node.part? .typeArguments).map fun arguments => arguments.1.toTypes).getD [])
    | none => .keyword "any"
  | .array =>
    match node.firstNamed? with
    | some first => .unwritten (.array first.1.inferredType)
    | none => .unwritten (.array (.keyword "any"))
  | .arrowFunction | .functionExpression =>
    let signature := node.toSignature true
    let returned := match signature.returnType, node.part? .body with
      | some returned, _ => returned
      | none, some body =>
        .keyword (if body.1.kind != .statementBlock || body.1.returnsValue then "any" else "void")
      | none, none => .keyword "void"
    .unwritten (.function { signature with returnType := some returned })
  | .asExpression =>
    match node.named with
    | _ :: type :: _ => type.1.toType
    | _ => .keyword "any"
  | .satisfiesExpression | .parenthesizedExpression =>
    match node.firstNamed? with
    | some inner => inner.1.inferredType
    | none => .keyword "any"
  | _ => .keyword "any"
termination_by sizeOf node
decreasing_by
  · exact sizeOf_lt_of_mem first.2
  · exact sizeOf_lt_of_mem inner.2

end Node

end TypeAtlas
