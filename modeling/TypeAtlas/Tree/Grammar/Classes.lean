import TypeAtlas.Tree.Grammar.Phrase

/-!
Rules of interfaces, classes and enumerations, of their members and of parameters.
-/

set_option autoImplicit false

namespace TypeAtlas.Grammar

/-- The rules of interfaces, classes, enumerations and parameters. -/
def classRules : List (Symbol × Rule) := [
  ⟨.node .classExpression, .ranked .literal (.seq [
    .opt (.many (.role .decorator (node .decorator))), "class", .role .name (.opt typeName),
    .role .typeParameters (.opt (node .typeParameters)), .opt (node .classHeritage),
    .role .body (node .classBody)])⟩,
  ⟨.node .classDeclaration, .grouped .left (.ranked .declare (.seq [
    .opt (.many (.role .decorator (node .decorator))), "class", .role .name typeName,
    .role .typeParameters (.opt (node .typeParameters)), .opt (node .classHeritage),
    .role .body (node .classBody), .opt (.token .silentEnd)]))⟩,
  ⟨.node .classHeritage, .alt [
    .seq [node .extendsClause, .opt (node .implementsClause)], node .implementsClause]⟩,
  ⟨.node .abstractClassDeclaration, .ranked .declare (.seq [
    .opt (.many (.role .decorator (node .decorator))), "abstract", "class", .role .name typeName,
    .role .typeParameters (.opt (node .typeParameters)), .opt (node .classHeritage),
    .role .body (node .classBody)])⟩,
  ⟨.node .extendsClause, .seq ["extends", commas (.call .base)]⟩,
  ⟨.base, .ranked .heritage (.seq [
    .role .value (.call .expression), .role .typeArguments (.opt (node .typeArguments))])⟩,
  ⟨.node .implementsClause, .seq ["implements", commas (.call .type)]⟩,
  ⟨.node .classBody, .seq [
    "\x7b",
    .opt (.many (.alt [
      .seq [
        .opt (.many (.role .decorator (node .decorator))), node .methodDefinition,
        .opt terminator],
      .seq [node .methodSignature, .alt [.token .silentSignatureEnd, ","]],
      node .classStaticBlock,
      .seq [
        .alt [
          node .abstractMethodSignature, node .indexSignature, node .methodSignature,
          node .publicFieldDefinition],
        .alt [terminator, ","]],
      ";"])),
    "\x7d"]⟩,
  ⟨.node .classStaticBlock, .seq [
    "static", .opt (.token .silentEnd), .role .body (node .statementBlock)]⟩,
  ⟨.node .methodDefinition, .grouped .left (.seq [
    .opt (node .accessibilityModifier), .opt "static", .opt (node .overrideModifier),
    .opt "readonly", .opt "async", .opt (.alt ["get", "set", "*"]),
    .role .name (.call .memberName), .opt "?", .call .signature,
    .role .body (node .statementBlock)])⟩,
  ⟨.node .publicFieldDefinition, .seq [
    .opt (.many (.role .decorator (node .decorator))),
    .opt (.alt [
      .seq ["declare", .opt (node .accessibilityModifier)],
      .seq [node .accessibilityModifier, .opt "declare"]]),
    .alt [
      .seq [.opt "static", .opt (node .overrideModifier), .opt "readonly"],
      .seq [.opt "abstract", .opt "readonly"], .seq [.opt "readonly", .opt "abstract"],
      .opt "accessor"],
    .role .name (.call .memberName), .opt (.alt ["?", "!"]),
    .role .type (.opt (node .typeAscription)), .opt (.call .initializer)]⟩,
  ⟨.node .methodSignature, .seq [
    .opt (node .accessibilityModifier), .opt "static", .opt (node .overrideModifier),
    .opt "readonly", .opt "async", .opt (.alt ["get", "set", "*"]),
    .role .name (.call .memberName), .opt "?", .call .signature]⟩,
  ⟨.node .abstractMethodSignature, .seq [
    .opt (node .accessibilityModifier), "abstract", .opt (node .overrideModifier),
    .opt (.alt ["get", "set", "*"]), .role .name (.call .memberName), .opt "?", .call .signature]⟩,
  ⟨.node .accessibilityModifier, .alt ["public", "private", "protected"]⟩,
  ⟨.node .overrideModifier, "override"⟩,
  ⟨.node .decorator, .seq [
    "@", .alt [.token .name, .call .decoratorMember, .call .decoratorCall, .call .decoratorGroup]]⟩,
  ⟨.decoratorMember, .ranked .member (.seq [
    .role .object (.alt [.token .name, .call .decoratorMember]), ".",
    .role .property (.label .propertyIdentifier (.token .name))])⟩,
  ⟨.decoratorCall, .ranked .call (.seq [
    .role .function (.alt [.token .name, .call .decoratorMember]),
    .opt (.role .typeArguments (node .typeArguments)), .role .arguments (node .arguments)])⟩,
  ⟨.decoratorGroup, .seq [
    "(", .alt [.token .name, .call .decoratorMember, .call .decoratorCall], ")"]⟩,
  ⟨.node .interfaceDeclaration, .ranked .declare (.seq [
    "interface", .role .name typeName, .role .typeParameters (.opt (node .typeParameters)),
    .opt (node .extendsTypeClause), .role .body (.label .interfaceBody (node .objectType))])⟩,
  ⟨.node .extendsTypeClause, .seq [
    "extends",
    commas (.role .type (.alt [typeName, node .nestedTypeIdentifier, node .genericType]))]⟩,
  ⟨.node .enumDeclaration, .ranked .declare (.seq [
    .opt "const", "enum", .role .name (.token .name), .role .body (node .enumBody)])⟩,
  ⟨.node .enumBody, .seq [
    "\x7b",
    .opt (.seq [commas (.alt [.role .name (.call .memberName), node .enumAssignment]), .opt ","]),
    "\x7d"]⟩,
  ⟨.node .enumAssignment, .seq [.role .name (.call .memberName), .call .initializer]⟩,
  ⟨.memberName, .alt [
    .label .propertyIdentifier (.alt [.token .name, wordAsName]), .token .privateName,
    node .string, .token .number, node .computedPropertyName]⟩,
  ⟨.node .computedPropertyName, .seq ["[", .call .expression, "]"]⟩,
  ⟨.signature, .seq [
    .role .typeParameters (.opt (node .typeParameters)),
    .role .parameters (node .formalParameters),
    .role .returnType (.opt (.alt [
      node .typeAscription, node .assertsAscription, node .typePredicateAscription]))]⟩,
  ⟨.parameter, .alt [node .requiredParameter, node .optionalParameter]⟩,
  ⟨.node .formalParameters, .seq ["(", .opt (.seq [commas (.call .parameter), .opt ","]), ")"]⟩,
  ⟨.node .requiredParameter, .seq [
    .call .parameterName, .role .type (.opt (node .typeAscription)), .opt (.call .initializer)]⟩,
  ⟨.node .optionalParameter, .seq [
    .call .parameterName, "?", .role .type (.opt (node .typeAscription)),
    .opt (.call .initializer)]⟩,
  ⟨.parameterName, .seq [
    .opt (.many (.role .decorator (node .decorator))), .opt (node .accessibilityModifier),
    .opt (node .overrideModifier), .opt "readonly",
    .role .pattern (.alt [.call .pattern, "this"])]⟩,
  ⟨.node .callSignature, .call .signature⟩,
  ⟨.node .propertySignature, .seq [
    .opt (node .accessibilityModifier), .opt "static", .opt (node .overrideModifier),
    .opt "readonly", .role .name (.call .memberName), .opt "?",
    .role .type (.opt (node .typeAscription))]⟩,
  ⟨.node .constructSignature, .seq [
    .opt "abstract", "new", .role .typeParameters (.opt (node .typeParameters)),
    .role .parameters (node .formalParameters), .role .type (.opt (node .typeAscription))]⟩,
  ⟨.node .indexSignature, .seq [
    .opt (.seq [.role .sign (.opt (.alt ["-", "+"])), "readonly"]), "[",
    .alt [
      .seq [
        .role .name (.alt [.token .name, .label .identifier wordAsName]), ":",
        .role .indexType (.call .type)],
      node .mappedTypeClause],
    "]",
    .role .type (.alt [
      node .typeAscription, node .omittingTypeAscription, node .addingTypeAscription,
      node .optingTypeAscription])]⟩,
  ⟨.node .mappedTypeClause, .seq [
    .role .name typeName, "in", .role .type (.call .type),
    .opt (.seq ["as", .role .alias (.call .type)])]⟩]

end TypeAtlas.Grammar
