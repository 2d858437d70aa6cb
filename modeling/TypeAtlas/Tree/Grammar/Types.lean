import TypeAtlas.Tree.Grammar.Phrase

/-!
Rules of types.
-/

set_option autoImplicit false

namespace TypeAtlas.Grammar

/-- The rules of types. -/
def typeRules : List (Symbol × Rule) := [
  ⟨.node .typeAliasDeclaration, .ranked .declare (.seq [
    "type", .role .name typeName, .role .typeParameters (.opt (node .typeParameters)), "=",
    .role .value (.call .type), terminator])⟩,
  ⟨.node .omittingTypeAscription, .seq ["-?:", .call .type]⟩,
  ⟨.node .addingTypeAscription, .seq ["+?:", .call .type]⟩,
  ⟨.node .optingTypeAscription, .seq ["?:", .call .type]⟩,
  ⟨.node .typeAscription, .seq [
    ":", .alt [.call .type, .call .importedMember, .call .importedCall]]⟩,
  ⟨.importedMember, .seq [
    .role .object (.alt [node .import, .call .importedMember, .call .importedCall]), ".",
    .role .property (.alt [.token .privateName, .label .propertyIdentifier (.token .name)])]⟩,
  ⟨.importedCall, .seq [
    .role .function (.alt [node .import, .call .importedMember]),
    .role .arguments (node .arguments)]⟩,
  ⟨.node .asserts, .seq ["asserts", .alt [node .typePredicate, .token .name, "this"]]⟩,
  ⟨.node .assertsAscription, .seq [.seq [":", node .asserts]]⟩,
  ⟨.type, .alt [
    .call .primaryType, node .functionType, node .readonlyType, node .constructorType,
    node .inferType, .ranked (.level (-1)) (.call .importedMember),
    .ranked (.level (-1)) (.call .importedCall)]⟩,
  ⟨.tupleParameter, .seq [
    .role .name (.alt [.token .name, node .restPattern]), .role .type (node .typeAscription)]⟩,
  ⟨.optionalTupleParameter, .seq [
    .role .name (.token .name), "?", .role .type (node .typeAscription)]⟩,
  ⟨.node .optionalType, .seq [.call .type, "?"]⟩,
  ⟨.node .restType, .seq ["...", .call .type]⟩,
  ⟨.tupleItem, .alt [
    .call .tupleParameter, .call .optionalTupleParameter, node .optionalType, node .restType,
    .call .type]⟩,
  ⟨.node .constructorType, .grouped .left (.seq [
    .opt "abstract", "new", .role .typeParameters (.opt (node .typeParameters)),
    .role .parameters (node .formalParameters), "=>", .role .type (.call .type)])⟩,
  ⟨.primaryType, .alt [
    node .parenthesizedType, node .predefinedType, typeName, node .nestedTypeIdentifier,
    node .genericType, node .objectType, node .arrayType, node .tupleType, node .flowMaybeType,
    node .typeQuery, node .indexTypeQuery, .label .thisType "this", node .existentialType,
    node .literalType, node .lookupType, node .conditionalType, node .templateLiteralType,
    node .intersectionType, node .unionType, "const"]⟩,
  ⟨.node .templateType, .seq ["$\x7b", .alt [.call .primaryType, node .inferType], "\x7d"]⟩,
  ⟨.node .templateLiteralType, .seq [
    "\x60", .opt (.many (.alt [.token .templateText, node .templateType])), "\x60"]⟩,
  ⟨.node .inferType, .grouped .right (.seq [
    "infer", typeName, .opt (.seq ["extends", .call .type])])⟩,
  ⟨.node .conditionalType, .grouped .right (.seq [
    .role .left (.call .type), "extends", .role .right (.call .type), "?",
    .role .consequence (.call .type), ":", .role .alternative (.call .type)])⟩,
  ⟨.node .genericType, .ranked .call (.seq [
    .role .name (.alt [typeName, node .nestedTypeIdentifier]),
    .role .typeArguments (node .typeArguments)])⟩,
  ⟨.node .typePredicate, .seq [
    .role .name (.alt [.token .name, "this", .label .identifier (node .predefinedType)]), "is",
    .role .type (.call .type)]⟩,
  ⟨.node .typePredicateAscription, .seq [.seq [":", node .typePredicate]]⟩,
  ⟨.queriedMember, .seq [
    .role .object (.alt [
      .token .name, "this", .call .queriedElement, .call .queriedMember, .call .queriedCall]),
    .alt [".", "?."],
    .role .property (.alt [.token .privateName, .label .propertyIdentifier (.token .name)])]⟩,
  ⟨.queriedElement, .seq [
    .role .object (.alt [
      .token .name, "this", .call .queriedElement, .call .queriedMember, .call .queriedCall]),
    .opt "?.", "[", .role .index (.alt [node .predefinedType, node .string, .token .number]), "]"]⟩,
  ⟨.queriedCall, .seq [
    .role .function (.alt [
      node .import, .token .name, .call .queriedMember, .call .queriedElement]),
    .role .arguments (node .arguments)]⟩,
  ⟨.queriedInstance, .seq [
    .role .function (.alt [
      node .import, .token .name, .call .queriedMember, .call .queriedElement]),
    .role .typeArguments (node .typeArguments)]⟩,
  ⟨.node .typeQuery, .grouped .right (.seq [
    "typeof",
    .alt [
      .call .queriedElement, .call .queriedMember, .call .queriedCall, .call .queriedInstance,
      .token .name, "this"]])⟩,
  ⟨.node .indexTypeQuery, .seq ["keyof", .call .primaryType]⟩,
  ⟨.node .lookupType, .seq [.call .primaryType, "[", .call .type, "]"]⟩,
  ⟨.node .literalType, .alt [
    .call .signedNumber, .token .number, node .string, "true", "false", "null", "undefined"]⟩,
  ⟨.signedNumber, .grouped .left (.ranked (.level 1) (.seq [
    .role .operator (.alt ["-", "+"]), .role .argument (.token .number)]))⟩,
  ⟨.node .existentialType, "*"⟩,
  ⟨.node .flowMaybeType, .grouped .right (.seq ["?", .call .primaryType])⟩,
  ⟨.node .parenthesizedType, .seq ["(", .call .type, ")"]⟩,
  ⟨.node .predefinedType, .alt [
    "any", "number", "boolean", "string", "symbol", .seq ["unique", "symbol"], "void", "unknown",
    "never", "object"]⟩,
  ⟨.node .typeArguments, .seq ["<", commas (.call .type), .opt ",", ">"]⟩,
  ⟨.node .objectType, .seq [
    .alt ["\x7b", "\x7b|"],
    .opt (.seq [
      .opt (.alt [",", ";"]),
      separated (.alt [",", terminator]) (.alt [
        node .exportStatement, node .propertySignature, node .callSignature,
        node .constructSignature, node .indexSignature, node .methodSignature]),
      .opt (.alt [",", terminator])]),
    .alt ["\x7d", "|\x7d"]]⟩,
  ⟨.node .typeParameters, .seq ["<", commas (node .typeParameter), .opt ",", ">"]⟩,
  ⟨.node .typeParameter, .seq [
    .opt "const", .role .name typeName, .role .constraint (.opt (node .constraint)),
    .role .value (.opt (node .defaultType))]⟩,
  ⟨.node .defaultType, .seq ["=", .call .type]⟩,
  ⟨.node .constraint, .seq [.alt ["extends", ":"], .call .type]⟩,
  ⟨.node .arrayType, .seq [.call .primaryType, "[", "]"]⟩,
  ⟨.node .tupleType, .seq ["[", .opt (commas (.call .tupleItem)), .opt ",", "]"]⟩,
  ⟨.node .readonlyType, .seq ["readonly", .call .type]⟩,
  ⟨.node .unionType, .grouped .left (.seq [.opt (.call .type), "|", .call .type])⟩,
  ⟨.node .intersectionType, .grouped .left (.seq [.opt (.call .type), "&", .call .type])⟩,
  ⟨.node .functionType, .grouped .left (.seq [
    .role .typeParameters (.opt (node .typeParameters)),
    .role .parameters (node .formalParameters), "=>",
    .role .returnType (.alt [.call .type, node .asserts, node .typePredicate])])⟩,
  ⟨.node .nestedTypeIdentifier, .ranked .member (.seq [
    .role .module (.alt [.token .name, node .nestedIdentifier]), ".", .role .name typeName])⟩]

end TypeAtlas.Grammar
