import TypeAtlas.Tree.Grammar.Phrase

/-!
Rules of expressions and of the patterns that values are taken apart with.
-/

set_option autoImplicit false

namespace TypeAtlas.Grammar

/-- The rules of expressions and patterns. -/
def expressionRules : List (Symbol × Rule) := [
  ⟨.node .import, "import"⟩,
  ⟨.node .parenthesizedExpression, .seq [
    "(",
    .alt [
      .seq [.call .expression, .role .type (.opt (node .typeAscription))],
      node .sequenceExpression],
    ")"]⟩,
  ⟨.expression, .alt [
    node .asExpression, node .satisfiesExpression, node .instantiationExpression,
    node .internalModule, node .typeAssertion, .call .primary, node .assignmentExpression,
    node .augmentedAssignmentExpression, node .awaitExpression, node .unaryExpression,
    node .binaryExpression, node .ternaryExpression, node .updateExpression, node .newExpression,
    node .yieldExpression]⟩,
  ⟨.primary, .alt [
    node .subscriptExpression, node .memberExpression, node .parenthesizedExpression, plainName,
    .label .identifier wordAsName, "this", "super", .token .number, node .string,
    node .templateString, node .regex, "true", "false", "null", node .object, node .array,
    node .functionExpression, node .arrowFunction, node .generatorFunction, node .classExpression,
    node .metaProperty, node .callExpression, node .nonNullExpression]⟩,
  ⟨.node .yieldExpression, .grouped .right (.seq [
    "yield", .alt [.seq ["*", .call .expression], .opt (.call .expression)]])⟩,
  ⟨.node .object, .ranked .object (.seq [
    "\x7b",
    .opt (commas (.opt (.alt [
      node .pair, node .spreadElement, node .methodDefinition,
      .label .shorthandPropertyIdentifier (.alt [.token .name, wordAsName])]))),
    "\x7d"])⟩,
  ⟨.node .objectPattern, .ranked .object (.seq [
    "\x7b",
    .opt (commas (.opt (.alt [
      node .pairPattern, node .restPattern, node .objectAssignmentPattern,
      .label .shorthandPropertyIdentifierPattern (.alt [.token .name, wordAsName])]))),
    "\x7d"])⟩,
  ⟨.node .assignmentPattern, .seq [
    .role .left (.call .pattern), "=", .role .right (.call .expression)]⟩,
  ⟨.node .objectAssignmentPattern, .seq [
    .role .left (.alt [
      .label .shorthandPropertyIdentifierPattern (.alt [wordAsName, .token .name]),
      .call .destructuring]),
    "=", .role .right (.call .expression)]⟩,
  ⟨.node .array, .seq [
    "[", .opt (commas (.opt (.alt [.call .expression, node .spreadElement]))), "]"]⟩,
  ⟨.node .arrayPattern, .seq [
    "[", .opt (commas (.opt (.alt [.call .pattern, node .assignmentPattern]))), "]"]⟩,
  ⟨.node .functionExpression, .ranked .literal (.seq [
    .opt "async", "function", .role .name (.opt (.token .name)), .call .signature,
    .role .body (node .statementBlock)])⟩,
  ⟨.node .generatorFunction, .ranked .literal (.seq [
    .opt "async", "function", "*", .role .name (.opt (.token .name)), .call .signature,
    .role .body (node .statementBlock)])⟩,
  ⟨.node .arrowFunction, .seq [
    .opt "async",
    .alt [
      .role .parameter (.alt [.label .identifier wordAsName, .token .name]), .call .signature],
    "=>", .role .body (.alt [.call .expression, node .statementBlock])]⟩,
  ⟨.node .optionalChain, "?."⟩,
  ⟨.node .callExpression, .alt [
    .ranked .call (.seq [
      .role .function (.alt [.call .expression, node .import]),
      .role .typeArguments (.opt (node .typeArguments)), .role .arguments (node .arguments)]),
    .ranked .templateCall (.seq [
      .role .function (.alt [.call .primary, node .newExpression]),
      .role .arguments (node .templateString)]),
    .ranked .member (.seq [
      .role .function (.call .primary), "?.", .role .typeArguments (.opt (node .typeArguments)),
      .role .arguments (node .arguments)])]⟩,
  ⟨.node .newExpression, .grouped .right (.ranked .new (.seq [
    "new", .role .constructor (.call .primary),
    .role .typeArguments (.opt (node .typeArguments)),
    .role .arguments (.opt (node .arguments))]))⟩,
  ⟨.node .awaitExpression, .ranked .unaryWord (.seq ["await", .call .expression])⟩,
  ⟨.node .memberExpression, .ranked .member (.seq [
    .role .object (.alt [.call .expression, .call .primary, node .import]),
    .alt [".", .role .optionalChain (node .optionalChain)],
    .role .property (.alt [.token .privateName, .label .propertyIdentifier (.token .name)])])⟩,
  ⟨.node .subscriptExpression, .grouped .right (.ranked .member (.seq [
    .role .object (.alt [.call .expression, .call .primary]),
    .opt (.role .optionalChain (node .optionalChain)), "[", .role .index expressions, "]"]))⟩,
  ⟨.node .assignmentExpression, .grouped .right (.ranked .assign (.seq [
    .opt "using", .role .left (.alt [node .parenthesizedExpression, target]), "=",
    .role .right (.call .expression)]))⟩,
  ⟨.updatedTarget, .alt [
    node .memberExpression, node .subscriptExpression, .label .identifier wordAsName,
    .token .name, node .parenthesizedExpression, node .nonNullExpression]⟩,
  ⟨.node .augmentedAssignmentExpression, .grouped .right (.ranked .assign (.seq [
    .role .left (.call .updatedTarget),
    .role .operator (.alt [
      "+=", "-=", "*=", "/=", "%=", "^=", "&=", "|=", ">>=", ">>>=", "<<=", "**=", "&&=",
      "||=", "??="]),
    .role .right (.call .expression)]))⟩,
  ⟨.destructuring, .alt [node .objectPattern, node .arrayPattern]⟩,
  ⟨.node .spreadElement, .seq ["...", .call .expression]⟩,
  ⟨.node .ternaryExpression, .grouped .right (.ranked .ternary (.seq [
    .role .condition (.call .expression), .token .questionMark,
    .role .consequence (.call .expression), ":", .role .alternative (.call .expression)]))⟩,
  ⟨.node .binaryExpression, .alt [
    .grouped .left (.ranked .and (.seq [
      .role .left (.call .expression), .role .operator "&&", .role .right (.call .expression)])),
    .grouped .left (.ranked .or (.seq [
      .role .left (.call .expression), .role .operator "||", .role .right (.call .expression)])),
    .grouped .left (.ranked .shift (.seq [
      .role .left (.call .expression), .role .operator ">>", .role .right (.call .expression)])),
    .grouped .left (.ranked .shift (.seq [
      .role .left (.call .expression), .role .operator ">>>", .role .right (.call .expression)])),
    .grouped .left (.ranked .shift (.seq [
      .role .left (.call .expression), .role .operator "<<", .role .right (.call .expression)])),
    .grouped .left (.ranked .bitAnd (.seq [
      .role .left (.call .expression), .role .operator "&", .role .right (.call .expression)])),
    .grouped .left (.ranked .bitXor (.seq [
      .role .left (.call .expression), .role .operator "^", .role .right (.call .expression)])),
    .grouped .left (.ranked .bitOr (.seq [
      .role .left (.call .expression), .role .operator "|", .role .right (.call .expression)])),
    .grouped .left (.ranked .plus (.seq [
      .role .left (.call .expression), .role .operator "+", .role .right (.call .expression)])),
    .grouped .left (.ranked .plus (.seq [
      .role .left (.call .expression), .role .operator "-", .role .right (.call .expression)])),
    .grouped .left (.ranked .times (.seq [
      .role .left (.call .expression), .role .operator "*", .role .right (.call .expression)])),
    .grouped .left (.ranked .times (.seq [
      .role .left (.call .expression), .role .operator "/", .role .right (.call .expression)])),
    .grouped .left (.ranked .times (.seq [
      .role .left (.call .expression), .role .operator "%", .role .right (.call .expression)])),
    .grouped .right (.ranked .power (.seq [
      .role .left (.call .expression), .role .operator "**", .role .right (.call .expression)])),
    .grouped .left (.ranked .relation (.seq [
      .role .left (.call .expression), .role .operator "<", .role .right (.call .expression)])),
    .grouped .left (.ranked .relation (.seq [
      .role .left (.call .expression), .role .operator "<=", .role .right (.call .expression)])),
    .grouped .left (.ranked .equality (.seq [
      .role .left (.call .expression), .role .operator "==", .role .right (.call .expression)])),
    .grouped .left (.ranked .equality (.seq [
      .role .left (.call .expression), .role .operator "===", .role .right (.call .expression)])),
    .grouped .left (.ranked .equality (.seq [
      .role .left (.call .expression), .role .operator "!=", .role .right (.call .expression)])),
    .grouped .left (.ranked .equality (.seq [
      .role .left (.call .expression), .role .operator "!==", .role .right (.call .expression)])),
    .grouped .left (.ranked .relation (.seq [
      .role .left (.call .expression), .role .operator ">=", .role .right (.call .expression)])),
    .grouped .left (.ranked .relation (.seq [
      .role .left (.call .expression), .role .operator ">", .role .right (.call .expression)])),
    .grouped .left (.ranked .ternary (.seq [
      .role .left (.call .expression), .role .operator "??", .role .right (.call .expression)])),
    .grouped .left (.ranked .relation (.seq [
      .role .left (.call .expression), .role .operator "instanceof",
      .role .right (.call .expression)])),
    .grouped .left (.ranked .relation (.seq [
      .role .left (.alt [.call .expression, .token .privateName]), .role .operator "in",
      .role .right (.call .expression)]))]⟩,
  ⟨.node .unaryExpression, .grouped .left (.ranked .unaryWord (.seq [
    .role .operator (.alt ["!", "~", "-", "+", "typeof", "void", "delete"]),
    .role .argument (.call .expression)]))⟩,
  ⟨.node .updateExpression, .grouped .left (.alt [
    .seq [.role .argument (.call .expression), .role .operator (.alt ["++", "--"])],
    .seq [.role .operator (.alt ["++", "--"]), .role .argument (.call .expression)]])⟩,
  ⟨.node .sequenceExpression, .grouped .right (commas (.call .expression))⟩,
  ⟨.node .string, .alt [
    .seq ["\"", .opt (.many (.alt [.token .doubleFragment, .token .escape])), "\""],
    .seq ["\x27", .opt (.many (.alt [.token .singleFragment, .token .escape])), "\x27"]]⟩,
  ⟨.node .templateString, .seq [
    "\x60",
    .opt (.many (.alt [.token .templateText, .token .escape, node .templateSubstitution])),
    "\x60"]⟩,
  ⟨.node .templateSubstitution, .seq ["$\x7b", expressions, "\x7d"]⟩,
  ⟨.node .regex, .seq [
    "/", .role .pattern (.token .pattern), .token .patternEnd,
    .opt (.role .flags (.token .flags))]⟩,
  ⟨.node .metaProperty, .alt [.seq ["new", ".", "target"], .seq ["import", ".", "meta"]]⟩,
  ⟨.node .arguments, .seq [
    "(", .opt (commas (.opt (.alt [.call .expression, node .spreadElement]))), ")"]⟩,
  ⟨.pattern, .weigh (-1) (.alt [target, node .restPattern])⟩,
  ⟨.node .restPattern, .grouped .right (.seq ["...", target])⟩,
  ⟨.node .pair, .seq [.role .key (.call .memberName), ":", .role .value (.call .expression)]⟩,
  ⟨.node .pairPattern, .seq [
    .role .key (.call .memberName), ":",
    .role .value (.alt [.call .pattern, node .assignmentPattern])]⟩,
  ⟨.node .nonNullExpression, .grouped .left (.ranked .unary (.seq [.call .expression, "!"]))⟩,
  ⟨.node .typeAssertion, .grouped .left (.ranked .unary (.seq [
    node .typeArguments, .call .expression]))⟩,
  ⟨.node .asExpression, .grouped .left (.ranked .binary (.seq [
    .call .expression, "as", .alt ["const", .call .type]]))⟩,
  ⟨.node .satisfiesExpression, .grouped .left (.ranked .binary (.seq [
    .call .expression, "satisfies", .call .type]))⟩,
  ⟨.node .instantiationExpression, .ranked .instantiation (.seq [
    .call .expression, .role .typeArguments (node .typeArguments)])⟩]

end TypeAtlas.Grammar
