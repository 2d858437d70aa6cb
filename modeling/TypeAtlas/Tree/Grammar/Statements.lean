import TypeAtlas.Tree.Grammar.Phrase

/-!
Rules of statements and of the declarations that are not about types.
-/

set_option autoImplicit false

namespace TypeAtlas.Grammar

/-- The rules of statements. -/
def statementRules : List (Symbol × Rule) := [
  ⟨.node .program, .seq [.opt (.token .hashBang), .opt (.many (.call .statement))]⟩,
  ⟨.declaration, .alt [
    .alt [
      node .functionDeclaration, node .generatorFunctionDeclaration, node .classDeclaration,
      node .lexicalDeclaration, node .variableDeclaration],
    node .functionSignature, node .abstractClassDeclaration, node .module,
    .ranked .declare (node .internalModule), node .typeAliasDeclaration, node .enumDeclaration,
    node .interfaceDeclaration, node .importAlias, node .ambientDeclaration]⟩,
  ⟨.statement, .alt [
    node .exportStatement, node .importStatement, node .debuggerStatement,
    node .expressionStatement, .call .declaration, node .statementBlock, node .ifStatement,
    node .switchStatement, node .forStatement, node .forInStatement, node .whileStatement,
    node .doStatement, node .tryStatement, node .withStatement, node .breakStatement,
    node .continueStatement, node .returnStatement, node .throwStatement, node .emptyStatement,
    node .labeledStatement]⟩,
  ⟨.node .expressionStatement, .seq [expressions, terminator]⟩,
  ⟨.node .variableDeclaration, .seq ["var", commas (node .variableDeclarator), terminator]⟩,
  ⟨.node .lexicalDeclaration, .seq [
    .role .keyword (.alt ["let", "const"]), commas (node .variableDeclarator), terminator]⟩,
  ⟨.node .variableDeclarator, .alt [
    .seq [
      .role .name (.alt [.token .name, .call .destructuring]),
      .role .type (.opt (node .typeAscription)), .opt (.call .initializer)],
    .ranked .declare (.seq [.role .name (.token .name), "!", .role .type (node .typeAscription)])]⟩,
  ⟨.node .statementBlock, .grouped .right (.seq [
    "\x7b", .opt (.many (.call .statement)), "\x7d", .opt (.token .silentEnd)])⟩,
  ⟨.node .elseClause, .seq ["else", .call .statement]⟩,
  ⟨.node .ifStatement, .grouped .right (.seq [
    "if", .role .condition (node .parenthesizedExpression),
    .role .consequence (.call .statement), .opt (.role .alternative (node .elseClause))])⟩,
  ⟨.node .switchStatement, .seq [
    "switch", .role .value (node .parenthesizedExpression), .role .body (node .switchBody)]⟩,
  ⟨.node .forStatement, .seq [
    "for", "(",
    .alt [
      .role .initializer (.alt [node .lexicalDeclaration, node .variableDeclaration]),
      .seq [.role .initializer expressions, ";"], .role .initializer (node .emptyStatement)],
    .role .condition (.alt [.seq [expressions, ";"], node .emptyStatement]),
    .role .increment (.opt expressions), ")", .role .body (.call .statement)]⟩,
  ⟨.node .forInStatement, .seq [
    "for", .opt "await", .call .forHeader, .role .body (.call .statement)]⟩,
  ⟨.forHeader, .seq [
    "(",
    .alt [
      .role .left (.alt [target, node .parenthesizedExpression]),
      .seq [
        .role .keyword "var", .role .left (.alt [.token .name, .call .destructuring]),
        .opt (.call .initializer)],
      .seq [
        .role .keyword (.alt ["let", "const"]),
        .role .left (.alt [.token .name, .call .destructuring]), .opt (.token .silentEnd)]],
    .role .operator (.alt ["in", "of"]), .role .right expressions, ")"]⟩,
  ⟨.node .whileStatement, .seq [
    "while", .role .condition (node .parenthesizedExpression), .role .body (.call .statement)]⟩,
  ⟨.node .doStatement, .grouped .right (.seq [
    "do", .role .body (.call .statement), "while",
    .role .condition (node .parenthesizedExpression), .opt terminator])⟩,
  ⟨.node .tryStatement, .seq [
    "try", .role .body (node .statementBlock), .opt (.role .handler (node .catchClause)),
    .opt (.role .finalizer (node .finallyClause))]⟩,
  ⟨.node .withStatement, .seq [
    "with", .role .object (node .parenthesizedExpression), .role .body (.call .statement)]⟩,
  ⟨.node .breakStatement, .seq [
    "break", .role .label (.opt (.label .statementIdentifier (.token .name))), terminator]⟩,
  ⟨.node .continueStatement, .seq [
    "continue", .role .label (.opt (.label .statementIdentifier (.token .name))), terminator]⟩,
  ⟨.node .debuggerStatement, .seq ["debugger", terminator]⟩,
  ⟨.node .returnStatement, .seq ["return", .opt expressions, terminator]⟩,
  ⟨.node .throwStatement, .seq ["throw", expressions, terminator]⟩,
  ⟨.node .emptyStatement, ";"⟩,
  ⟨.node .labeledStatement, .weigh (-1) (.seq [
    .role .label (.label .statementIdentifier (.alt [.token .name, wordAsName])), ":",
    .role .body (.call .statement)])⟩,
  ⟨.node .switchBody, .seq [
    "\x7b", .opt (.many (.alt [node .switchCase, node .switchDefault])), "\x7d"]⟩,
  ⟨.node .switchCase, .seq [
    "case", .role .value expressions, ":", .role .body (.opt (.many (.call .statement)))]⟩,
  ⟨.node .switchDefault, .seq ["default", ":", .role .body (.opt (.many (.call .statement)))]⟩,
  ⟨.node .catchClause, .seq [
    "catch",
    .opt (.seq [
      "(", .role .parameter (.alt [.token .name, .call .destructuring]),
      .opt (.role .type (node .typeAscription)), ")"]),
    .role .body (node .statementBlock)]⟩,
  ⟨.node .finallyClause, .seq ["finally", .role .body (node .statementBlock)]⟩,
  ⟨.node .functionDeclaration, .grouped .right (.ranked .declare (.seq [
    .opt "async", "function", .role .name (.token .name), .call .signature,
    .role .body (node .statementBlock), .opt (.token .silentEnd)]))⟩,
  ⟨.node .generatorFunctionDeclaration, .grouped .right (.ranked .declare (.seq [
    .opt "async", "function", "*", .role .name (.token .name), .call .signature,
    .role .body (node .statementBlock), .opt (.token .silentEnd)]))⟩,
  ⟨.node .functionSignature, .seq [
    .opt "async", "function", .role .name (.token .name), .call .signature,
    .alt [terminator, .token .silentSignatureEnd]]⟩,
  ⟨.initializer, .seq ["=", .role .value (.call .expression)]⟩]

end TypeAtlas.Grammar
