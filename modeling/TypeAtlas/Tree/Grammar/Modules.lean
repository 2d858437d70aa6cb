import TypeAtlas.Tree.Grammar.Phrase

/-!
Rules of what sources bring in from other sources and offer to them, and of namespaces.
-/

set_option autoImplicit false

namespace TypeAtlas.Grammar

/-- The rules of imports, exports and namespaces. -/
def moduleRules : List (Symbol × Rule) := [
  ⟨.node .exportStatement, .alt [
    .alt [
      .seq [
        "export",
        .alt [
          .seq ["*", .call .fromModule], .seq [node .namespaceExport, .call .fromModule],
          .seq [node .exportClause, .call .fromModule], node .exportClause],
        terminator],
      .seq [
        .opt (.many (.role .decorator (node .decorator))), "export",
        .alt [
          .role .declaration (.call .declaration),
          .seq [
            "default",
            .alt [
              .role .declaration (.call .declaration),
              .seq [.role .value (.call .expression), terminator]]]]]],
    .seq ["export", "type", node .exportClause, .opt (.call .fromModule), terminator],
    .seq ["export", "import", node .importAlias],
    .seq ["export", "=", .call .expression, terminator],
    .seq ["export", "as", "namespace", .token .name, terminator]]⟩,
  ⟨.node .nestedIdentifier, .ranked .member (.seq [
    .role .object (.alt [.token .name, .label .memberExpression (node .nestedIdentifier)]), ".",
    .role .property (.label .propertyIdentifier (.token .name))])⟩,
  ⟨.node .namespaceExport, .seq ["*", "as", .call .exportedName]⟩,
  ⟨.node .exportClause, .seq ["\x7b", .opt (commas (node .exportSpecifier)), .opt ",", "\x7d"]⟩,
  ⟨.node .exportSpecifier, .seq [
    .opt (.alt ["type", "typeof"]),
    .seq [
      .role .name (.call .exportedName), .opt (.seq ["as", .role .alias (.call .exportedName)])]]⟩,
  ⟨.exportedName, .alt [.token .name, node .string, "default"]⟩,
  ⟨.node .importStatement, .seq [
    "import", .opt (.alt ["type", "typeof"]),
    .alt [
      .seq [node .importClause, .call .fromModule], node .importRequireClause,
      .role .source (node .string)],
    .opt (node .importAttribute), terminator]⟩,
  ⟨.node .importClause, .alt [
    node .namespaceImport, node .namedImports,
    .seq [
      .call .importedName, .opt (.seq [",", .alt [node .namespaceImport, node .namedImports]])]]⟩,
  ⟨.fromModule, .seq ["from", .role .source (node .string)]⟩,
  ⟨.node .namespaceImport, .seq ["*", "as", .token .name]⟩,
  ⟨.node .namedImports, .seq ["\x7b", .opt (commas (node .importSpecifier)), .opt ",", "\x7d"]⟩,
  ⟨.node .importSpecifier, .seq [
    .opt (.alt ["type", "typeof"]),
    .alt [
      .role .name (.call .importedName),
      .seq [
        .role .name (.alt [.call .exportedName, .label .identifier "type"]), "as",
        .role .alias (.call .importedName)]]]⟩,
  ⟨.node .importAttribute, .seq ["with", node .object]⟩,
  ⟨.importedName, .alt [.token .name, .label .identifier "type"]⟩,
  ⟨.node .importRequireClause, .seq [
    .token .name, "=", "require", "(", .role .source (node .string), ")"]⟩,
  ⟨.node .importAlias, .seq [
    "import", .token .name, "=", .alt [.token .name, node .nestedIdentifier], terminator]⟩,
  ⟨.node .module, .seq ["module", .call .moduleParts]⟩,
  ⟨.node .internalModule, .seq ["namespace", .call .moduleParts]⟩,
  ⟨.moduleParts, .grouped .right (.seq [
    .role .name (.alt [node .string, .token .name, node .nestedIdentifier]),
    .role .body (.opt (node .statementBlock))])⟩,
  ⟨.node .ambientDeclaration, .seq [
    "declare",
    .alt [
      .call .declaration, .seq ["global", node .statementBlock],
      .seq [
        "module", ".", .label .propertyIdentifier (.token .name), ":", .call .type, terminator]]]⟩]

end TypeAtlas.Grammar
