import TypeAtlas.Tree.Grammar.Rule

/-!
Small rules that many others are made of.
-/

set_option autoImplicit false

namespace TypeAtlas.Grammar

/-- The end of a statement. -/
def terminator : Rule := .alt [.token .silentEnd, ";"]

/-- The keywords that are also names of values and members. -/
def wordAsName : Rule := .alt [
  "declare", "namespace", "type", "public", "private", "protected", "override", "readonly",
  "module", "any", "number", "boolean", "string", "symbol", "export", "object", "new", "get",
  "set", "async", "static", "let"]

/-- A name of a value that is no keyword. -/
def plainName : Rule := .alt ["undefined", .token .name]

/-- A name of a type. -/
def typeName : Rule := .label .typeIdentifier (.token .name)

/-- One expression, or several with commas in between. -/
def expressions : Rule := .alt [.call .expression, node .sequenceExpression]

/-- What a value can be assigned to. -/
def target : Rule := .alt [
  node .memberExpression, node .subscriptExpression, plainName, .label .identifier wordAsName,
  .call .destructuring, node .nonNullExpression]

end TypeAtlas.Grammar
