import TypeAtlas.Tree.Grammar.Classes
import TypeAtlas.Tree.Grammar.Expressions
import TypeAtlas.Tree.Grammar.Modules
import TypeAtlas.Tree.Grammar.Statements
import TypeAtlas.Tree.Grammar.Types

/-!
The grammar of TypeScript.

The rules stand in one order, which decides between readings that nothing else tells apart. The
orderings say which of two rules binds tighter where both could go on.
-/

set_option autoImplicit false

namespace TypeAtlas

namespace Grammar

/-- What an ordering ranks: all rules of a rank, or the rule of one part. -/
inductive Bound where
  | rank (rank : Rank)
  | symbol (symbol : Symbol)
deriving DecidableEq, Repr

end Grammar

/-- A grammar. -/
structure Grammar where
  /-- The parts with their rules. The first is the whole source. -/
  rules : List (Grammar.Symbol × Grammar.Rule)
  /-- Lists of what binds tighter than what, the tightest first. -/
  orderings : List (List Grammar.Bound)

namespace Grammar

/-- The parts of a source in the order of the grammar. -/
def order : List Symbol := [
  .node .program, .node .exportStatement, .node .nestedIdentifier, .node .namespaceExport,
  .node .exportClause, .node .exportSpecifier, .exportedName, .declaration, .node .import,
  .node .importStatement, .node .importClause, .fromModule, .node .namespaceImport,
  .node .namedImports, .node .importSpecifier, .node .importAttribute, .statement,
  .node .expressionStatement, .node .variableDeclaration, .node .lexicalDeclaration,
  .node .variableDeclarator, .node .statementBlock, .node .elseClause, .node .ifStatement,
  .node .switchStatement, .node .forStatement, .node .forInStatement, .forHeader,
  .node .whileStatement, .node .doStatement, .node .tryStatement, .node .withStatement,
  .node .breakStatement, .node .continueStatement, .node .debuggerStatement,
  .node .returnStatement, .node .throwStatement, .node .emptyStatement, .node .labeledStatement,
  .node .switchBody, .node .switchCase, .node .switchDefault, .node .catchClause,
  .node .finallyClause, .node .parenthesizedExpression, .expression, .primary,
  .node .yieldExpression, .node .object, .node .objectPattern, .node .assignmentPattern,
  .node .objectAssignmentPattern, .node .array, .node .arrayPattern, .node .classExpression,
  .node .classDeclaration, .node .classHeritage, .node .functionExpression,
  .node .functionDeclaration, .node .generatorFunction, .node .generatorFunctionDeclaration,
  .node .arrowFunction, .signature, .parameter, .node .optionalChain, .node .callExpression,
  .node .newExpression, .node .awaitExpression, .node .memberExpression,
  .node .subscriptExpression, .node .assignmentExpression, .updatedTarget,
  .node .augmentedAssignmentExpression, .initializer, .destructuring, .node .spreadElement,
  .node .ternaryExpression, .node .binaryExpression, .node .unaryExpression,
  .node .updateExpression, .node .sequenceExpression, .node .string, .node .templateString,
  .node .templateSubstitution, .node .regex, .node .metaProperty, .node .arguments,
  .node .decorator, .decoratorMember, .decoratorCall, .node .classBody, .node .formalParameters,
  .node .classStaticBlock, .pattern, .node .restPattern, .node .methodDefinition, .node .pair,
  .node .pairPattern, .memberName, .node .computedPropertyName, .node .publicFieldDefinition,
  .importedName, .node .nonNullExpression, .node .methodSignature, .node .abstractMethodSignature,
  .node .functionSignature, .decoratorGroup, .node .typeAssertion, .node .asExpression,
  .node .satisfiesExpression, .node .instantiationExpression, .node .importRequireClause,
  .node .extendsClause, .base, .node .implementsClause, .node .ambientDeclaration,
  .node .abstractClassDeclaration, .node .module, .node .internalModule, .moduleParts,
  .node .importAlias, .node .nestedTypeIdentifier, .node .interfaceDeclaration,
  .node .extendsTypeClause, .node .enumDeclaration, .node .enumBody, .node .enumAssignment,
  .node .typeAliasDeclaration, .node .accessibilityModifier, .node .overrideModifier,
  .node .requiredParameter, .node .optionalParameter, .parameterName,
  .node .omittingTypeAscription, .node .addingTypeAscription, .node .optingTypeAscription,
  .node .typeAscription, .importedMember, .importedCall, .node .asserts, .node .assertsAscription,
  .type, .tupleParameter, .optionalTupleParameter, .node .optionalType, .node .restType,
  .tupleItem, .node .constructorType, .primaryType, .node .templateType,
  .node .templateLiteralType, .node .inferType, .node .conditionalType, .node .genericType,
  .node .typePredicate, .node .typePredicateAscription, .queriedMember, .queriedElement,
  .queriedCall, .queriedInstance, .node .typeQuery, .node .indexTypeQuery, .node .lookupType,
  .node .mappedTypeClause, .node .literalType, .signedNumber, .node .existentialType,
  .node .flowMaybeType, .node .parenthesizedType, .node .predefinedType, .node .typeArguments,
  .node .objectType, .node .callSignature, .node .propertySignature, .node .typeParameters,
  .node .typeParameter, .node .defaultType, .node .constraint, .node .constructSignature,
  .node .indexSignature, .node .arrayType, .node .tupleType, .node .readonlyType,
  .node .unionType, .node .intersectionType, .node .functionType]

/-- The rules, grouped by what they are about. -/
def themes : List (Symbol × Rule) :=
  moduleRules ++ typeRules ++ classRules ++ statementRules ++ expressionRules

/-- What binds tighter than what. -/
def precedence : List (List Bound) := [
  [
    .rank .member, .rank .templateCall, .rank .call, .symbol (.node .updateExpression),
    .rank .unaryWord, .rank .power, .rank .times, .rank .plus, .rank .shift, .rank .relation,
    .rank .equality, .rank .bitAnd, .rank .bitXor, .rank .bitOr, .rank .and, .rank .or,
    .rank .ternary, .symbol (.node .sequenceExpression), .symbol (.node .arrowFunction)],
  [.rank .assign, .symbol .primary],
  [.rank .member, .rank .templateCall, .rank .new, .rank .call, .symbol .expression],
  [.rank .declare, .rank .literal],
  [.symbol .primary, .symbol (.node .statementBlock), .rank .object],
  [.symbol (.node .metaProperty), .symbol (.node .import)],
  [.symbol (.node .importStatement), .symbol (.node .import)],
  [.symbol (.node .exportStatement), .symbol .primary],
  [.symbol (.node .lexicalDeclaration), .symbol .primary],
  [
    .rank .call, .rank .instantiation, .rank .unary, .rank .binary,
    .symbol (.node .awaitExpression), .symbol (.node .arrowFunction)],
  [.rank .heritage, .rank .instantiation],
  [
    .symbol (.node .intersectionType), .symbol (.node .unionType),
    .symbol (.node .conditionalType), .symbol (.node .functionType), .rank .binary,
    .symbol (.node .typePredicate), .symbol (.node .readonlyType)],
  [.symbol (.node .mappedTypeClause), .symbol .primary],
  [.symbol (.node .accessibilityModifier), .symbol .primary],
  [.rank .unaryWord, .symbol .expression],
  [.symbol (.node .extendsClause), .symbol .primary],
  [.rank .unary, .rank .assign],
  [.rank .declare, .symbol .expression],
  [.symbol (.node .predefinedType), .symbol (.node .unaryExpression)],
  [.symbol .type, .symbol (.node .flowMaybeType)],
  [.symbol (.node .tupleType), .symbol (.node .arrayType), .symbol .pattern, .symbol .type],
  [.symbol (.node .readonlyType), .symbol .pattern],
  [.symbol (.node .readonlyType), .symbol .primary],
  [.symbol (.node .typeQuery), .symbol (.node .subscriptExpression), .symbol .expression],
  [.symbol (.node .typeQuery), .symbol .queriedElement],
  [
    .symbol (.node .nestedTypeIdentifier), .symbol (.node .genericType), .symbol .primaryType,
    .symbol (.node .lookupType), .symbol (.node .indexTypeQuery), .symbol .type],
  [.symbol (.node .asExpression), .symbol (.node .satisfiesExpression), .symbol .primaryType],
  [.symbol .queriedMember, .symbol (.node .memberExpression)],
  [.symbol (.node .memberExpression), .symbol .importedMember],
  [.symbol .queriedMember, .symbol .primary],
  [.symbol .queriedElement, .symbol (.node .subscriptExpression)],
  [.symbol .queriedElement, .symbol .primary],
  [.symbol .queriedCall, .symbol .primary],
  [.symbol .queriedInstance, .symbol .primary],
  [.symbol (.node .typeQuery), .symbol .primary],
  [.symbol (.node .overrideModifier), .symbol .primary],
  [.symbol .decoratorCall, .symbol (.node .decorator)],
  [.symbol (.node .literalType), .symbol .pattern],
  [.symbol (.node .predefinedType), .symbol .pattern],
  [.symbol (.node .callExpression), .symbol .queriedCall],
  [.symbol (.node .callExpression), .symbol .importedCall],
  [.symbol (.node .newExpression), .symbol .primary],
  [.symbol (.node .metaProperty), .symbol .primary],
  [.symbol (.node .constructSignature), .symbol .memberName]]

/-- The grammar of TypeScript. -/
def typeScript : Grammar where
  rules := order.filterMap fun symbol => themes.find? fun rule => rule.1 == symbol
  orderings := precedence

end Grammar

end TypeAtlas
