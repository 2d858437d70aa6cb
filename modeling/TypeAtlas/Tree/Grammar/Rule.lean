import TypeAtlas.Tree.Token

/-!
Rules of a grammar.

A rule says what a part of a source is made of. It may give the nodes it finds a role in their
parent or a label, which is the kind they get in place of their own. Where a source can be read in
two ways, ranks and sides say which one is meant, and weights which one is preferred when both turn
out to be possible.
-/

set_option autoImplicit false

namespace TypeAtlas.Grammar

/-- The parts of a source that have a rule of their own. -/
inductive Symbol where
  /-- A part that becomes a node of this kind. -/
  | node (kind : Kind)
  -- parts whose nodes become nodes of what holds them
  | exportedName | importedName | fromModule | moduleParts
  | declaration | statement | forHeader | initializer
  | expression | primary | updatedTarget | destructuring | pattern
  | signature | parameter | parameterName | memberName | base
  | type | primaryType | tupleItem
  -- parts that become nodes of a kind that other parts have as well
  | decoratorMember | decoratorCall | decoratorGroup | tupleParameter | optionalTupleParameter
  | importedMember | importedCall
  | queriedMember | queriedElement | queriedCall | queriedInstance | signedNumber
  /-- A repeated part, one time or more. -/
  | run (index : Nat)
deriving DecidableEq, Repr, Inhabited

namespace Symbol

/-- The kind of the node a part becomes, if it becomes one. -/
def kind? : Symbol → Option Kind
  | .node kind => some kind
  | .decoratorMember | .importedMember | .queriedMember => some .memberExpression
  | .decoratorCall | .importedCall | .queriedCall => some .callExpression
  | .decoratorGroup => some .parenthesizedExpression
  | .queriedElement => some .subscriptExpression
  | .queriedInstance => some .instantiationExpression
  | .signedNumber => some .unaryExpression
  | .tupleParameter => some .requiredParameter
  | .optionalTupleParameter => some .optionalParameter
  | _ => none

/-- Whether the roles within a part count as known when the parts of its holder are compared. -/
def isOpen : Symbol → Bool
  | .importedMember | .importedCall | .queriedMember | .queriedElement | .queriedCall
  | .queriedInstance | .signedNumber => true
  | symbol => symbol.kind?.isNone

/-- Whether a part is one of several alternatives that have no more in common than the places where
they may stand. -/
def isCategory : Symbol → Bool
  | .statement | .declaration | .expression | .primary | .pattern | .type | .primaryType => true
  | _ => false

/-- Whether a part is a repetition. -/
def isRun : Symbol → Bool
  | .run _ => true
  | _ => false

end Symbol

/-- How tightly a rule holds its parts together. -/
inductive Rank where
  | level (n : Int)
  | member | templateCall | call | instantiation | new
  | unaryWord | power | times | plus | shift | relation | equality
  | bitAnd | bitXor | bitOr | and | or | ternary
  | unary | binary | assign | declare | literal | object | heritage
deriving DecidableEq, Hashable, Repr

/-- To which side the parts of a rule are grouped when it is used twice in a row. -/
inductive Side where
  | left | right
deriving DecidableEq, Hashable, Repr

/-- The rules of a grammar. -/
inductive Rule where
  | token (token : Token)
  | call (symbol : Symbol)
  | seq (parts : List Rule)
  | alt (choices : List Rule)
  | opt (part : Rule)
  /-- The part one time or more. -/
  | many (part : Rule)
  | role (role : Role) (part : Rule)
  | label (kind : Kind) (part : Rule)
  | ranked (rank : Rank) (part : Rule)
  | grouped (side : Side) (part : Rule)
  | weigh (weight : Int) (part : Rule)
deriving Repr, Inhabited

instance : Coe String Rule := ⟨fun spelling => .token (.word spelling)⟩

/-- A part that becomes a node of a kind. -/
def node (kind : Kind) : Rule := .call (.node kind)

/-- A part one time or more, with separators in between. -/
def separated (separator part : Rule) : Rule :=
  .seq [part, .opt (.many (.seq [separator, part]))]

/-- A part one time or more, with commas in between. -/
def commas (part : Rule) : Rule := separated "," part

end TypeAtlas.Grammar
