import TypeAtlas.Declarations.Inheritance
import TypeAtlas.Declarations.OfTree
import TypeAtlas.Declarations.Scope
import TypeAtlas.Tree.OfSource

/-!
A source with its syntax tree and its declarations.
-/

set_option autoImplicit false

namespace TypeAtlas

/-- A source that has been read. -/
structure Source where
  text : String
  tree : Node
  declarations : Declarations
  /-- How often a type is replaced by what it stands for, at least once. -/
  hops : Nat

namespace Source

/-- The depth limit of aliases where none is given. -/
def defaultAliasDepth : Nat := 32

/-- The declarations of a tree, with what they inherit and with aliases replaced by what they
stand for. -/
def declarationsOf (tree : Node) (hops : Nat) : Declarations :=
  ((Declarations.ofList tree.declarations).withInheritance).withExpandedAliases hops

/-- Reads a source. -/
def read (text : String) (aliasDepth : Nat) : Source :=
  let tree := Node.ofSource text
  let hops := max aliasDepth 1
  { text, tree, declarations := declarationsOf tree hops, hops }

/-- Whether the source has errors. -/
def hasErrors (source : Source) : Bool := source.tree.hasError

/-- The scope of the declarations. -/
def scope (source : Source) : Scope := ⟨source.declarations, source.hops⟩

end Source

end TypeAtlas
