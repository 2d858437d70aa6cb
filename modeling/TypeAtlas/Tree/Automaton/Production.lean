import TypeAtlas.Tree.Grammar

/-!
Productions: what a part can be made of, one way at a time.

Rules with choices and options fall apart into productions, and every repeated part gets a symbol of
its own, the same one for the same part. Symbols are numbered: the tokens come first, then the parts
in the order of the grammar, then the repetitions in the order in which they are met.
-/

set_option autoImplicit false

namespace TypeAtlas

namespace Grammar

/-- One piece of a production. -/
structure Step where
  /-- The number of the token or part. -/
  sign : Nat
  label : Option Kind
  role : Option Role
deriving DecidableEq, Hashable, Repr

/-- One way to make up a part. -/
structure Production where
  steps : List Step
  rank : Option Rank
  side : Option Side
  weight : Int
deriving DecidableEq, Repr

namespace Production

/-- The production without any piece. -/
def empty : Production := ⟨[], none, none, 0⟩

/-- The production of a single piece. -/
def one (sign : Nat) : Production := ⟨[⟨sign, none, none⟩], none, none, 0⟩

/-- Of two weights, the one that is farther from zero. -/
def heavier (a b : Int) : Int := if a.natAbs < b.natAbs then b else a

/-- One production followed by another. -/
def append (first second : Production) : Production :=
  ⟨first.steps ++ second.steps, first.rank <|> second.rank, first.side <|> second.side,
    heavier first.weight second.weight⟩

/-- The production with every piece changed. -/
def mapSteps (change : Step → Step) (production : Production) : Production :=
  { production with steps := production.steps.map change }

end Production

/-- The productions of what is repeated, in the order in which the repetitions are met. -/
abbrev Runs := Array (List Production)

/-- The symbol of the repetition of what has these productions. -/
def runOf (productions : List Production) : StateM Runs Symbol := do
  let runs ← get
  match runs.idxOf? productions with
  | some index => return .run index
  | none =>
    set (runs.push productions)
    return .run runs.size

mutual

/-- The productions of a rule. What is innermost decides on role, label, rank and side. -/
def Rule.productions (number : Symbol → Nat) : Rule → StateM Runs (List Production)
  | .token token => return [.one token.code]
  | .call symbol => return [.one (number symbol)]
  | .seq parts => productionsOfSeq number parts
  | .alt choices => productionsOfAlt number choices
  | .opt part => return (← part.productions number) ++ [.empty]
  | .many part => do
    return [.one (number (← runOf (← part.productions number)))]
  | .role role part => do
    return (← part.productions number).map fun production =>
      production.mapSteps fun step => { step with role := step.role <|> some role }
  | .label kind part => do
    return (← part.productions number).map fun production =>
      production.mapSteps fun step => { step with label := step.label <|> some kind }
  | .ranked rank part => do
    return (← part.productions number).map fun production =>
      { production with rank := production.rank <|> some rank }
  | .grouped side part => do
    return (← part.productions number).map fun production =>
      { production with side := production.side <|> some side }
  | .weigh weight part => do
    return (← part.productions number).map fun production =>
      { production with weight := Production.heavier production.weight weight }

/-- The productions of a sequence of rules. -/
def productionsOfSeq (number : Symbol → Nat) : List Rule → StateM Runs (List Production)
  | [] => return [.empty]
  | part :: rest => do
    let first ← part.productions number
    let second ← productionsOfSeq number rest
    return first.flatMap fun production => second.map production.append

/-- The productions of a choice of rules. -/
def productionsOfAlt (number : Symbol → Nat) : List Rule → StateM Runs (List Production)
  | [] => return []
  | choice :: rest => return (← choice.productions number) ++ (← productionsOfAlt number rest)

end

/-- The number of tokens, which is the number of the first part. -/
def tokenCount : Nat := Token.all.size

/-- The number of a part. -/
def numberOf (grammar : Grammar) : Symbol → Nat
  | .run index => tokenCount + grammar.rules.length + index
  | symbol => tokenCount + grammar.rules.findIdx fun rule => rule.1 == symbol

end Grammar

/-- A grammar whose rules have fallen apart into productions. Parts are counted from zero here. -/
structure Productions where
  /-- The parts in the order of their numbers. -/
  symbols : Array Grammar.Symbol
  /-- The productions of every part. -/
  ofPart : Array (List Grammar.Production)
  /-- Lists of what binds tighter than what. -/
  orderings : List (List Grammar.Bound)

namespace Productions

open Grammar

/-- The productions of every rule of a grammar. -/
def ofRules (grammar : Grammar) : StateM Runs (List (List Production)) :=
  grammar.rules.mapM fun rule => rule.2.productions grammar.numberOf

/-- The productions of a grammar. A repetition is two repetitions or what it repeats. -/
def ofGrammar (grammar : Grammar) : Productions :=
  let (parts, runs) := (ofRules grammar).run #[]
  let repeated := runs.toList.mapIdx fun index productions =>
    let run := Production.one (grammar.numberOf (.run index))
    run.append run :: productions
  { symbols := (grammar.rules.map Prod.fst).toArray ++ (Array.range runs.size).map Symbol.run
    ofPart := ((parts ++ repeated).map List.eraseDups).toArray
    orderings := grammar.orderings }

end Productions

end TypeAtlas
