import TypeAtlas.Tree.Gap

/-!
Goals: which words are looked for at a place.

What a word is depends on where it stands: a slash may divide, or begin or end a regular expression.
There are a few goals, each a set of words, and a state of the automaton reads with the first goal
that suits it: one that holds every word it knows, and no longer one in which such a word would get
lost. After an error nearly all words are looked for. Of the words of a goal the longest one counts.
Keywords are found among the names, and comments belong to every goal.
-/

set_option autoImplicit false

namespace TypeAtlas

open Text (Cursor)

/-- A set of words that are looked for together. -/
structure Goal where
  /-- The tokens of the goal, one bit for each. -/
  tokens : Nat
  /-- The spellings of its marks with the numbers of their tokens, the longest ones first. -/
  marks : List (List Char × Nat)
deriving Inhabited

namespace Goal

/-- The set of some tokens. -/
def setOf (tokens : List Token) : Nat :=
  tokens.foldl (fun bits token => bits ||| 1 <<< token.code) 0

/-- Whether a token is looked for by reading alone. -/
def isReadable : Token → Bool
  | .silentEnd | .templateText | .questionMark | .markupComment | .silentSignatureEnd => false
  | .word spelling => !Token.isKeyword spelling
  | _ => true

/-- The goal with some tokens. -/
def ofList (tokens : List Token) : Goal :=
  let spelling (token : Token) : Option (List Char × Nat) :=
    match token with
    | .word spelling => some (spelling.toList, token.code)
    | _ => none
  { tokens := setOf (.comment :: tokens)
    marks := (tokens.filterMap spelling).mergeSort fun a b => b.1.length ≤ a.1.length }

/-- The goal with all tokens but some. -/
def allBut (tokens : List Token) : Goal :=
  ofList <| Token.all.toList.filter fun token => isReadable token && !tokens.contains token

/-- Marks. -/
def marksOf (spellings : String) : List Token := (spellings.splitOn " ").map .word

/-- The tokens that stand inside of literals. -/
def inLiterals : List Token :=
  [.doubleFragment, .singleFragment, .escape, .word "$\x7b", .patternEnd, .pattern, .flags]

/-- The marks that assign. -/
def assignments : List Token :=
  marksOf "+= -= *= /= %= ^= &= |= >>= >>>= <<= **= &&= ||= ??="

/-- What an expression or a type can begin with nearly everywhere. -/
def openings : List Token :=
  [.number, .name, .privateName] ++ marksOf "* \x7b , ( [ + - < \" \x27 @"

/-- The goal after an error. -/
def anywhere : Goal :=
  allBut ([.doubleFragment, .singleFragment, .pattern, .flags] ++ marksOf "?:")

/-- The goals of states that know what comes next. -/
def all : List Goal := [
  -- where a statement, an expression or a type begins
  ofList (openings ++ [.hashBang, .sourceEnd] ++
    marksOf "= . \x7d ! ; ) : ] => ... & | / > ~ ++ -- \x60 ? |\x7d"),
  -- after an expression
  allBut (inLiterals ++ [.hashBang, .sourceEnd] ++ marksOf "-?: +?: ?:"),
  ofList (openings ++ marksOf ". ! ) ] ... & | / ~ ++ -- \x60 ? \x7b|"),
  allBut (inLiterals ++ [.hashBang, .sourceEnd] ++ marksOf "-?: +?: ?: \x7b| |\x7d"),
  -- after a type
  allBut (inLiterals ++ assignments ++ [.hashBang] ++ marksOf "=> ... -?: +?: ?: \x7b|"),
  ofList (openings ++ marksOf "\x7d ; ] ... & | > \x60 ? \x7b| |\x7d"),
  ofList (openings ++ marksOf "= . \x7d ! ; ) : ] => ?. ... & | / > ~ ++ -- \x60 ? |\x7d"),
  -- where a member begins
  ofList (openings ++ marksOf "\x7d ; ... |\x7d"),
  -- after a regular expression
  allBut ([.hashBang, .doubleFragment, .singleFragment, .escape, .patternEnd, .pattern, .number,
    .privateName, .sourceEnd] ++ assignments ++
    marksOf "= => ... ~ \" \x27 $\x7b @ ? -?: +?: ?: \x7b| |\x7d"),
  -- in a template, or after a member whose name is computed
  ofList (.escape :: marksOf ": \x60 $\x7b -?: +?: ?:"),
  -- in a string
  ofList (.doubleFragment :: .escape :: marksOf "\""),
  ofList (.singleFragment :: .escape :: marksOf "\x27"),
  -- in a regular expression
  ofList [.pattern],
  ofList [.patternEnd]]

/-- Marks that would get lost in longer ones. -/
def losses : List (Token × Token) :=
  [("\x7b", "\x7b|"), ("|", "||"), ("|", "||="), ("<", "<<"), ("-", "--")].map fun pair =>
    (.word pair.1, .word pair.2)

/-- Whether a goal suits a state that knows some words, one bit for each: it holds all of them, and
no other word in which one of them would get lost. -/
def suits (goal : Goal) (words : Nat) : Bool :=
  words ||| goal.tokens = goal.tokens && losses.all fun (short, long) =>
    !(words.testBit short.code && goal.tokens.testBit long.code && !words.testBit long.code)

/-- The first goal that suits a state. -/
def ofWords (words : Nat) : Goal := (all.find? (·.suits words)).getD anywhere

/-- Whether a goal has a token. -/
def has (goal : Goal) (token : Token) : Bool := goal.tokens.testBit token.code

/-! ### Reading -/

/-- The word of a goal that begins at a place after blanks, as a token and its length: the longest
one, and of several the first of those in the order in which they are tried here. An escape and the
flags of a regular expression must not have blanks before them. -/
def wordAt (goal : Goal) (blanks : Bool) (text : List Char) : Option (Token × Nat) :=
  let mark : Token × Nat :=
    match goal.marks.find? fun mark => mark.1.isPrefixOf text with
    | some (spelling, code) => (Token.all.getD code default, spelling.length)
    | none => (.sourceEnd, 0)
  let close : List (Token × Nat) :=
    if blanks then [] else [(.escape, Lexeme.escape text), (.flags, Lexeme.flags text)]
  let others : List (Token × Nat) := [
    (.comment, Lexeme.comment text), (.name, Lexeme.name text),
    (.privateName, Lexeme.privateName text), (.number, Lexeme.number text),
    (.hashBang, Lexeme.hashBang text)]
  let best := (close ++ others).foldl (fun best word =>
    if best.2 < word.2 && goal.has word.1 then word else best) mark
  if best.2 = 0 then none else some best

/-- The word of a goal that stands at a place. The text of a string and the end of a regular
expression come before everything else and have no blanks before them; the text of a regular
expression and the end of the source come last. A text of blanks at the end of a line is passed over
like other blanks. -/
def read (goal : Goal) (cursor : Cursor) : Option Sighting :=
  let exactly (token : Token) (reader : List Char → Nat) : Option Sighting :=
    if goal.has token then
      match reader cursor.rest with
      | 0 => none
      | length => some ⟨token, cursor, cursor.advance length⟩
    else none
  let slash (text : List Char) : Nat := if text.head? = some '/' then 1 else 0
  let start := cursor.skipWhile Lexeme.isSpace
  exactly .doubleFragment (Lexeme.fragment '"') <|>
    exactly .singleFragment (Lexeme.fragment '\x27') <|>
    exactly .patternEnd slash <|>
    ((goal.wordAt (start.place.byte != cursor.place.byte) start.rest).map fun (token, length) =>
      ⟨token, start, start.advance length⟩) <|>
    ((exactly .pattern (Lexeme.pattern 0)).map fun found =>
      if found.stop.place.byte < start.place.byte then { found with start := found.stop }
      else found) <|>
    if start.rest.isEmpty && goal.has .sourceEnd then some ⟨.sourceEnd, start, start⟩ else none

/-- Passes what is no word of a goal, up to the place where the next one is found. What looks like
the beginning of a word is passed as a whole. -/
def passUnreadable (goal : Goal) : (fuel : Nat) → (here : Cursor) → Cursor
  | 0, here => here
  | fuel + 1, here =>
    if (goal.read here).isSome then here
    else
      let start := here.skipWhile Lexeme.isSpace
      let blanks := start.place.byte != here.place.byte
      let stuck := start.advance (Lexeme.broken blanks start.rest)
      if stuck.place.byte = here.place.byte then
        if here.rest.isEmpty then here else passUnreadable goal fuel (here.advance 1)
      else passUnreadable goal fuel stuck

end Goal

end TypeAtlas
