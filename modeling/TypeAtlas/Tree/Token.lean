import TypeAtlas.Tree.Node

/-!
The tokens that sources are made of.

Most tokens are words: keywords and punctuation, each with one spelling. The others are classes of
texts, such as names and numbers. Some tokens have no text of their own, and only what stands around
a place decides whether one of them is there; the end of the source is one more. `Token.all` lists
the tokens in a fixed order, and a token's number is its place in that list.
-/

set_option autoImplicit false

namespace TypeAtlas

/-- The tokens of a source. -/
inductive Token where
  /-- The end of the source. -/
  | sourceEnd
  | name
  /-- A keyword or punctuation. -/
  | word (spelling : String)
  | hashBang | privateName | number | comment
  /-- Text of a string between double quotes, without escapes. -/
  | doubleFragment
  /-- Text of a string between single quotes, without escapes. -/
  | singleFragment
  | escape
  /-- What stands between the slashes of a regular expression. -/
  | pattern
  /-- The slash that ends a regular expression. -/
  | patternEnd
  /-- The letters after a regular expression. -/
  | flags
  /-- The end of a statement that has no semicolon. -/
  | silentEnd
  /-- Text of a template, without escapes and substitutions. -/
  | templateText
  /-- The question mark of a conditional expression. -/
  | questionMark
  /-- A comment in the manner of markup, up to the end of its line. -/
  | markupComment
  /-- The end of the signature of a function without a body. -/
  | silentSignatureEnd
deriving DecidableEq, Hashable, Repr, Inhabited

namespace Token

/-- Every token, the one with the number zero first. -/
def all : Array Token :=
  let words (spellings : List String) : List Token := spellings.map .word
  List.toArray <| [.sourceEnd, .name, .hashBang] ++
    words [
      "export", "*", "default", "type", "import", "=", "as", "namespace", ".", "\x7b", ",",
      "\x7d", "typeof", "from", "with", "var", "let", "const", "!", "else", "if", "switch", "for",
      "(", ";", ")", "await", "in", "of", "while", "do", "try", "break", "continue", "debugger",
      "return", "throw", ":", "case", "catch", "finally", "yield", "[", "]", "class", "async",
      "function", "=>", "?.", "new", "using", "+=", "-=", "*=", "/=", "%=", "^=", "&=", "|=",
      ">>=", ">>>=", "<<=", "**=", "&&=", "||=", "??=", "...", "&&", "||", ">>", ">>>", "<<", "&",
      "^", "|", "+", "-", "/", "%", "**", "<", "<=", "==", "===", "!=", "!==", ">=", ">", "??",
      "instanceof", "~", "void", "delete", "++", "--", "\"", "\x27"] ++
    [.doubleFragment, .singleFragment, .escape, .comment] ++
    words [
      "\x60", "$\x7b"] ++
    [.patternEnd, .pattern, .flags, .number, .privateName] ++
    words [
      "target", "meta", "this", "super", "true", "false", "null", "undefined", "@", "static",
      "readonly", "get", "set", "?", "declare", "public", "private", "protected", "override",
      "module", "any", "number", "boolean", "string", "symbol", "object", "abstract", "accessor",
      "satisfies", "require", "extends", "implements", "global", "interface", "enum", "-?:",
      "+?:", "?:", "asserts", "infer", "is", "keyof", "unique", "unknown", "never", "\x7b|",
      "|\x7d"] ++
    [.silentEnd, .templateText, .questionMark, .markupComment, .silentSignatureEnd]

/-- The place of a token in the list of all. -/
def code (token : Token) : Nat := (all.idxOf? token).getD 0

/-- Comments may stand anywhere and belong to no rule. -/
def isComment : Token → Bool
  | .comment | .markupComment => true
  | _ => false

/-- The kind of the node a token becomes, if it becomes one. -/
def kind? : Token → Option Kind
  | .sourceEnd | .silentEnd | .silentSignatureEnd => none
  | .name => some .identifier
  | .privateName => some .privatePropertyIdentifier
  | .number => some .number
  | .hashBang => some .hashBangLine
  | .comment => some .comment
  | .markupComment => some .markupComment
  | .doubleFragment | .singleFragment | .templateText => some .stringFragment
  | .escape => some .escapeSequence
  | .pattern => some .regexPattern
  | .patternEnd => some (.token "/")
  | .flags => some .regexFlags
  | .questionMark => some (.token "?")
  | .word "this" => some .this
  | .word "super" => some .super
  | .word "true" => some .true
  | .word "false" => some .false
  | .word "null" => some .null
  | .word "undefined" => some .undefined
  | .word spelling => some (.token spelling)

/-- Whether a spelling is made of letters alone, as that of every keyword is. -/
def isKeyword (spelling : String) : Bool := spelling.toList.all Char.isLower

end Token

end TypeAtlas
