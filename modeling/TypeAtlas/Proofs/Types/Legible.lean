import TypeAtlas.Proofs.Text.Pieces
import TypeAtlas.Proofs.Types.Flat
import TypeAtlas.Types.Printer

/-!
# Types that can be read back

The text of a type has parentheses around the elements of arrays and around functions. Operands and
indexed types have none. A type that needs none there is legible (`TypeExpr.Legible`): its operands
bind tighter than what combines them, and what is indexed is not combined.

The text of a legible type is made of pieces (`TypeExpr.Legible.toList_print`), and these are
spelled so that they can be told from the text (`TypeExpr.Legible.spelledAll_pieces`). From the
pieces it can be told of what form the type is (`TypeExpr.Legible.ofPieces_pieces`): the loosest
separator tells a combined type, and the last piece every other one.
-/

set_option autoImplicit false

namespace TypeAtlas

open Text (Piece Separator Enclosed IsWord SameButQuotes SpelledAll quoted renderAll levelOf)

/-! ### Words -/

/-- What a word can be. -/
inductive WordKind where
  | keyword | literal | name
deriving DecidableEq, Repr

/-- The words for types that are part of the language. -/
def languageWords : List String :=
  ["any", "number", "boolean", "string", "symbol", "unique symbol", "void", "unknown", "never", "object",
    "null", "undefined"]

/-- Whether a number begins with a character, its sign included. -/
def startsNumber (c : Char) : Bool := c.isDigit || c = '+' || c = '-' || c = '.'

/-- What a word is: part of the language, a number or a truth value, or else a name. -/
def wordKind (word : String) : WordKind :=
  if Text.oneLine word ∈ languageWords then .keyword
  else if word = "true" ∨ word = "false" ∨ word.toList.head?.any startsNumber then .literal
  else .name

/-- A literal is a number, a truth value or a text in quotes. -/
inductive IsLiteral : String → Prop
  | word {word : String} (spelled : IsWord word.toList) (kind : wordKind word = .literal) : IsLiteral word
  | string {quote : Char} {contents : List Char} (either : quote = '"' ∨ quote = '\x27')
      (enclosed : Enclosed quote contents) : IsLiteral (quoted quote contents)

/-! ### Levels -/

namespace Connective

/-- The shape of the types that are combined with the connective. -/
def shape : Connective → List TypeExpr → TypeShape
  | union => .union
  | intersection => .intersection

def separator : Connective → Separator
  | union => .bar
  | intersection => .ampersand

/-- How loosely the connective binds. -/
def level (connective : Connective) : Nat := connective.separator.level

/-- Both connectives bind looser than a type that stands alone. -/
theorem level_pos (connective : Connective) : 0 < connective.level := by cases connective <;> decide

end Connective

/-- How loosely the text of a type is bound together. -/
def TypeShape.level : TypeShape → Nat
  | .union _ => Connective.union.level
  | .intersection _ => Connective.intersection.level
  | _ => 0

/-! ### Legible types -/

/-- A type of keywords, literals, named types, arrays, tuples, unions, intersections and indexed
types that has parentheses nowhere but around the elements of arrays. -/
inductive TypeExpr.Legible : TypeExpr → Prop
  | keyword {word text : String} (spelled : IsWord word.toList) (kind : wordKind word = .keyword) :
      Legible ⟨.keyword word, text⟩
  | literal {spelling text : String} (spelled : IsLiteral spelling) : Legible ⟨.literal spelling, text⟩
  | reference {name text : String} {arguments : List TypeExpr} (spelled : IsWord name.toList)
      (kind : wordKind name = .name) (each : ∀ argument ∈ arguments, argument.Legible) :
      Legible ⟨.reference name arguments, text⟩
  | array {element : TypeExpr} {text : String} (legible : element.Legible) :
      Legible ⟨.array element, text⟩
  | tuple {items : List TypeExpr} {text : String} (each : ∀ item ∈ items, item.Legible) :
      Legible ⟨.tuple items, text⟩
  | combined (connective : Connective) {items : List TypeExpr} {text : String}
      (several : 2 ≤ items.length) (each : ∀ item ∈ items, item.Legible)
      (tighter : ∀ item ∈ items, item.shape.level < connective.level) :
      Legible ⟨connective.shape items, text⟩
  | indexedAccess {object index : TypeExpr} {text : String} (legible : object.Legible)
      (within : index.Legible) (tight : object.shape.level = 0) :
      Legible ⟨.indexedAccess object index, text⟩

/-! ### Types as pieces -/

/-- The piece of a literal. -/
def literalPiece (spelling : String) : Piece :=
  if spelling.toList.head?.any Text.isQuote then .quoted (Text.contentsOf (Text.doubleQuoted spelling))
  else .word spelling.toList

/-- Pieces in parentheses if need be. -/
def enclosedPieces (needed : Bool) (pieces : List Piece) : List Piece :=
  if needed then [.group .round pieces] else pieces

mutual

/-- The pieces of the text of a type. -/
def TypeExpr.pieces : TypeExpr → List Piece
  | ⟨.keyword word, _⟩ => [.word word.toList]
  | ⟨.literal spelling, _⟩ => [literalPiece spelling]
  | ⟨.reference name arguments, _⟩ =>
    match arguments with
    | [] => [.word name.toList]
    | _ :: _ =>
      [.word name.toList, .group .angle ([.separator .comma].intercalate (piecesOf arguments))]
  | ⟨.array element, _⟩ =>
    enclosedPieces element.shape.loose element.pieces ++ [.group .square []]
  | ⟨.tuple items, _⟩ => [.group .square ([.separator .comma].intercalate (piecesOf items))]
  | ⟨.union items, _⟩ => [.separator .bar].intercalate (piecesOf items)
  | ⟨.intersection items, _⟩ => [.separator .ampersand].intercalate (piecesOf items)
  | ⟨.indexedAccess object index, _⟩ => object.pieces ++ [.group .square index.pieces]
  | ⟨.function _, _⟩ | ⟨.object _ _, _⟩ | ⟨.this, _⟩ | ⟨.unsupported, _⟩ => []

def piecesOf : List TypeExpr → List (List Piece)
  | [] => []
  | type :: types => type.pieces :: piecesOf types

end

/-- The pieces of several types are those of each. -/
theorem piecesOf_eq_map (types : List TypeExpr) : piecesOf types = types.map (·.pieces) := by
  induction types with
  | nil => rfl
  | cons type types ih => rw [piecesOf, ih, List.map_cons]

/-- The texts of several types are those of each. -/
theorem printTypes_eq_map (types : List TypeExpr) : printTypes types = types.map (·.print) := by
  induction types with
  | nil => rfl
  | cons type types ih => rw [printTypes, ih, List.map_cons]

namespace TypeExpr

variable {type : TypeExpr}

/-- The pieces of a combined type are those of its operands with the connective in between. -/
theorem pieces_combined (connective : Connective) (items : List TypeExpr) (text : String) :
    pieces ⟨connective.shape items, text⟩ =
      [.separator connective.separator].intercalate (items.map (·.pieces)) := by
  cases connective <;> simp only [Connective.shape, pieces, piecesOf_eq_map] <;> rfl

/-- The text of an operand. -/
def printOperand (type : TypeExpr) : String := enclosed (type.shape matches .function _) type.print

/-- An operand that is no function type is printed as it is. -/
theorem printOperand_eq (plain : ∀ signature, type.shape ≠ .function signature) :
    type.printOperand = type.print := by
  rw [printOperand, enclosed, if_neg]
  split
  · exact absurd ‹_› (plain _)
  · simp

/-- The texts of operands are those of each. -/
theorem printOperands_eq_map (types : List TypeExpr) : printOperands types = types.map
    (·.printOperand) := by
  induction types with
  | nil => rfl
  | cons type types ih =>
    rw [printOperands, ih, List.map_cons]
    rfl

/-- The text of a combined type is that of its operands with the connective in between. -/
theorem print_combined (connective : Connective) (items : List TypeExpr) (text : String) :
    print ⟨connective.shape items, text⟩ =
      (String.ofList connective.separator.letters).intercalate (items.map (·.printOperand)) := by
  cases connective <;> simp only [Connective.shape, print, printOperands_eq_map] <;> rfl

end TypeExpr

/-! ### Literals -/

/-- The piece of a text in quotes is a quoted one, with the contents that it has in double
quotes. -/
theorem literalPiece_quoted {quote : Char} (either : quote = '"' ∨ quote = '\x27')
    {contents inside : List Char}
    (doubled : Text.doubleQuoted (quoted quote contents) = quoted '"' inside) :
    literalPiece (quoted quote contents) = .quoted inside := by
  have isQuote : Text.isQuote quote := by simpa [Text.isQuote] using either
  have first : (quoted quote contents).toList.head? = some quote := by simp [quoted]
  simp [literalPiece, doubled, first, isQuote]

/-- A number begins with no quote. -/
theorem not_isQuote_of_startsNumber {c : Char} (number : startsNumber c) :
    Text.isQuote c = false := by
  rw [Text.isQuote, Bool.or_eq_false_iff, decide_eq_false_iff_not, decide_eq_false_iff_not]
  constructor <;> rintro rfl <;> exact absurd number (by decide)

/-- A literal that is a word does not begin with a quote. -/
theorem not_isQuote_of_wordKind {word : String} (kind : wordKind word = .literal) :
    word.toList.head?.any Text.isQuote = false := by
  unfold wordKind at kind
  split_ifs at kind with language literal
  rcases literal with rfl | rfl | number
  · decide
  · decide
  · cases first : word.toList.head? with
    | none => rfl
    | some c =>
      rw [first] at number
      exact not_isQuote_of_startsNumber number

/-- The piece of a literal that is a word is this word. -/
theorem literalPiece_word {word : String} (kind : wordKind word = .literal) :
    literalPiece word = .word word.toList := by
  simp [literalPiece, not_isQuote_of_wordKind kind]

/-- A literal that is a word has no quotes to put in double ones. -/
theorem doubleQuoted_word {word : String} (kind : wordKind word = .literal) :
    Text.doubleQuoted word = word := by
  have first := not_isQuote_of_wordKind kind
  unfold Text.doubleQuoted
  split
  · rename_i list
    simp [list, Text.isQuote] at first
  · rfl

namespace IsLiteral

variable {spelling : String}

/-- A literal in double quotes is written as its piece is. -/
theorem toList_doubleQuoted (h : IsLiteral spelling) :
    (Text.doubleQuoted spelling).toList = (literalPiece spelling).render := by
  cases h with
  | word _ kind => rw [literalPiece_word kind, doubleQuoted_word kind, Piece.render]
  | string either enclosed =>
    obtain ⟨inside, -, doubled⟩ := Text.exists_guarded either enclosed
    rw [literalPiece_quoted either doubled, doubled]
    simp [Piece.render, quoted]

/-- The piece of a literal is a word or a quoted text. -/
theorem literalPiece_cases (h : IsLiteral spelling) :
    (literalPiece spelling = .word spelling.toList ∧ wordKind spelling = .literal) ∨
      ∃ inside, literalPiece spelling = .quoted inside := by
  cases h with
  | word _ kind => exact .inl ⟨literalPiece_word kind, kind⟩
  | string either enclosed =>
    obtain ⟨inside, -, doubled⟩ := Text.exists_guarded either enclosed
    exact .inr ⟨inside, literalPiece_quoted either doubled⟩

/-- The piece of a literal is spelled as one. -/
theorem spelled_literalPiece (h : IsLiteral spelling) : (literalPiece spelling).Spelled := by
  cases h with
  | word spelled kind => exact literalPiece_word kind ▸ spelled
  | string either enclosed =>
    obtain ⟨inside, guarded, doubled⟩ := Text.exists_guarded either enclosed
    exact literalPiece_quoted either doubled ▸ guarded

/-- Literals with one text are the same but for their quotes. -/
theorem sameButQuotes {other : String} (h : IsLiteral spelling) (h' : IsLiteral other)
    (same : literalPiece spelling = literalPiece other) : SameButQuotes spelling other := by
  cases h with
  | word _ kind =>
    rw [literalPiece_word kind] at same
    cases h' with
    | word _ kind' =>
      rw [literalPiece_word kind'] at same
      rw [String.toList_inj.mp (Piece.word.inj same)]
      exact .refl _
    | string either' enclosed' =>
      obtain ⟨inside', -, doubled'⟩ := Text.exists_guarded either' enclosed'
      rw [literalPiece_quoted either' doubled'] at same
      cases same
  | string either enclosed =>
    obtain ⟨inside, -, doubled⟩ := Text.exists_guarded either enclosed
    rw [literalPiece_quoted either doubled] at same
    cases h' with
    | word _ kind' =>
      rw [literalPiece_word kind'] at same
      cases same
    | string either' enclosed' =>
      obtain ⟨inside', -, doubled'⟩ := Text.exists_guarded either' enclosed'
      rw [literalPiece_quoted either' doubled'] at same
      refine Text.sameButQuotes_of_doubleQuoted either either' enclosed enclosed' ?_
      rw [doubled, doubled', Piece.quoted.inj same]

end IsLiteral

/-! ### Pieces of legible types -/

namespace TypeExpr

variable {type : TypeExpr}

/-- No legible type is a function type. -/
theorem Legible.shape_ne_function (h : type.Legible) (signature : Signature) :
    type.shape ≠ .function signature := by
  cases h with
  | combined connective => cases connective <;> simp [Connective.shape]
  | _ => simp

/-- Types joined by a separator. -/
theorem renderAll_joined {types : List TypeExpr}
    (each : ∀ type ∈ types, type.print.toList = renderAll type.pieces) (separator : Separator) :
    renderAll ([.separator separator].intercalate (types.map (·.pieces))) =
      separator.letters.intercalate (types.map (·.print.toList)) := by
  rw [Text.renderAll_intercalate, List.map_map, List.map_congr_left each]
  rfl

/-- Types with commas between them are written as their pieces are, if each of them is. -/
theorem renderAll_listed {types : List TypeExpr}
    (each : ∀ type ∈ types, type.print.toList = renderAll type.pieces) :
    renderAll ([.separator .comma].intercalate (types.map (·.pieces))) =
      (", ".intercalate (printTypes types)).toList := by
  rw [renderAll_joined each, printTypes_eq_map, String.toList_intercalate, List.map_map]
  rfl

/-- The text of a legible type is made of its pieces. -/
theorem Legible.toList_print (h : type.Legible) : type.print.toList = renderAll type.pieces := by
  induction h with
  | keyword => simp [print, pieces, renderAll, Piece.render]
  | literal spelled => simp [print, pieces, renderAll, spelled.toList_doubleQuoted]
  | @reference name text arguments _ _ _ ih =>
    cases arguments with
    | nil => simp [print, pieces, renderAll, Piece.render]
    | cons first rest =>
      simp only [print, pieces, piecesOf_eq_map, renderAll, Piece.render, renderAll_listed ih]
      simp [Text.Bracket.opening, Text.Bracket.closing]
  | @array element text legible ih =>
    cases loose : element.shape.loose <;>
      simp [print, pieces, renderAll, Piece.render, ih, loose, enclosed, enclosedPieces, Text.Bracket.opening,
        Text.Bracket.closing]
  | tuple each ih =>
    simp only [print, pieces, piecesOf_eq_map, renderAll, Piece.render, renderAll_listed ih]
    simp [Text.Bracket.opening, Text.Bracket.closing]
  | combined connective several each tighter ih =>
    have operands := List.map_congr_left fun item mem => printOperand_eq (each item mem).shape_ne_function
    rw [print_combined, operands, String.toList_intercalate, String.toList_ofList, pieces_combined,
      renderAll_joined ih, List.map_map]
    rfl
  | indexedAccess legible within tight ih ih' =>
    simp [print, pieces, renderAll, Piece.render, ih, ih', Text.Bracket.opening, Text.Bracket.closing]

/-- Every legible type has a piece. -/
theorem Legible.pieces_ne_nil (h : type.Legible) : type.pieces ≠ [] := by
  induction h with
  | @reference name text arguments => cases arguments <;> simp [pieces]
  | @combined connective items text several each tighter ih =>
    rw [pieces_combined]
    match items, several with
    | first :: second :: rest, _ => simp [List.intercalate_cons_cons]
  | _ => simp [pieces]

/-- The pieces of a legible type are spelled as such, and none goes on in the next one. -/
theorem Legible.spelledAll_pieces (h : type.Legible) : SpelledAll type.pieces := by
  induction h with
  | keyword spelled _ => exact ⟨spelled, trivial, trivial⟩
  | literal spelled => exact ⟨spelled.spelled_literalPiece, by cases literalPiece _ <;> trivial, trivial⟩
  | @reference name text arguments spelled _ _ ih =>
    cases arguments with
    | nil => exact ⟨spelled, trivial, trivial⟩
    | cons first rest =>
      rw [pieces, piecesOf_eq_map]
      have inside := Text.spelledAll_intercalate .comma (List.forall_mem_map.mpr ih)
      exact ⟨spelled, trivial, inside, trivial, trivial⟩
  | @array element text legible ih =>
    rw [pieces]
    refine Text.spelledAll_append ?_ ⟨trivial, trivial, trivial⟩ (Text.precedes_group _ _ _)
    cases element.shape.loose with
    | true => exact ⟨ih, trivial, trivial⟩
    | false => exact ih
  | tuple each ih =>
    rw [pieces, piecesOf_eq_map]
    exact ⟨Text.spelledAll_intercalate _ (List.forall_mem_map.mpr ih), trivial, trivial⟩
  | combined connective several each tighter ih =>
    rw [pieces_combined]
    exact Text.spelledAll_intercalate _ (List.forall_mem_map.mpr ih)
  | indexedAccess legible within tight ih ih' =>
    rw [pieces]
    exact Text.spelledAll_append ih ⟨ih', trivial, trivial⟩ (Text.precedes_group _ _ _)

/-- The separators in the text of a legible type that are not in brackets are those of its own
operands and of tighter ones. -/
theorem Legible.levelOf_pieces (h : type.Legible) : levelOf type.pieces = type.shape.level := by
  induction h with
  | literal spelled =>
    rcases spelled.literalPiece_cases with ⟨piece, -⟩ | ⟨inside, piece⟩ <;> rw [pieces, piece] <;> rfl
  | @reference name text arguments => cases arguments <;> rfl
  | @array element text legible ih =>
    have tight : levelOf (enclosedPieces element.shape.loose element.pieces) = 0 := by
      cases shape : element.shape <;> simp_all [enclosedPieces, TypeShape.loose, TypeShape.level, Piece.level]
    rw [pieces, Text.levelOf_append, tight]
    rfl
  | combined connective several each tighter ih =>
    rw [pieces_combined, Text.levelOf_intercalate]
    · cases connective <;> rfl
    · simpa using several
    · refine List.forall_mem_map.mpr fun item mem => ?_
      rw [ih item mem]
      exact Nat.le_of_lt (tighter item mem)
  | indexedAccess legible within tight ih ih' =>
    rw [pieces, Text.levelOf_append, ih, tight]
    rfl
  | _ => rfl

end TypeExpr

/-! ### Forms -/

/-- The forms of legible types. -/
inductive TypeForm where
  | word (kind : WordKind)
  | array | tuple | indexedAccess
  | combined (level : Nat)
  /-- No legible type is of this form. -/
  | other
deriving DecidableEq, Repr

/-- The form of types with the given last piece, which may stand alone. -/
def TypeForm.ofLast (alone : Bool) : Piece → TypeForm
  | .word letters => .word (wordKind (String.ofList letters))
  | .quoted _ => .word .literal
  | .group .angle _ => .word .name
  | .group .square inside =>
    if alone then .tuple else if inside.isEmpty then .array else .indexedAccess
  | .group .round _ | .separator _ => .other

/-- The form of the types that have these pieces. -/
def TypeForm.ofPieces (pieces : List Piece) : TypeForm :=
  match levelOf pieces with
  | 0 => (pieces.getLast?.map (ofLast (pieces.length == 1))).getD .other
  | level => .combined level

def TypeShape.form : TypeShape → TypeForm
  | .keyword _ => .word .keyword
  | .literal _ => .word .literal
  | .reference _ _ => .word .name
  | .array _ => .array
  | .tuple _ => .tuple
  | .union _ => .combined Connective.union.level
  | .intersection _ => .combined Connective.intersection.level
  | .indexedAccess _ _ => .indexedAccess
  | .function _ | .object _ _ | .this | .unsupported => .other

/-- A combined type has the form of its connective. -/
theorem Connective.form_shape (connective : Connective) (items : List TypeExpr) :
    (connective.shape items).form = .combined connective.level := by
  cases connective <;> rfl

namespace TypeExpr

variable {type other : TypeExpr}

/-- The form of a legible type can be told from its pieces. -/
theorem Legible.ofPieces_pieces (h : type.Legible) :
    TypeForm.ofPieces type.pieces = type.shape.form := by
  unfold TypeForm.ofPieces
  rw [h.levelOf_pieces]
  cases h with
  | keyword _ kind => simp [pieces, TypeForm.ofLast, kind, TypeShape.level, TypeShape.form]
  | literal spelled =>
    rcases spelled.literalPiece_cases with ⟨piece, kind⟩ | ⟨inside, piece⟩
    · simp [pieces, piece, TypeForm.ofLast, kind, TypeShape.level, TypeShape.form]
    · simp [pieces, piece, TypeForm.ofLast, TypeShape.level, TypeShape.form]
  | @reference name text arguments _ kind =>
    cases arguments <;> simp [pieces, TypeForm.ofLast, kind, TypeShape.level, TypeShape.form]
  | @array element text legible =>
    have inside : enclosedPieces element.shape.loose element.pieces ≠ [] := by
      cases element.shape.loose <;> simp [enclosedPieces, legible.pieces_ne_nil]
    simp [pieces, TypeForm.ofLast, TypeShape.level, TypeShape.form, inside]
  | tuple => simp [pieces, TypeForm.ofLast, TypeShape.level, TypeShape.form]
  | combined connective => cases connective <;> rfl
  | indexedAccess legible within =>
    simp [pieces, TypeForm.ofLast, TypeShape.level, TypeShape.form, legible.pieces_ne_nil,
      within.pieces_ne_nil]

/-- Legible types with one text are of one form. -/
theorem Legible.form_eq (h : type.Legible) (h' : other.Legible)
    (same : type.pieces = other.pieces) :
    type.shape.form = other.shape.form := by
  rw [← h.ofPieces_pieces, same, h'.ofPieces_pieces]

/-- No legible type is written in parentheses as a whole. -/
theorem Legible.pieces_ne_round (h : type.Legible) (inside : List Piece) :
    type.pieces ≠ [.group .round inside] := by
  intro same
  have form := h.ofPieces_pieces
  rw [same] at form
  cases h with
  | combined connective => rw [Connective.form_shape] at form; cases form
  | _ => cases form

end TypeExpr

end TypeAtlas
