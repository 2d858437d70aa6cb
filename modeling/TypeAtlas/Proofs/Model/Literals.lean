import TypeAtlas.Proofs.Model.Alternatives
import TypeAtlas.Proofs.Text.Literals
import TypeAtlas.Proofs.Text.Qualifiers

/-!
# String literals as types

A string literal that is used as a type is named by its text on one line, and printed in double
quotes.

Main statement: `Node.keepsValue`. What is printed denotes what the literal denotes, unless the
literal is in single quotes and escapes a double quote, and literals that denote something else are
never printed alike. The name of the literal denotes the same too if the literal holds no blanks but
single spaces, and only then, escaped blanks aside. Neither condition can be dropped: an escaped
double quote closes the printed literal (`Node.not_kept_escaped`), and literals that differ by their
blanks get one name (`Node.not_apart_blanks`).
-/

set_option autoImplicit false

namespace TypeAtlas

open Text (value? breaksOff escapesBlank Spaced)

/-! ### Names -/

/-- A type that was written is named by what was written. -/
theorem Scope.nameOf_of_text_ne {type : TypeExpr} (written : type.text ≠ "") (scope : Scope) :
    scope.nameOf type = type.text := by
  simp [nameOf, TypeExpr.declaredText?, written]

namespace Node

/-! ### Literals -/

/-- A node is a string literal that is used as a type and denotes a value. -/
structure DenotesText (node : Node) (value : List Nat) : Prop where
  kind : node.kind = .literalType
  word : ∃ word ∈ node.firstNamed?, word.1.kind = .string
  denotes : value? node.text = some value

/-- What a string literal denotes is kept by the type that is read from it. -/
structure KeepsValue (node : Node) (value : List Nat) : Prop where
  shape : node.toType.shape = .literal node.text
  printed : value? node.toType.print = if breaksOff node.text then none else some value
  apart : ∀ (other : Node) (another : List Nat), other.DenotesText another →
    other.toType.print = node.toType.print → another = value
  named : Spaced node.text.toList → ∀ scope : Scope, value? (scope.nameOf node.toType) = some value
  shown : Spaced node.text.toList → ¬ Text.qualifierStart <:+: node.text.toList →
    ∀ extraction : Extraction, value? (extraction.nameOf node.toType) = some value
  spaced : ∀ scope : Scope, value? (scope.nameOf node.toType) = some value →
    escapesBlank node.text = false → Spaced node.text.toList

variable {node : Node} {value : List Nat}

/-- A string literal is read as a literal with its text. -/
theorem DenotesText.toType_eq (h : node.DenotesText value) :
    node.toType = .written (.literal node.text) node.text := by
  obtain ⟨word, first, string⟩ := h.word
  rw [toType.eq_def]
  simp [h.kind, Option.mem_def.mp first, string]

/-- A string literal is printed with double quotes. -/
theorem DenotesText.print_eq (h : node.DenotesText value) :
    node.toType.print = Text.doubleQuoted node.text := by
  rw [h.toType_eq, TypeExpr.written, TypeExpr.print]

/-- A string literal has its text on one line as its name. -/
theorem DenotesText.nameOf_eq (h : node.DenotesText value) (scope : Scope) :
    scope.nameOf node.toType = Text.oneLine node.text := by
  have text : node.toType.text = Text.oneLine node.text := by rw [h.toType_eq]; rfl
  obtain ⟨quote, contents, either, quoted, -⟩ := Text.exists_quoted h.denotes
  have written : Text.oneLine node.text ≠ "" := by
    rw [quoted, Text.oneLine_quoted either]
    intro empty
    have list := congrArg String.toList empty
    simp [Text.quoted] at list
  rw [Scope.nameOf_of_text_ne (text ▸ written), text]

/-- Every string literal that is used as a type keeps what it denotes, but for the two conditions on
how it is written. -/
theorem keepsValue (h : node.DenotesText value) : node.KeepsValue value where
  shape := by
    rw [h.toType_eq]
    rfl
  printed := by rw [h.print_eq, Text.value?_doubleQuoted h.denotes]
  apart := by
    intro other another denotes same
    rw [h.print_eq, denotes.print_eq] at same
    exact Text.value?_eq_of_doubleQuoted denotes.denotes h.denotes same
  named := by
    intro spaced scope
    rw [h.nameOf_eq, Text.oneLine_of_spaced h.denotes spaced, h.denotes]
  shown := by
    intro spaced none extraction
    rw [Extraction.nameOf, h.nameOf_eq, Text.oneLine_of_spaced h.denotes spaced,
      Text.unqualified_of_not_infix none, h.denotes]
  spaced := by
    intro scope kept unescaped
    rw [h.nameOf_eq] at kept
    exact Text.spaced_of_value?_oneLine h.denotes kept unescaped

/-- The node of a string denotes what its text denotes. -/
theorem denotesText_textWord {spelling : String} (h : value? spelling = some value) :
    (textWord spelling).DenotesText value where
  kind := rfl
  word := ⟨⟨word .string none spelling, List.mem_singleton_self _⟩, rfl, rfl⟩
  denotes := h

/-- The literal `'it\'s'` keeps its value. -/
theorem keepsValue_apostrophe :
    (textWord "'it\\'s'").DenotesText [105, 116, 39, 115] ∧
      (textWord "'it\\'s'").KeepsValue [105, 116, 39, 115] :=
  have denotes := denotesText_textWord (by decide)
  ⟨denotes, keepsValue denotes⟩

/-! ### Values that are lost -/

/-- The literal `'a\"b'` is printed as `"a\\"b"`, which is no literal. -/
theorem not_kept_escaped :
    (textWord "'a\\\"b'").DenotesText [97, 34, 98] ∧
      (textWord "'a\\\"b'").toType.print = "\"a\\\\\"b\"" ∧
      value? (textWord "'a\\\"b'").toType.print = none := by
  have denotes : (textWord "'a\\\"b'").DenotesText [97, 34, 98] := denotesText_textWord (by decide)
  rw [denotes.print_eq]
  exact ⟨denotes, by decide, by decide⟩

/-- The literals `"a  b"` and `"a b"` denote different texts and have one name. -/
theorem not_apart_blanks (scope : Scope) :
    (textWord "\"a  b\"").DenotesText [97, 32, 32, 98] ∧
      (textWord "\"a b\"").DenotesText [97, 32, 98] ∧
      scope.nameOf (textWord "\"a  b\"").toType = scope.nameOf (textWord "\"a b\"").toType := by
  have wide : (textWord "\"a  b\"").DenotesText [97, 32, 32, 98] := denotesText_textWord (by decide)
  have narrow : (textWord "\"a b\"").DenotesText [97, 32, 98] := denotesText_textWord (by decide)
  rw [wide.nameOf_eq, narrow.nameOf_eq]
  exact ⟨wide, narrow, by decide⟩

end Node

end TypeAtlas
