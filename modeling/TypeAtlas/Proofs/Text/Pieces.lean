import Mathlib.Data.List.Basic
import TypeAtlas.Proofs.Text.Literals

/-!
# Texts made of pieces

Words, texts in double quotes, separators and brackets are written one after the other
(`renderAll`). If they are spelled so that each can be told from what follows it (`SpelledAll`),
then no text is written for two lists of pieces. Main statement: `eq_of_renderAll_eq`.

A quote in a quoted text has a backslash directly before it (`Guarded`), but not every quote with
one directly before it is in the quoted text: the backslash may be escaped itself. So it cannot be
seen where a quoted text ends. It can be seen where one begins, as no backslash is directly before
that (`Outside`), and this is enough: what one reader takes to be outside of quotes another cannot
take to be inside (`Outside.not_guarded`).
-/

set_option autoImplicit false

namespace TypeAtlas.Text

/-! ### Pieces -/

inductive Bracket where
  | square | angle | round
deriving DecidableEq, Repr

namespace Bracket

def opening : Bracket → Char
  | square => '['
  | angle => '<'
  | round => '('

def closing : Bracket → Char
  | square => ']'
  | angle => '>'
  | round => ')'

end Bracket

inductive Separator where
  | bar | ampersand | comma
deriving DecidableEq, Repr

/-- A separator with the spaces around it. -/
def Separator.letters : Separator → List Char
  | bar => [' ', '|', ' ']
  | ampersand => [' ', '&', ' ']
  | comma => [',', ' ']

inductive Piece where
  | word (letters : List Char)
  /-- What stands between double quotes. -/
  | quoted (contents : List Char)
  | separator (separator : Separator)
  | group (bracket : Bracket) (inside : List Piece)

mutual

/-- A piece as it is written. -/
def Piece.render : Piece → List Char
  | .word letters => letters
  | .quoted contents => '"' :: contents ++ ['"']
  | .separator separator => separator.letters
  | .group bracket inside => bracket.opening :: renderAll inside ++ [bracket.closing]

/-- Pieces written one after the other. -/
def renderAll : List Piece → List Char
  | [] => []
  | piece :: rest => piece.render ++ renderAll rest

end

/-- Pieces may be written in two parts. -/
@[simp]
theorem renderAll_append (pieces more : List Piece) :
    renderAll (pieces ++ more) = renderAll pieces ++ renderAll more := by
  induction pieces with
  | nil => rfl
  | cons piece rest ih => simp [renderAll, ih]

/-- Whether a character is part of a bracket or a separator, spaces aside. -/
def isMark (c : Char) : Bool := c ∈ ['[', ']', '<', '>', '(', ')', ',', '|', '&']

/-- A word holds no marks and no double quotes, and has no space at its ends. -/
structure IsWord (letters : List Char) : Prop where
  ne_nil : letters ≠ []
  unmarked : ∀ c ∈ letters, isMark c = false
  unquoted : '"' ∉ letters
  first : letters.head? ≠ some ' '
  last : letters.getLast? ≠ some ' '

/-- A backslash stands directly before every double quote. -/
inductive Guarded : List Char → Prop
  | nil : Guarded []
  | plain {c : Char} {rest : List Char} : c ≠ '"' → Guarded rest → Guarded (c :: rest)
  | escaped {rest : List Char} : Guarded rest → Guarded ('\\' :: '"' :: rest)

/-- After a word there is neither a word nor a quoted text. -/
def Piece.Precedes : Piece → List Piece → Prop
  | .word _, .word _ :: _ | .word _, .quoted _ :: _ => False
  | _, _ => True

mutual

/-- A piece is spelled as one. -/
def Piece.Spelled : Piece → Prop
  | .word letters => IsWord letters
  | .quoted contents => Guarded contents
  | .separator _ => True
  | .group _ inside => SpelledAll inside

/-- All pieces are spelled as such, and none goes on in the next one. -/
def SpelledAll : List Piece → Prop
  | [] => True
  | piece :: rest => piece.Spelled ∧ piece.Precedes rest ∧ SpelledAll rest

end

/-! ### Words -/

/-- What a word cannot go on with. -/
inductive Stops : List Char → Prop
  | nil : Stops []
  | mark {c : Char} (marked : isMark c) (rest : List Char) : Stops (c :: rest)
  | space {c : Char} (marked : isMark c) (rest : List Char) : Stops (' ' :: c :: rest)

/-- Nothing more of a word comes where a word stops. -/
theorem IsWord.eq_nil_of_stops {letters more rest : List Char} (word : IsWord (letters ++ more))
    (stops : Stops (more ++ rest)) : more = [] := by
  rcases more with _ | ⟨c, more⟩
  · rfl
  have unmarked : ∀ d ∈ c :: more, isMark d = false := fun d mem =>
    word.unmarked d (List.mem_append_right letters mem)
  generalize whole : c :: more ++ rest = text at stops
  cases stops with
  | nil => simp at whole
  | mark marked =>
    obtain ⟨rfl, -⟩ := List.cons.inj whole
    simp [unmarked] at marked
  | space marked =>
    rcases more with _ | ⟨d, more⟩
    · obtain ⟨rfl, -⟩ := List.cons.inj whole
      exact absurd (by simp) word.last
    · obtain ⟨rfl, -⟩ := List.cons.inj (List.cons.inj whole).2
      simp [unmarked] at marked

/-- A word ends where it cannot go on. -/
theorem IsWord.unique {letters letters' rest rest' : List Char} (word : IsWord letters)
    (word' : IsWord letters') (stops : Stops rest) (stops' : Stops rest')
    (same : letters ++ rest = letters' ++ rest') : letters = letters' ∧ rest = rest' := by
  rcases List.append_eq_append_iff.mp same with ⟨more, rfl, rfl⟩ | ⟨more, rfl, rfl⟩
  · obtain rfl := word'.eq_nil_of_stops stops
    simp
  · obtain rfl := word.eq_nil_of_stops stops'
    simp

/-! ### Quoted texts -/

/-- The text begins outside of quotes. -/
inductive Outside : List Char → Prop
  | nil : Outside []
  | plain {c : Char} {rest : List Char} : c ≠ '"' → (c = '\\' → rest.head? ≠ some '"') →
      Outside rest → Outside (c :: rest)
  | quoted {contents rest : List Char} : Guarded contents → Outside rest →
      Outside ('"' :: contents ++ '"' :: rest)

/-- Without its first character a guarded text is guarded, unless this is the backslash before a
quote. -/
theorem Guarded.tail {c : Char} {rest : List Char} (h : Guarded (c :: rest))
    (apart : c = '\\' → rest.head? ≠ some '"') : Guarded rest := by
  cases h with
  | plain _ guarded => exact guarded
  | escaped _ => exact absurd rfl (apart rfl)

/-- What stands after a quote in a guarded text is guarded. -/
theorem Guarded.of_append_quote {text rest : List Char} (h : Guarded (text ++ '"' :: rest)) :
    Guarded rest := by
  generalize whole : text ++ '"' :: rest = guarded at h
  induction h generalizing text with
  | nil => simp at whole
  | plain other _ ih =>
    rcases text with _ | ⟨c, text⟩
    · exact absurd (List.cons.inj whole).1.symm other
    · exact ih (List.cons.inj whole).2
  | escaped guarded ih =>
    rcases text with _ | ⟨c, _ | ⟨d, text⟩⟩
    · simp at whole
    · simp only [List.cons_append, List.nil_append, List.cons.injEq] at whole
      exact whole.2.2 ▸ guarded
    · exact ih (List.cons.inj (List.cons.inj whole).2).2

/-- If a text begins outside of quotes, then no guarded text leads in it to a quote after which
there is again a text that begins outside. -/
theorem Outside.not_guarded {text guarded rest : List Char} (outside : Outside text)
    (h : Guarded guarded) (outside' : Outside rest) : text ≠ guarded ++ '"' :: rest := by
  -- not by induction on one of the two: the readers change places at each quote
  induction length : text.length using Nat.strongRecOn generalizing text guarded rest with
  | ind n ih =>
    subst length
    intro same
    cases outside with
    | nil => simp at same
    | @plain c text other apart outside =>
      rcases guarded with _ | ⟨d, guarded⟩
      · exact other (List.cons.inj same).1
      obtain ⟨rfl, after⟩ := List.cons.inj same
      refine ih text.length (by simp) outside (h.tail fun backslash quote => ?_) outside' rfl after
      obtain ⟨more, rfl⟩ := List.head?_eq_some_iff.mp quote
      exact apart backslash (after ▸ rfl)
    | @quoted contents text inside outside =>
      rcases guarded with _ | ⟨d, guarded⟩
      · obtain rfl : contents ++ '"' :: text = rest := (List.cons.inj same).2
        exact ih _ (by simp) outside' inside outside rfl rfl
      · cases h with
        | plain other => exact other (List.cons.inj same).1.symm
        | escaped => simp at same

/-- In guarded contents no quote comes before the one that closes them. -/
theorem Guarded.eq_nil_of_outside {contents more rest rest' : List Char}
    (guarded : Guarded (contents ++ more)) (outside : Outside rest) (outside' : Outside rest')
    (same : '"' :: rest = more ++ '"' :: rest') : more = [] := by
  rcases more with _ | ⟨c, more⟩
  · rfl
  obtain ⟨rfl, after⟩ := List.cons.inj same
  exact absurd after (outside.not_guarded guarded.of_append_quote outside')

/-- A quoted text ends where the text goes on outside of quotes. -/
theorem Guarded.unique {contents contents' rest rest' : List Char} (guarded : Guarded contents)
    (guarded' : Guarded contents') (outside : Outside rest) (outside' : Outside rest')
    (same : contents ++ '"' :: rest = contents' ++ '"' :: rest') :
    contents = contents' ∧ rest = rest' := by
  rcases List.append_eq_append_iff.mp same with ⟨more, rfl, after⟩ | ⟨more, rfl, after⟩
  · obtain rfl := guarded'.eq_nil_of_outside outside outside' after
    simpa using after
  · obtain rfl := guarded.eq_nil_of_outside outside' outside after
    simpa using after.symm

/-- The contents of a literal in double quotes are guarded. -/
theorem Enclosed.guarded {contents : List Char} (h : Enclosed '"' contents) : Guarded contents := by
  induction h with
  | nil => exact .nil
  | @escaped c rest _ ih =>
    rcases eq_or_ne c '"' with rfl | other
    · exact .escaped ih
    · exact .plain (by decide) (.plain other ih)
  | plain other _ _ ih => exact .plain other ih

/-- Requoted contents are guarded. -/
theorem guarded_requoted {contents : List Char} (h : Enclosed '\x27' contents) :
    Guarded (requoted contents) := by
  induction h with
  | nil => exact .nil
  | @escaped c rest enclosed ih =>
    rcases eq_or_ne c '\x27' with rfl | single
    · exact requoted_escapedSingle rest ▸ .plain (by decide) ih
    rcases eq_or_ne c '"' with rfl | double
    · exact requoted_escapedDouble rest ▸ .plain (by decide) (.escaped ih)
    · exact requoted_escaped enclosed double single ▸ .plain (by decide) (.plain double ih)
  | @plain c rest _ backslash _ ih =>
    rcases eq_or_ne c '"' with rfl | double
    · exact requoted_double rest ▸ .escaped ih
    · exact requoted_cons double (.inl backslash) ▸ .plain double ih

/-- A string literal in double quotes is guarded between them. -/
theorem exists_guarded {quote : Char} {contents : List Char} (either : quote = '"' ∨ quote = '\x27')
    (enclosed : Enclosed quote contents) :
    ∃ inside, Guarded inside ∧ doubleQuoted (quoted quote contents) = quoted '"' inside := by
  rcases either with rfl | rfl
  · exact ⟨contents, enclosed.guarded, doubleQuoted_quoted_double contents⟩
  · exact ⟨requoted contents, guarded_requoted enclosed, doubleQuoted_quoted_single contents⟩

/-! ### What follows a piece -/

/-- Only brackets are closed where pieces end. -/
def Ends (rest : List Char) : Prop := ∀ c ∈ rest.head?, ∃ bracket : Bracket, c = bracket.closing

/-- A closing bracket is a mark. -/
theorem isMark_closing (bracket : Bracket) : isMark bracket.closing := by cases bracket <;> decide

/-- An opening bracket is a mark. -/
theorem isMark_opening (bracket : Bracket) : isMark bracket.opening := by cases bracket <;> decide

/-- Where pieces end, a word stops. -/
theorem Ends.stops {rest : List Char} (ends : Ends rest) : Stops rest := by
  rcases rest with _ | ⟨c, rest⟩
  · exact .nil
  · obtain ⟨bracket, rfl⟩ := ends c rfl
    exact .mark (isMark_closing bracket) rest

/-- At a closing bracket pieces end. -/
theorem ends_closing (bracket : Bracket) (rest : List Char) : Ends (bracket.closing :: rest) := by
  intro c mem
  exact ⟨bracket, (Option.some.inj mem).symm⟩

/-- A piece cannot go on with a text. -/
def Piece.Apart : Piece → List Char → Prop
  | .word _, rest => Stops rest
  | _, _ => True

/-- No piece goes on with the pieces after it. -/
theorem Piece.Precedes.apart {piece : Piece} {pieces : List Piece} {rest : List Char}
    (precedes : piece.Precedes pieces) (ends : Ends rest) : piece.Apart
    (renderAll pieces ++ rest) := by
  match piece, pieces, precedes with
  | .word _, [], _ => exact ends.stops
  | .word _, .separator .bar :: _, _ | .word _, .separator .ampersand :: _, _ =>
    exact .space (by decide) _
  | .word _, .separator .comma :: _, _ => exact .mark (by decide) _
  | .word _, .group bracket _ :: _, _ => exact .mark (isMark_opening bracket) _
  | .quoted _, _, _ | .separator _, _, _ | .group _ _, _, _ => trivial

/-- Where a word stops, no quote comes. -/
theorem Stops.head?_ne_quote {rest : List Char} (stops : Stops rest) : rest.head? ≠ some '"' := by
  cases stops with
  | nil => simp
  | mark marked =>
    rintro same
    obtain rfl := Option.some.inj same
    exact absurd marked (by decide)
  | space => simp

/-- In front of a text that begins outside of quotes there may be anything without quotes, but for a
backslash that a quote comes after. -/
theorem Outside.append {text rest : List Char} (outside : Outside rest) (unquoted : '"' ∉ text)
    (apart : text.getLast? = some '\\' → rest.head? ≠ some '"') : Outside (text ++ rest) := by
  induction text with
  | nil => exact outside
  | cons c text ih =>
    rw [List.mem_cons, not_or] at unquoted
    rcases text with _ | ⟨d, text⟩
    · exact .plain (Ne.symm unquoted.1) (fun backslash => apart (backslash ▸ rfl)) outside
    · refine .plain (Ne.symm unquoted.1) (fun _ quote => ?_) (ih unquoted.2 apart)
      obtain rfl := Option.some.inj quote
      simp at unquoted

/-- An opening bracket before a text outside of quotes is outside too. -/
theorem Outside.opening {rest : List Char} (outside : Outside rest) (bracket : Bracket) :
    Outside ([bracket.opening] ++ rest) :=
  outside.append (by cases bracket <;> decide) (by cases bracket <;> simp [Bracket.opening])

/-- A closing bracket before a text outside of quotes is outside too. -/
theorem Outside.closing {rest : List Char} (outside : Outside rest) (bracket : Bracket) :
    Outside ([bracket.closing] ++ rest) :=
  outside.append (by cases bracket <;> decide) (by cases bracket <;> simp [Bracket.closing])

/-- Pieces begin outside of quotes. -/
theorem outside_renderAll : (pieces : List Piece) → SpelledAll pieces →
    {rest : List Char} → Ends rest →
    Outside rest → Outside (renderAll pieces ++ rest)
  | [], _, _, _, outside => outside
  | piece :: pieces, ⟨spelled, precedes, others⟩, rest, ends, outside => by
    have after := outside_renderAll pieces others ends outside
    rw [renderAll, List.append_assoc]
    match piece, spelled, precedes with
    | .word letters, word, precedes =>
      have stops : Stops (renderAll pieces ++ rest) := precedes.apart ends
      exact after.append (word : IsWord letters).unquoted fun _ => stops.head?_ne_quote
    | .quoted contents, guarded, _ => simpa [Piece.render] using Outside.quoted guarded after
    | .separator separator, _, _ =>
      exact after.append (by cases separator <;> decide)
        (by cases separator <;> simp [Piece.render, Separator.letters])
    | .group bracket inside, spelled, _ =>
      simpa [Piece.render] using
        (outside_renderAll inside spelled (ends_closing bracket _) (after.closing bracket)).opening bracket
termination_by pieces => sizeOf pieces

/-! ### Where pieces begin -/

/-- The forms of pieces. -/
inductive PieceForm where
  | word | quoted | separator
  | group (bracket : Bracket)
deriving DecidableEq, Repr

/-- The form of the pieces that begin with a character. With a closing bracket no piece begins. -/
def PieceForm.ofFirst? (c : Char) : Option PieceForm :=
  if c = '"' then some quoted
  else if c = ' ' ∨ c = ',' then some separator
  else if c = '[' then some (group .square)
  else if c = '<' then some (group .angle)
  else if c = '(' then some (group .round)
  else if isMark c then none
  else some word

def Piece.form : Piece → PieceForm
  | word _ => .word
  | quoted _ => .quoted
  | separator _ => .separator
  | group bracket _ => .group bracket

/-- A piece that begins like a word is one. -/
theorem IsWord.ofFirst? {c : Char} {rest : List Char} (word : IsWord (c :: rest)) :
    PieceForm.ofFirst? c = some .word := by
  have unmarked := word.unmarked c List.mem_cons_self
  have quote : c ≠ '"' := fun same => word.unquoted (by simp [same])
  have space : c ≠ ' ' := fun same => word.first (by simp [same])
  unfold PieceForm.ofFirst?
  split_ifs <;> simp_all [isMark]

/-- The first character of a piece tells its form. -/
theorem Piece.exists_first {piece : Piece} (spelled : piece.Spelled) :
    ∃ c rest, piece.render = c :: rest ∧ PieceForm.ofFirst? c = some piece.form := by
  cases piece with
  | word letters =>
    have word : IsWord letters := spelled
    obtain ⟨c, rest, rfl⟩ := List.exists_cons_of_ne_nil word.ne_nil
    exact ⟨c, rest, rfl, word.ofFirst?⟩
  | quoted contents => exact ⟨'"', _, rfl, rfl⟩
  | separator separator => cases separator <;> exact ⟨_, _, rfl, rfl⟩
  | group bracket inside => exact ⟨_, _, rfl, by cases bracket <;> rfl⟩

/-- Where pieces end, no piece begins. -/
theorem Ends.ne_render {piece : Piece} (spelled : piece.Spelled) {rest : List Char}
    (ends : Ends rest)
    (more : List Char) : rest ≠ piece.render ++ more := by
  rintro rfl
  obtain ⟨c, others, render, first⟩ := piece.exists_first spelled
  rw [render] at ends
  obtain ⟨bracket, rfl⟩ := ends c rfl
  cases bracket <;> cases first

/-- Pieces with which one text begins are of one form. -/
theorem Piece.form_eq_of_render_append {piece piece' : Piece} (spelled : piece.Spelled)
    (spelled' : piece'.Spelled) {rest rest' : List Char}
    (same : piece.render ++ rest = piece'.render ++ rest') : piece.form = piece'.form := by
  obtain ⟨c, more, render, first⟩ := piece.exists_first spelled
  obtain ⟨c', more', render', first'⟩ := piece'.exists_first spelled'
  rw [render, render'] at same
  obtain ⟨rfl, -⟩ := List.cons.inj same
  exact Option.some.inj (first.symm.trans first')

/-! ### Reading pieces -/

mutual

/-- A text begins with one piece only. -/
theorem Piece.render_unique (piece piece' : Piece) (spelled : piece.Spelled)
    (spelled' : piece'.Spelled)
    {rest rest' : List Char} (apart : piece.Apart rest) (apart' : piece'.Apart rest')
    (outside : Outside rest) (outside' : Outside rest')
    (same : piece.render ++ rest = piece'.render ++ rest') : piece = piece' ∧ rest = rest' := by
  have form := Piece.form_eq_of_render_append spelled spelled' same
  match piece, piece', form with
  | .word letters, .word letters', _ =>
    have unique := (spelled : IsWord letters).unique (spelled' : IsWord letters') apart apart' same
    exact unique.imp_left (congrArg Piece.word)
  | .quoted contents, .quoted contents', _ =>
    have unique := (spelled : Guarded contents).unique (spelled' : Guarded contents') outside outside'
      (by simpa [Piece.render] using same)
    exact unique.imp_left (congrArg Piece.quoted)
  | .separator one, .separator other, _ =>
    cases one <;> cases other <;> simp_all [Piece.render, Separator.letters]
  | .group bracket inside, .group bracket' inside', form =>
    obtain rfl : bracket = bracket' := PieceForm.group.inj form
    have unique := renderAll_unique inside inside' spelled spelled' (ends_closing bracket rest)
      (ends_closing bracket rest') (outside.closing bracket) (outside'.closing bracket)
      (by simpa [Piece.render] using same)
    exact unique.imp (congrArg _) fun same => (List.cons.inj same).2
termination_by sizeOf piece

/-- Before a place where pieces end a text is written for one list of pieces only. -/
theorem renderAll_unique (pieces pieces' : List Piece) (spelled : SpelledAll pieces)
    (spelled' : SpelledAll pieces') {rest rest' : List Char} (ends : Ends rest) (ends' : Ends rest')
    (outside : Outside rest) (outside' : Outside rest')
    (same : renderAll pieces ++ rest = renderAll pieces' ++ rest') :
    pieces = pieces' ∧ rest = rest' := by
  match pieces, pieces', spelled, spelled' with
  | [], [], _, _ => exact ⟨rfl, same⟩
  | [], piece :: pieces, _, ⟨spelled, _⟩ =>
    rw [renderAll, renderAll, List.append_assoc] at same
    exact absurd same (ends.ne_render spelled _)
  | piece :: pieces, [], ⟨spelled, _⟩, _ =>
    rw [renderAll, renderAll, List.append_assoc] at same
    exact absurd same.symm (ends'.ne_render spelled _)
  | piece :: pieces, piece' :: pieces', ⟨spelled, precedes, others⟩, ⟨spelled', precedes', others'⟩ =>
    rw [renderAll, renderAll, List.append_assoc, List.append_assoc] at same
    obtain ⟨rfl, left⟩ := piece.render_unique piece' spelled spelled' (precedes.apart ends)
      (precedes'.apart ends') (outside_renderAll pieces others ends outside)
      (outside_renderAll pieces' others' ends' outside') same
    obtain ⟨rfl, rfl⟩ := renderAll_unique pieces pieces' others others' ends ends' outside outside' left
    exact ⟨rfl, rfl⟩
termination_by sizeOf pieces

end

/-- A text is written for one list of pieces only. -/
theorem eq_of_renderAll_eq {pieces pieces' : List Piece} (spelled : SpelledAll pieces)
    (spelled' : SpelledAll pieces') (same : renderAll pieces = renderAll pieces') :
    pieces = pieces' := by
  have ends : Ends [] := by simp [Ends]
  exact (renderAll_unique pieces pieces' spelled spelled' ends ends .nil .nil (by simp [same])).1

/-! ### Joined pieces -/

section

variable {lists : List (List Piece)}

/-- Lists of pieces with a separator between them are written with its letters in between. -/
theorem renderAll_intercalate (separator : Separator) (lists : List (List Piece)) :
    renderAll ([.separator separator].intercalate lists) =
      separator.letters.intercalate (lists.map renderAll) := by
  induction lists with
  | nil => rfl
  | cons pieces rest ih =>
    cases rest with
    | nil => simp
    | cons more rest =>
      rw [List.intercalate_cons_cons, renderAll_append, renderAll_append, ih]
      simp [List.intercalate_cons_cons, renderAll, Piece.render]

/-- Spelled pieces may be followed by others that no piece can go on in. -/
theorem spelledAll_append {pieces more : List Piece} (spelled : SpelledAll pieces)
    (others : SpelledAll more) (apart : ∀ piece : Piece, piece.Precedes more) :
    SpelledAll (pieces ++ more) := by
  induction pieces with
  | nil => exact others
  | cons piece rest ih =>
    obtain ⟨first, precedes, spelled⟩ := spelled
    refine ⟨first, ?_, ih spelled⟩
    cases rest with
    | nil => exact apart piece
    | cons second rest => cases piece <;> cases second <;> exact precedes

/-- Every piece may stand before a separator. -/
theorem precedes_separator (separator : Separator) (more : List Piece) (piece : Piece) :
    piece.Precedes (.separator separator :: more) := by
  cases piece <;> trivial

/-- Every piece may stand before a bracket. -/
theorem precedes_group (bracket : Bracket) (inside more : List Piece) (piece : Piece) :
    piece.Precedes (.group bracket inside :: more) := by
  cases piece <;> trivial

/-- Lists of spelled pieces with a separator between them are spelled. -/
theorem spelledAll_intercalate (separator : Separator)
    (spelled : ∀ pieces ∈ lists, SpelledAll pieces) :
    SpelledAll ([.separator separator].intercalate lists) := by
  induction lists with
  | nil => trivial
  | cons pieces rest ih =>
    obtain ⟨first, others⟩ := List.forall_mem_cons.mp spelled
    cases rest with
    | nil => simpa using first
    | cons more rest =>
      rw [List.intercalate_cons_cons, List.append_assoc]
      exact spelledAll_append first ⟨trivial, by cases separator <;> trivial, ih others⟩
        (precedes_separator separator _)

/-! ### Levels -/

/-- How loosely a separator binds. -/
def Separator.level : Separator → Nat
  | ampersand => 1
  | bar => 2
  | comma => 3

def Piece.level : Piece → Nat
  | separator mark => mark.level
  | _ => 0

/-- How loosely the separators bind that are not in brackets. -/
def levelOf (pieces : List Piece) : Nat := (pieces.map Piece.level).foldr max 0

/-- Pieces bind as loosely as the loosest of them. -/
@[simp]
theorem levelOf_cons (piece : Piece) (pieces : List Piece) :
    levelOf (piece :: pieces) = max piece.level (levelOf pieces) := rfl

/-- Without pieces there is no separator, and so nothing loose. -/
@[simp]
theorem levelOf_nil : levelOf [] = 0 := rfl

/-- Two lists of pieces bind as loosely as the looser of them. -/
@[simp]
theorem levelOf_append (pieces more : List Piece) :
    levelOf (pieces ++ more) = max (levelOf pieces) (levelOf more) := by
  induction pieces with
  | nil => simp
  | cons piece rest ih => simp [ih, Nat.max_assoc]

/-- A separator is not among pieces that bind more tightly. -/
theorem not_mem_of_levelOf_lt {separator : Separator} {pieces : List Piece}
    (tighter : levelOf pieces < separator.level) : .separator separator ∉ pieces := by
  intro mem
  obtain ⟨before, after, rfl⟩ := List.append_of_mem mem
  simp only [levelOf_append, levelOf_cons, Piece.level] at tighter
  omega

/-- Pieces with a separator between them bind no looser than it if none of the lists does. -/
theorem levelOf_intercalate_le {separator : Separator}
    (each : ∀ pieces ∈ lists, levelOf pieces ≤ separator.level) :
    levelOf ([.separator separator].intercalate lists) ≤ separator.level := by
  induction lists with
  | nil => simp
  | cons pieces rest ih =>
    obtain ⟨first, others⟩ := List.forall_mem_cons.mp each
    cases rest with
    | nil => simpa using first
    | cons more rest =>
      have rest := ih others
      simp only [List.intercalate_cons_cons, levelOf_append, levelOf_cons, levelOf_nil, Piece.level]
      omega

/-- Two lists or more with a separator between them bind as loosely as it. -/
theorem levelOf_intercalate {separator : Separator} (several : 2 ≤ lists.length)
    (each : ∀ pieces ∈ lists, levelOf pieces ≤ separator.level) :
    levelOf ([.separator separator].intercalate lists) = separator.level := by
  refine Nat.le_antisymm (levelOf_intercalate_le each) ?_
  match lists, several with
  | pieces :: more :: rest, _ =>
    simp only [List.intercalate_cons_cons, levelOf_append, levelOf_cons, Piece.level]
    omega

/-- Lists that are not empty make an empty one only if there are none of them. -/
theorem eq_nil_of_intercalate {separator : Separator} (nonempty : ∀ pieces ∈ lists, pieces ≠ [])
    (empty : [.separator separator].intercalate lists = []) : lists = [] := by
  match lists with
  | [] => rfl
  | [only] => exact absurd (by simpa using empty) (nonempty only List.mem_cons_self)
  | pieces :: more :: rest => simp [List.intercalate_cons_cons] at empty

/-- Lists that were joined can be told from what came of them, if the separator is in none of
them. -/
theorem intercalate_inj {separator : Separator} {lists' : List (List Piece)}
    (each : ∀ pieces ∈ lists, pieces ≠ [] ∧ levelOf pieces < separator.level)
    (each' : ∀ pieces ∈ lists', pieces ≠ [] ∧ levelOf pieces < separator.level)
    (same : [.separator separator].intercalate lists = [.separator separator].intercalate lists') :
    lists = lists' := by
  have _ : DecidableEq Piece := Classical.decEq Piece
  rcases eq_or_ne lists [] with rfl | some
  · exact (eq_nil_of_intercalate (fun pieces mem => (each' pieces mem).1) same.symm).symm
  rcases eq_or_ne lists' [] with rfl | some'
  · exact eq_nil_of_intercalate (fun pieces mem => (each pieces mem).1) same
  rw [← List.splitOn_intercalate _ (fun pieces mem => not_mem_of_levelOf_lt (each pieces mem).2) some,
    same, List.splitOn_intercalate _ (fun pieces mem => not_mem_of_levelOf_lt (each' pieces mem).2) some']

end

end TypeAtlas.Text
