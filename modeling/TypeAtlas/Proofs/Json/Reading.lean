import Mathlib.Data.List.TakeWhile
import Mathlib.Tactic.SplitIfs
import TypeAtlas.Proofs.Json.Grammar

/-!
# What a reader makes of a text

`Reader.Reads` says that a reader passes over the first part of a text and gives a value, wherever
in a file that text stands: places only matter for errors. It is closed under the steps that readers
are made of, so that a reader is followed through its text step by step. `Reader.Accepts` says the
same of a text with any white space in front of it and anything after it.

The readers of strings come first: whatever way a character is written between quotes, it is read as
that character (`Reader.Reads.escaped`), so characters between quotes are read as the string that
they write (`Reader.Reads.stringRest`). The text of a string is one of these ways
(`Json.writes_escape`).
-/

set_option autoImplicit false

namespace TypeAtlas.Json

namespace Reader

open Text (Cursor Location)

/-- From the first text the reader gets to the second one and gives a value, wherever that is. -/
def Reads {α : Type} (reader : Reader α) (before : List Char) (value : α) (after : List Char) :
    Prop :=
  ∀ place, ∃ stop, reader ⟨place, before⟩ = (.ok value, ⟨stop, after⟩)

namespace Reads

variable {α β : Type}

/-- A value that is given at once leaves the text as it is. -/
theorem pure (value : α) (text : List Char) : Reads (Pure.pure value) text value text :=
  fun place => ⟨place, rfl⟩

/-- Two readers one after the other read two parts of a text. -/
theorem bind {reader : Reader α} {next : α → Reader β} {first : α} {value : β}
    {before between after : List Char} (h : Reads reader before first between)
    (hn : Reads (next first) between value after) : Reads (reader >>= next) before value after := by
  intro place
  obtain ⟨middle, here⟩ := h place
  obtain ⟨stop, there⟩ := hn middle
  refine ⟨stop, ?_⟩
  rw [← there]
  have step : (reader >>= next) ⟨place, before⟩ =
      match reader ⟨place, before⟩ with
      | (answer, cursor) => ExceptT.bindCont next answer cursor := rfl
  rw [step, here]
  rfl

/-- Changing the value of a reader changes nothing about what is read. -/
theorem map {reader : Reader α} {value : α} {before after : List Char}
    (h : Reads reader before value after) (result : α → β) :
    Reads (result <$> reader) before (result value) after := by
  rw [← bind_pure_comp]
  exact h.bind (pure _ _)

/-- Dropping the value of a reader changes nothing about what is read. -/
theorem discarded {reader : Reader α} {value : α} {before after : List Char}
    (h : Reads reader before value after) : Reads (Functor.discard reader) before () after :=
  h.map _

/-- A reader that looks at where it is. -/
theorem get_bind {next : Cursor → Reader β} {value : β} {before after : List Char}
    (h : ∀ place, Reads (next ⟨place, before⟩) before value after) :
    Reads (get >>= next) before value after :=
  fun place => h place place

/-- Looking at the next character leaves it there. -/
theorem peek (text : List Char) : Reads Reader.peek text text.head? text :=
  fun place => ⟨place, rfl⟩

/-- One character is skipped. -/
theorem skip_one (c : Char) (text : List Char) : Reads (skip 1) (c :: text) () text :=
  fun place => ⟨place.step c, rfl⟩

/-- As many characters are skipped as there are in front of the rest. -/
theorem skip_append : (chars text : List Char) → Reads (skip chars.length) (chars ++ text) () text
  | [], text => fun place => ⟨place, by cases text <;> rfl⟩
  | c :: rest, text => fun place => skip_append rest text (place.step c)

/-- A word is passed over if it is there. -/
theorem word : (chars text : List Char) → Reads (Reader.word chars) (chars ++ text) () text
  | [], text => pure () text
  | c :: rest, text => by
      unfold Reader.word
      refine (peek _).bind ?_
      show Reads (if c = c then do skip 1; Reader.word rest else _) _ _ _
      rw [if_pos rfl]
      exact (skip_one c _).bind (word rest text)

/-- Where a reader reads, nothing is rescued. -/
theorem tryCatch {reader : Reader α} {rescue : Failure → Reader α} {value : α}
    {before after : List Char} (h : Reads reader before value after) :
    Reads (MonadExcept.tryCatch reader rescue) before value after := by
  intro place
  obtain ⟨stop, here⟩ := h place
  refine ⟨stop, ?_⟩
  have whole : (MonadExcept.tryCatch reader rescue : Reader α) =
      ExceptT.tryCatch reader rescue := rfl
  rw [whole, ExceptT.tryCatch, ExceptT.mk]
  simp only [Bind.bind, StateT.bind]
  rw [here]
  rfl

/-- Only a failure would need a place. -/
theorem placed {reader : Reader α} {value : α} {before after : List Char}
    (h : Reads reader before value after) : Reads (Reader.placed reader) before value after :=
  h.tryCatch

/-- What is read last comes after what the reader reads, whose value is given. -/
theorem finallyRead {reader : Reader α} {last : Reader Unit} {value : α}
    {before between after : List Char} (h : Reads reader before value between)
    (hl : Reads last between () after) : Reads
    (Reader.finallyRead reader last) before value after := by
  intro place
  obtain ⟨middle, here⟩ := h place
  obtain ⟨stop, there⟩ := hl middle
  refine ⟨stop, ?_⟩
  simp only [Reader.finallyRead, here, there]

end Reads

/-! ### White space -/

/-- Skipping characters of some kind leaves the text from the first other one on. -/
theorem rest_skipWhile (skipped : Char → Bool) :
    (text : List Char) → ∀ place,
      (Cursor.skipWhile skipped ⟨place, text⟩).rest = text.dropWhile skipped
  | [], place => by rw [Cursor.skipWhile]; rfl
  | c :: rest, place => by
      rw [Cursor.skipWhile, List.dropWhile_cons]
      cases skipped c with
      | true => exact rest_skipWhile skipped rest _
      | false => rfl

/-- The next character that is no white space is looked at. -/
theorem Reads.peekToken_eq (text : List Char) :
    Reads Reader.peekToken text (text.dropWhile isSpace).head? (text.dropWhile isSpace) := by
  intro place
  have rest := rest_skipWhile isSpace text place
  show ∃ stop, (Except.ok (Cursor.skipWhile isSpace ⟨place, text⟩).rest.head?,
    Cursor.skipWhile isSpace ⟨place, text⟩) = _
  generalize Cursor.skipWhile isSpace ⟨place, text⟩ = stop at rest
  obtain ⟨stop, _⟩ := stop
  obtain rfl := rest
  exact ⟨stop, rfl⟩

/-- White space is passed over up to a character that is none. -/
theorem Reads.peekToken {gap : List Char} (blank : Blank gap) {c : Char}
    (solid : isSpace c = false) (text : List Char) :
    Reads Reader.peekToken (gap ++ c :: text) (some c) (c :: text) := by
  have rest : (gap ++ c :: text).dropWhile isSpace = c :: text := by
    rw [List.dropWhile_append_of_pos blank, List.dropWhile_cons_of_neg (by simp [solid])]
  have token := peekToken_eq (gap ++ c :: text)
  rwa [rest] at token

/-- White space is passed over up to the end. -/
theorem Reads.peekToken_end {gap : List Char} (blank : Blank gap) :
    Reads Reader.peekToken gap none [] := by
  have rest : gap.dropWhile isSpace = [] := List.dropWhile_eq_nil_iff.mpr blank
  have token := peekToken_eq gap
  rwa [rest] at token

/-- Whatever white space is in front of the text and whatever comes after it, the reader passes over
the text and gives the value. -/
def Accepts {α : Type} (reader : Reader α) (text : List Char) (value : α) : Prop :=
  ∀ gap, Blank gap → ∀ rest, Reads reader (gap ++ (text ++ rest)) value rest

/-- What may come after a value: nothing, white space, a comma, or the end of what it is in. -/
def Ends (rest : List Char) : Prop :=
  ∀ c ∈ rest.head?, isSpace c = true ∨ c = ',' ∨ c = ']' ∨ c = '\x7d'

/-- White space, a comma or a closing bracket ends a value. -/
theorem ends_cons {c : Char} {rest : List Char}
    (h : isSpace c = true ∨ c = ',' ∨ c = ']' ∨ c = '\x7d') : Ends (c :: rest) := by
  rintro _ ⟨⟩
  exact h

/-- White space in front of what ends a value ends it as well. -/
theorem Blank.ends_append {gap rest : List Char} (blank : Blank gap) (h : Ends rest) :
    Ends (gap ++ rest) := by
  cases gap with
  | nil => exact h
  | cons c gap => exact ends_cons (.inl (blank c List.mem_cons_self))

/-- White space alone ends a value. -/
theorem Blank.ends {gap : List Char} (blank : Blank gap) : Ends gap := by
  have nothing : Ends [] := by rintro c ⟨⟩
  have ends := blank.ends_append nothing
  rwa [List.append_nil] at ends

/-- Like `Accepts`, for a reader that has to see that a value ends. -/
def AcceptsEnded {α : Type} (reader : Reader α) (text : List Char) (value : α) : Prop :=
  ∀ gap, Blank gap → ∀ rest, Ends rest → Reads reader (gap ++ (text ++ rest)) value rest

/-- A reader that accepts a text whatever comes after it accepts it where it ends. -/
theorem Accepts.ended {α : Type} {reader : Reader α} {text : List Char} {value : α}
    (h : Accepts reader text value) : AcceptsEnded reader text value :=
  fun gap blank rest _ => h gap blank rest

/-- A text that is accepted, but for white space around it, is read as the value. -/
theorem run_of_acceptsEnded {α : Type} {reader : Reader α} {text : String}
    {before inner after : List Char} {value : α} (whole : text.toList = before ++ (inner ++ after))
    (hb : Blank before) (ha : Blank after) (h : AcceptsEnded reader inner value) :
    reader.run text = .ok value := by
  have read : Reads (alone reader) text.toList value [] := by
    unfold alone
    rw [whole]
    exact (h before hb after ha.ends).bind ((Reads.peekToken_end ha).bind (.pure value []))
  obtain ⟨stop, ends⟩ := read .start
  unfold run Cursor.ofString
  rw [ends]

/-- A text that is accepted from its first to its last character is read as the value. -/
theorem run_of_accepts {α : Type} {reader : Reader α} {text : String} {value : α}
    (h : Accepts reader text.toList value) : reader.run text = .ok value :=
  run_of_acceptsEnded (List.append_nil _).symm blank_nil blank_nil h.ended

/-- A value is told by its first character. -/
theorem Reads.value {α : Type} {first : Char → Reader α} {gap : List Char} (blank : Blank gap)
    {c : Char} (solid : isSpace c = false) {text rest : List Char} {value : α}
    (h : Reads (first c) (c :: text) value rest) :
    Reads (Reader.value first) (gap ++ c :: text) value rest :=
  ((peekToken blank solid text).bind h).placed

/-- A text is accepted as a value if its first character is not white space and the reader for this
character reads it. -/
theorem accepts_value {α : Type} {first : Char → Reader α} {c : Char} {text : List Char} {value : α}
    (solid : isSpace c = false)
    (h : ∀ rest, Reads (first c) (c :: (text ++ rest)) value rest) :
    Accepts (Reader.value first) (c :: text) value :=
  fun _ blank rest => .value blank solid (h rest)

end Reader

/-- What stands in front of an item or a member ends the value before it. -/
theorem Leads.ends {lead : List Char} (h : Leads false lead) (text : List Char) :
    Reader.Ends (lead ++ text) := by
  cases h with
  | next before after =>
    rw [List.append_assoc]
    exact before.ends_append (Reader.ends_cons (.inr (.inl rfl)))

/-- After an item or a member there are others or there is what closes the bracket. -/
theorem Separated.ends {texts : List (List Char)} {inside : List Char}
    (h : Separated false texts inside) {close : Char} (closes : close = ']' ∨ close = '\x7d')
    (rest : List Char) : Reader.Ends (inside ++ close :: rest) := by
  cases h with
  | nil blank => exact blank.ends_append (Reader.ends_cons (.inr (.inr closes)))
  | cons lead =>
    rw [List.append_assoc]
    exact lead.ends _

/-! ### Escapes -/

/-- A digit to the base of sixteen is read as its value. -/
theorem IsHexDigit.hexValue? {n : Nat} {c : Char} (h : IsHexDigit n c) :
    Reader.hexValue? c = some n := by
  have values : ∀ n < 16, Reader.hexValue? (hexDigit n) = some n ∧
      Reader.hexValue? (hexDigit n).toUpper = some n := by decide
  obtain ⟨small, rfl | rfl⟩ := h
  · exact (values n small).1
  · exact (values n small).2

/-- A digit to the base of sixteen takes one byte. -/
theorem IsHexDigit.utf8Size {n : Nat} {c : Char} (h : IsHexDigit n c) : c.utf8Size = 1 := by
  have sizes : ∀ n < 16, (hexDigit n).utf8Size = 1 ∧ (hexDigit n).toUpper.utf8Size = 1 := by decide
  obtain ⟨small, rfl | rfl⟩ := h
  · exact (sizes n small).1
  · exact (sizes n small).2

/-- The digit that is written for a number below sixteen is one of this value. -/
theorem isHexDigit_hexDigit {n : Nat} (small : n < 16) : IsHexDigit n (hexDigit n) :=
  ⟨small, .inl rfl⟩

namespace Reader

/-- Four digits are read as the number they stand for. -/
theorem Reads.hexEscape {n : Nat} {digits : List Char} (h : FourDigits n digits)
    (text : List Char) : Reads Reader.hexEscape (digits ++ text) n text := by
  obtain @⟨a, b, c, d, first, second, third, fourth, h₁, h₂, h₃, h₄⟩ := h
  unfold Reader.hexEscape
  refine get_bind fun place => ?_
  have taken : takeBytes 4 ([first, second, third, fourth] ++ text) =
      some ([first, second, third, fourth], 0) := by
    simp [takeBytes, h₁.utf8Size, h₂.utf8Size, h₃.utf8Size, h₄.utf8Size]
  have values : [first, second, third, fourth].mapM hexValue? = some [a, b, c, d] := by
    simp [h₁.hexValue?, h₂.hexValue?, h₃.hexValue?, h₄.hexValue?]
  simp only [taken, values]
  refine (skip_append [_, _, _, _] text).bind ?_
  have value : [a, b, c, d].foldl (fun n value => n * 16 + value) 0 =
      ((a * 16 + b) * 16 + c) * 16 + d := by simp
  rw [value]
  exact pure _ text

/-- A letter that may follow a backslash is read as what it stands for, and it announces no
number. -/
theorem escapedLetter?_eq {letter c : Char} (h : (letter, c) ∈ escapes) :
    letter ≠ 'u' ∧ escapedLetter? letter = some c := by
  have known : ∀ pair ∈ escapes, pair.1 ≠ 'u' ∧ escapedLetter? pair.1 = some pair.2 := by decide
  exact known _ h

/-- The mark of a second escape is read if it is there. -/
theorem Reads.pairMark (mark : Char) (text : List Char) :
    Reads (Reader.pairMark mark) (mark :: text) () text := by
  unfold Reader.pairMark
  refine (peek _).bind ?_
  show Reads (if mark = mark then _ else _) _ _ _
  rw [if_pos rfl]
  exact skip_one _ _

/-- The number of a character is read as the character: it is none of a half of a pair. -/
theorem Reads.numberedEscape {c : Char} {digits : List Char} (h : FourDigits c.toNat digits)
    (text : List Char) : Reads Reader.numberedEscape (digits ++ text) c text := by
  have valid : c.toNat < 0xD800 ∨ 0xDFFF < c.toNat ∧ c.toNat < 0x110000 := c.valid
  unfold Reader.numberedEscape
  refine (hexEscape h text).bind ?_
  have noTrail : (decide (0xDC00 ≤ c.toNat) && decide (c.toNat ≤ 0xDFFF)) = false := by
    simp; omega
  have noLead : (decide (c.toNat < 0xD800) || decide (0xDBFF < c.toNat)) = true := by
    simp; omega
  rw [noTrail, noLead, if_neg Bool.false_ne_true, if_pos rfl, Char.ofNat_toNat]
  exact pure c text

/-- The two halves of a pair are read as one character. -/
theorem Reads.numberedEscape_pair {c : Char} {high low : Nat} {first second : List Char}
    (small : low < 1024) (value : c.toNat = 0x10000 + high * 1024 + low)
    (h₁ : FourDigits (0xD800 + high) first) (h₂ : FourDigits (0xDC00 + low) second)
    (text : List Char) :
    Reads Reader.numberedEscape (first ++ '\\' :: 'u' :: (second ++ text)) c text := by
  have valid : c.toNat < 0xD800 ∨ 0xDFFF < c.toNat ∧ c.toNat < 0x110000 := c.valid
  unfold Reader.numberedEscape
  refine (hexEscape h₁ _).bind ?_
  have noTrail : (decide (0xDC00 ≤ 0xD800 + high) && decide (0xD800 + high ≤ 0xDFFF)) = false := by
    simp; omega
  have lead : (decide (0xD800 + high < 0xD800) || decide (0xDBFF < 0xD800 + high)) = false := by
    simp; omega
  rw [noTrail, lead, if_neg Bool.false_ne_true, if_neg Bool.false_ne_true]
  refine (pairMark '\\' _).bind ((pairMark 'u' _).bind ((hexEscape h₂ text).bind ?_))
  have trail : (decide (0xDC00 + low < 0xDC00) || decide (0xDFFF < 0xDC00 + low)) = false := by
    simp; omega
  have whole : (0xD800 + high - 0xD800) * 1024 + (0xDC00 + low - 0xDC00) + 0x10000 = c.toNat := by
    omega
  rw [trail, if_neg Bool.false_ne_true, whole, Char.ofNat_toNat]
  exact pure c text

/-! ### Strings -/

/-- A character is written as it is, or it is written after a backslash in a way that is read as the
character. -/
theorem Reads.escaped {c : Char} {marks : List Char} (h : WritesChar c marks) :
    (marks = [c] ∧ IsPlain c) ∨
      ∃ rest, marks = '\\' :: rest ∧ ∀ text, Reads Reader.escaped (rest ++ text) c text := by
  have numbered {digits : List Char}
      (h : ∀ text, Reads Reader.numberedEscape (digits ++ text) c text) (text : List Char) :
      Reads Reader.escaped ('u' :: digits ++ text) c text := by
    unfold Reader.escaped
    refine (peek _).bind ?_
    show Reads (if 'u' = 'u' then _ else _) _ _ _
    rw [if_pos rfl]
    exact (skip_one 'u' _).bind (h text)
  cases h with
  | plain plain => exact .inl ⟨rfl, plain⟩
  | @letter letter c known =>
    obtain ⟨noNumber, value⟩ := escapedLetter?_eq known
    refine .inr ⟨_, rfl, fun text => ?_⟩
    unfold Reader.escaped
    refine (peek _).bind ?_
    show Reads (if letter = 'u' then _ else _) _ _ _
    rw [if_neg noNumber, value]
    exact (skip_one letter text).bind (pure c text)
  | number digits => exact .inr ⟨_, rfl, numbered (numberedEscape digits)⟩
  | pair small value first second =>
    refine .inr ⟨_, rfl, numbered fun text => ?_⟩
    rw [List.append_assoc]
    exact numberedEscape_pair small value first second text

/-- Between quotes a string is read character by character. -/
theorem Reads.stringTail {chars inside : List Char} (h : Writes chars inside) (read : List Char)
    (fuel : Nat) (enough : chars.length < fuel) (text : List Char) :
    Reads (Reader.stringTail fuel read) (inside ++ '"' :: text)
      (String.ofList (read.reverse ++ chars)) text := by
  obtain ⟨fuel, rfl⟩ := Nat.exists_eq_succ_of_ne_zero (Nat.ne_zero_of_lt enough)
  induction h generalizing read fuel with
  | nil =>
    unfold Reader.stringTail
    refine (peek _).bind ?_
    show Reads (if '"' = '"' then _ else _) _ _ _
    rw [if_pos rfl, List.append_nil]
    exact (skip_one _ _).bind (pure _ _)
  | @cons c chars marks inside first _ ih =>
    have enough : chars.length < fuel := Nat.lt_of_succ_lt_succ enough
    obtain ⟨fuel, rfl⟩ := Nat.exists_eq_succ_of_ne_zero (Nat.ne_zero_of_lt enough)
    have later := ih (c :: read) fuel enough
    rw [List.reverse_cons, List.append_assoc] at later
    unfold Reader.stringTail
    refine (peek _).bind ?_
    rw [List.append_assoc]
    rcases escaped first with ⟨rfl, plain⟩ | ⟨rest, rfl, isRead⟩
    · show Reads (if c = '"' then _ else if c = '\\' then _ else if c.toNat < 32 then _ else _)
        _ _ _
      rw [if_neg plain.noQuote, if_neg plain.noBackslash, if_neg plain.noControl]
      exact (skip_one c _).bind later
    · show Reads (if '\\' = '"' then _ else if '\\' = '\\' then _ else _) _ _ _
      rw [if_neg (by decide), if_pos rfl]
      exact (skip_one _ _).bind ((isRead _).bind later)

end Reader

/-- Each character is written with at least one. -/
theorem WritesChar.ne_nil {c : Char} {marks : List Char} (h : WritesChar c marks) : marks ≠ [] := by
  cases h <;> exact List.cons_ne_nil _ _

/-- No text is shorter than the characters it writes. -/
theorem Writes.length_le {chars inside : List Char} (h : Writes chars inside) :
    chars.length ≤ inside.length := by
  induction h with
  | nil => exact Nat.le_refl _
  | cons first _ ih =>
    have := List.length_pos_iff.mpr first.ne_nil
    rw [List.length_append, List.length_cons]
    omega

/-- A character is written in one of the ways to write it. -/
theorem writesChar_escape (c : Char) : WritesChar c (escape c) := by
  have letter {mark : Char} (h : (mark, c) ∈ escapes) : WritesChar c ['\\', mark] := .letter h
  unfold escape
  split_ifs with quote backslash line carriage tab back feed control
  · exact letter (by subst quote; decide)
  · exact letter (by subst backslash; decide)
  · exact letter (by subst line; decide)
  · exact letter (by subst carriage; decide)
  · exact letter (by subst tab; decide)
  · obtain rfl : c = '\x08' := Char.toNat_inj.mp back
    exact letter (by decide)
  · obtain rfl : c = '\x0c' := Char.toNat_inj.mp feed
    exact letter (by decide)
  · have digits := FourDigits.mk (isHexDigit_hexDigit (n := 0) (by decide))
      (isHexDigit_hexDigit (n := 0) (by decide))
      (isHexDigit_hexDigit (n := c.toNat / 16) (by omega))
      (isHexDigit_hexDigit (n := c.toNat % 16) (by omega))
    have number : ((0 * 16 + 0) * 16 + c.toNat / 16) * 16 + c.toNat % 16 = c.toNat := by omega
    rw [number] at digits
    exact .number digits
  · exact .plain ⟨quote, backslash, control⟩

/-- Escaping characters is a way to write them. -/
theorem writes_escape (chars : List Char) : Writes chars (chars.flatMap escape) := by
  induction chars with
  | nil => exact .nil
  | cons c rest ih => exact .cons (writesChar_escape c) ih

namespace Reader

/-- A string is read from behind its first quote on as the characters that are written, whichever
way each of them is. -/
theorem Reads.stringRest {value : String} {inside : List Char} (h : Writes value.toList inside)
    (text : List Char) : Reads Reader.stringRest (inside ++ '"' :: text) value text := by
  unfold Reader.stringRest
  refine get_bind fun place => ?_
  have enough := h.length_le
  have tail := stringTail h [] ((inside ++ '"' :: text).length + 1)
    (by rw [List.length_append]; omega) text
  rwa [List.reverse_nil, List.nil_append, String.ofList_toList] at tail

/-- A string in quotes is read as the string. -/
theorem accepts_string (value : String) :
    Accepts Reader.string ('"' :: (value.toList.flatMap escape ++ ['"'])) value := by
  refine accepts_value (by decide) fun text => ?_
  show Reads (if '"' = '"' then _ else _) _ _ _
  rw [if_pos rfl, List.append_assoc]
  exact (Reads.skip_one _ _).bind (Reads.stringRest (writes_escape _) text)

end Reader

end TypeAtlas.Json
