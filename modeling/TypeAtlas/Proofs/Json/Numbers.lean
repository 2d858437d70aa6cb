import Mathlib.Data.List.Basic
import TypeAtlas.Proofs.Json.Members

/-!
# Reading numbers

A number goes on as long as there are digits, so what comes after it matters: nothing that may come
after a value (`Reader.Ends`) could be a part of the number. The decimal digits of a natural number
of 64 bits are read as the number (`Reader.acceptsEnded_natural`), and a number of any kind is
passed over (`Reader.Reads.ignoreNumber`).
-/

set_option autoImplicit false

namespace TypeAtlas.Json

/-! ### Digits -/

namespace IsWhole

/-- After a first digit there are only digits, and none at all after a zero. -/
theorem cases_cons {text : List Char} (h : IsWhole text) :
    ∃ c more, text = c :: more ∧ c.isDigit = true ∧ (∀ d ∈ more, d.isDigit = true) ∧
      (c = '0' → more = []) := by
  cases h with
  | zero => exact ⟨'0', [], rfl, by decide, List.forall_mem_nil _, fun _ => rfl⟩
  | digits h noZero =>
    cases text with
    | nil => exact absurd rfl h.nonempty
    | cons c more =>
      obtain ⟨digit, digits⟩ := List.forall_mem_cons.mp h.digits
      refine ⟨c, more, rfl, digit, digits, fun zero => absurd ?_ noZero⟩
      rw [zero]
      rfl

/-- The first digit of a positive number is no zero. -/
theorem head?_toDigits {n : Nat} (positive : 0 < n) : (Nat.toDigits 10 n).head? ≠ '0' := by
  induction n using Nat.strong_induction_on with
  | _ n ih =>
    by_cases small : n < 10
    · have digits : ∀ n < 10, 0 < n → (Nat.toDigits 10 n).head? ≠ '0' := by decide
      exact digits n small positive
    · rw [Nat.toDigits_of_base_le (by decide) (by omega),
        List.head?_append_of_ne_nil _ Nat.toDigits_ne_nil]
      exact ih (n / 10) (by omega) (by omega)

/-- The decimal digits of a natural number do not start with a zero that others follow. -/
theorem toDigits (n : Nat) : IsWhole (Nat.toDigits 10 n) := by
  cases n with
  | zero => exact .zero
  | succ n =>
    refine .digits ⟨Nat.toDigits_ne_nil, fun c mem => ?_⟩ (head?_toDigits n.succ_pos)
    exact Nat.isDigit_of_mem_toDigits (by decide) (by decide) mem

end IsWhole

/-- A number starts with a digit or a sign. -/
theorem IsNumber.cases_cons {text : List Char} (h : IsNumber text) :
    ∃ c more, text = c :: more ∧ (c = '-' ∨ c.isDigit = true) := by
  obtain ⟨rfl | rfl, whole, -, -⟩ := h
  · obtain ⟨c, more, rfl, digit, -⟩ := whole.cases_cons
    exact ⟨c, _, rfl, .inr digit⟩
  · exact ⟨'-', _, rfl, .inl rfl⟩

/-- A digit is no character that is none. -/
theorem ne_of_isDigit {c d : Char} (digit : c.isDigit = true) (noDigit : d.isDigit = false) :
    c ≠ d := by
  rintro rfl
  exact Bool.false_ne_true (noDigit.symm.trans digit)

namespace Reader

/-- A digit is not white space. -/
theorem isSpace_of_isDigit {c : Char} (digit : c.isDigit = true) : isSpace c = false := by
  rw [Bool.eq_false_iff]
  intro space
  simp only [isSpace, Bool.or_eq_true, decide_eq_true_eq] at space
  rcases space with ((rfl | rfl) | rfl) | rfl <;> exact absurd digit (by decide)

/-- What comes next is no digit. -/
def NoDigit (rest : List Char) : Prop := ∀ c ∈ rest.head?, c.isDigit = false

/-- Nothing that comes after a value could belong to a number. -/
theorem Ends.noNumber {rest : List Char} (h : Ends rest) :
    ∀ c ∈ rest.head?, c.isDigit = false ∧ c ≠ '.' ∧ c ≠ 'e' ∧ c ≠ 'E' := by
  intro c mem
  have ends := h c mem
  simp only [isSpace, Bool.or_eq_true, decide_eq_true_eq] at ends
  rcases ends with (((rfl | rfl) | rfl) | rfl) | rfl | rfl | rfl <;> decide

/-- What may come after a value is no digit. -/
theorem Ends.noDigit {rest : List Char} (h : Ends rest) : NoDigit rest :=
  fun c mem => (h.noNumber c mem).1

/-- What may come after a value neither is a point nor starts an exponent. -/
theorem Ends.head?_ne {rest : List Char} (h : Ends rest) {c : Char}
    (mark : c = '.' ∨ c = 'e' ∨ c = 'E') : rest.head? ≠ some c := by
  intro same
  obtain ⟨-, noPoint, noSmall, noLarge⟩ := h.noNumber c same
  rcases mark with rfl | rfl | rfl
  · exact noPoint rfl
  · exact noSmall rfl
  · exact noLarge rfl

end Reader

open Reader (Ends NoDigit)

/-- Digits start with nothing that is no digit. -/
theorem IsDigits.head?_ne {text : List Char} (h : IsDigits text) {c : Char}
    (noDigit : c.isDigit = false) (rest : List Char) : (text ++ rest).head? ≠ some c := by
  obtain ⟨nonempty, digits⟩ := h
  cases text with
  | nil => exact absurd rfl nonempty
  | cons d text =>
    intro same
    exact ne_of_isDigit (digits d List.mem_cons_self) noDigit (Option.some.inj same)

/-- Digits do not go on in a fraction or in what comes after it. -/
theorem IsFraction.noDigit {fraction rest : List Char} (h : IsFraction fraction)
    (ends : NoDigit rest) : NoDigit (fraction ++ rest) := by
  cases h with
  | none => exact ends
  | digits =>
    rintro c ⟨⟩
    rfl

/-- Neither a digit nor a point comes next, as an exponent starts with a letter. -/
theorem IsExponent.noNumber {exponent rest : List Char} (h : IsExponent exponent)
    (ends : Ends rest) : NoDigit (exponent ++ rest) ∧ (exponent ++ rest).head? ≠ '.' := by
  cases h with
  | none => exact ⟨ends.noDigit, ends.head?_ne (.inl rfl)⟩
  | digits letters =>
    rcases letters with rfl | rfl
    · exact ⟨by rintro c ⟨⟩; rfl, by rintro ⟨⟩⟩
    · exact ⟨by rintro c ⟨⟩; rfl, by rintro ⟨⟩⟩

namespace Reader

/-- Digits are passed over up to something else. -/
theorem Reads.digits {found rest : List Char} (h : ∀ c ∈ found, c.isDigit = true)
    (ends : NoDigit rest) : Reads Reader.digits (found ++ rest) found rest := by
  have all : (found ++ rest).takeWhile Char.isDigit = found := by
    rw [List.takeWhile_append_of_pos h]
    cases rest with
    | nil => rw [List.takeWhile_nil, List.append_nil]
    | cons c rest =>
      rw [List.takeWhile_cons_of_neg (by rw [ends c rfl]; decide), List.append_nil]
  unfold Reader.digits
  refine get_bind fun place => ?_
  show Reads (do skip ((found ++ rest).takeWhile Char.isDigit).length; return _) _ _ _
  rw [all]
  exact (skip_append found rest).bind (pure _ _)

/-- A zero is fine if no digit follows. -/
theorem Reads.leadingZero {c : Char} {rest : List Char} (h : c = '0' → NoDigit rest) :
    Reads (Reader.leadingZero c) rest () rest := by
  unfold Reader.leadingZero
  refine (peek _).bind ?_
  rw [if_neg]
  · exact pure _ _
  · intro both
    simp only [Bool.and_eq_true, decide_eq_true_eq, Option.any_eq_true] at both
    obtain ⟨zero, d, mem, digit⟩ := both
    rw [h zero d mem] at digit
    exact Bool.false_ne_true digit

/-! ### Natural numbers -/

/-- A number does not get smaller if digits are appended to it. -/
theorem le_ofDigitChars (digits : List Char) (n : Nat) : n ≤ Nat.ofDigitChars 10 digits n := by
  induction digits generalizing n with
  | nil => exact Nat.le_refl n
  | cons d digits ih =>
    refine Nat.le_trans ?_ (ih (10 * n + (d.toNat - '0'.toNat)))
    omega

/-- All digits are appended, with none left over, if the number fits. -/
theorem appendDigits_eq {digits : List Char} {n : Nat}
    (fits : Nat.ofDigitChars 10 digits n < UInt64.size) :
    appendDigits n digits = (Nat.ofDigitChars 10 digits n, 0) := by
  induction digits generalizing n with
  | nil => rfl
  | cons d digits ih =>
    have value : Nat.ofDigitChars 10 (d :: digits) n =
        Nat.ofDigitChars 10 digits (n * 10 + (d.toNat - '0'.toNat)) := by
      rw [Nat.mul_comm]
      rfl
    rw [value] at fits ⊢
    have small := Nat.lt_of_le_of_lt (le_ofDigitChars _ _) fits
    rw [appendDigits]
    exact (if_pos small).trans (ih fits)

/-- The decimal digits of a number of 64 bits are read as the number. -/
theorem Reads.numeral {n : Nat} (fits : n < UInt64.size) {rest : List Char} (ends : Ends rest) :
    Reads Reader.numeral (Nat.toDigits 10 n ++ rest) (.natural n) rest := by
  have number := Nat.ofDigitChars_ten_toDigits (n := n)
  obtain ⟨c, more, written, digit, digits, alone⟩ := (IsWhole.toDigits n).cases_cons
  rw [written] at number ⊢
  have noSign : c ≠ '-' := ne_of_isDigit digit rfl
  unfold Reader.numeral
  refine (peek _).bind ?_
  split
  · rename_i sign
    exact absurd (Option.some.inj sign) noSign
  unfold numberRest
  refine (peek _).bind ?_
  show Reads (if (!c.isDigit) = true then _ else _) _ _ _
  rw [digit, if_neg (by decide)]
  refine (skip_one _ _).bind ((leadingZero fun zero => ?_).bind
    ((Reads.digits digits ends.noDigit).bind ?_))
  · rw [alone zero]
    exact ends.noDigit
  rw [appendDigits_eq (number ▸ fits), number]
  refine (peek _).bind ?_
  split
  · rename_i point
    exact absurd point (ends.head?_ne (.inl rfl))
  · rename_i small
    exact absurd small (ends.head?_ne (.inr (.inl rfl)))
  · rename_i large
    exact absurd large (ends.head?_ne (.inr (.inr rfl)))
  · exact pure _ _

/-- The digits of a number that fits into 64 bits are accepted as this number, if what comes after
them ends it. -/
theorem acceptsEnded_natural (wanted : String) {n : Nat} (fits : n < UInt64.size) :
    AcceptsEnded (Reader.natural wanted) (Nat.toDigits 10 n) n := by
  intro gap blank rest ends
  have numeral := Reads.numeral fits ends
  obtain ⟨c, more, written, digit, -⟩ := (IsWhole.toDigits n).cases_cons
  rw [written] at numeral ⊢
  refine Reads.value blank (isSpace_of_isDigit digit) ?_
  show Reads (if (c = '-' || c.isDigit) = true then _ else _) _ _ _
  rw [digit, Bool.or_true, if_pos rfl]
  exact numeral.bind (.pure _ _)

/-! ### Numbers of any kind -/

/-- The digits that a part of a number needs are passed over. -/
theorem Reads.someDigits {text rest : List Char} (h : IsDigits text) (ends : NoDigit rest) :
    Reads (do if (← Reader.digits).isEmpty then failNext .invalidNumber) (text ++ rest) () rest := by
  refine (Reads.digits h.digits ends).bind ?_
  rw [if_neg]
  · exact pure _ _
  · rw [List.isEmpty_iff]
    exact h.nonempty

/-- A fraction is passed over if there is one. -/
theorem Reads.ignoreFraction {fraction rest : List Char} (h : IsFraction fraction)
    (ends : NoDigit rest) (noPoint : rest.head? ≠ '.') :
    Reads Reader.ignoreFraction (fraction ++ rest) () rest := by
  unfold Reader.ignoreFraction
  refine (peek _).bind ?_
  cases h with
  | none =>
    rw [List.nil_append, if_neg noPoint]
    exact pure _ _
  | digits h =>
    show Reads (if some '.' = some '.' then _ else _) _ _ _
    rw [if_pos rfl]
    exact (skip_one _ _).bind (someDigits h ends)

/-- An exponent is passed over if there is one. -/
theorem Reads.ignoreExponent {exponent rest : List Char} (h : IsExponent exponent)
    (ends : Ends rest) : Reads Reader.ignoreExponent (exponent ++ rest) () rest := by
  unfold Reader.ignoreExponent
  refine (peek _).bind ((peek _).bind ?_)
  cases h with
  | none =>
    have small := ends.head?_ne (.inr (.inl rfl))
    have large := ends.head?_ne (.inr (.inr rfl))
    rw [List.nil_append, if_neg (by simp [small, large])]
    exact pure _ _
  | @digits letter sign text letters signs h =>
    rw [if_pos (by simpa using letters), List.cons_append, List.append_assoc]
    refine (skip_one _ _).bind ((peek _).bind ((peek _).bind ?_))
    have digits := someDigits h ends.noDigit
    rcases signs with rfl | rfl | rfl
    · have plus : (text ++ rest).head? ≠ some '+' := h.head?_ne rfl rest
      have minus : (text ++ rest).head? ≠ some '-' := h.head?_ne rfl rest
      rw [List.nil_append, if_neg]
      · exact digits
      · simp only [Bool.or_eq_true, decide_eq_true_eq, plus, minus, or_self, not_false_eq_true]
    · rw [if_pos (by simp)]
      exact (skip_one _ _).bind digits
    · rw [if_pos (by simp)]
      exact (skip_one _ _).bind digits

/-- A number is passed over from behind its sign on. -/
theorem Reads.ignoreNumberRest {whole fraction exponent rest : List Char} (hw : IsWhole whole)
    (hf : IsFraction fraction) (he : IsExponent exponent) (ends : Ends rest) :
    Reads Reader.ignoreNumberRest (whole ++ (fraction ++ (exponent ++ rest))) () rest := by
  obtain ⟨c, more, rfl, digit, digits, alone⟩ := hw.cases_cons
  obtain ⟨afterFraction, noPoint⟩ := he.noNumber ends
  have afterWhole := hf.noDigit afterFraction
  unfold Reader.ignoreNumberRest
  refine (peek _).bind ?_
  show Reads (if (!c.isDigit) = true then _ else _) _ _ _
  rw [digit, if_neg (by decide)]
  refine (skip_one _ _).bind ((leadingZero fun zero => ?_).bind ?_)
  · rw [alone zero]
    exact afterWhole
  · refine (Reads.digits digits afterWhole).discarded.bind ?_
    exact (ignoreFraction hf afterFraction noPoint).bind (ignoreExponent he ends)

/-- A number is passed over up to the end of the value. -/
theorem Reads.ignoreNumber {text rest : List Char} (h : IsNumber text) (ends : Ends rest) :
    Reads Reader.ignoreNumber (text ++ rest) () rest := by
  obtain ⟨signs, hw, hf, he⟩ := h
  have unsigned := ignoreNumberRest hw hf he ends
  unfold Reader.ignoreNumber
  refine (peek _).bind ?_
  rw [List.append_assoc, List.append_assoc, List.append_assoc]
  rcases signs with rfl | rfl
  · obtain ⟨c, more, rfl, digit, -⟩ := hw.cases_cons
    have noSign : c ≠ '-' := ne_of_isDigit digit rfl
    rw [List.nil_append, List.cons_append, List.head?_cons, if_neg (by simpa using noSign)]
    exact unsigned
  · rw [List.cons_append, List.head?_cons, if_pos rfl]
    exact (skip_one _ _).bind unsigned

end Reader

end TypeAtlas.Json
