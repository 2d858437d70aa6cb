import TypeAtlas.Proofs.Json.Numbers

/-!
# Passing over values

The reader that passes over a value accepts any value of the grammar, however deeply it is nested
(`Reader.acceptsEnded_ignore`). It has a stack of the brackets that are open and goes on within the
innermost one after each value. So what is shown of a value is told by what comes after it: if
reading on there leads to an end, reading from in front of the value leads there too, with as many
more steps as the value takes. A value takes fewer steps than twice its characters, so the steps
that the reader starts with are enough.
-/

set_option autoImplicit false

namespace TypeAtlas.Json

namespace Reader

/-! ### Strings -/

/-- A letter that may follow a backslash is passed over. -/
theorem Reads.ignoreEscape_letter {letter c : Char} (h : (letter, c) ∈ escapes)
    (text : List Char) : Reads Reader.ignoreEscape (letter :: text) () text := by
  obtain ⟨noNumber, value⟩ := escapedLetter?_eq h
  unfold Reader.ignoreEscape
  refine (peek _).bind ?_
  show Reads (if letter = 'u' then _ else if (escapedLetter? letter).isSome then _ else _) _ _ _
  rw [if_neg noNumber, value, if_pos Option.isSome_some]
  exact skip_one _ _

/-- The number of a character in four digits is passed over, whether or not there is such a
character. -/
theorem Reads.ignoreEscape_number {n : Nat} {digits : List Char} (h : FourDigits n digits)
    (text : List Char) : Reads Reader.ignoreEscape ('u' :: (digits ++ text)) () text := by
  unfold Reader.ignoreEscape
  refine (peek _).bind ?_
  show Reads (if 'u' = 'u' then _ else _) _ _ _
  rw [if_pos rfl]
  exact (skip_one _ _).bind (hexEscape h text).discarded

/-- What may stand between quotes is passed over with its closing quote, given a step for each
character. -/
theorem Reads.ignoreTail {inside : List Char} (h : IsInside inside) (fuel : Nat)
    (enough : inside.length < fuel) (text : List Char) :
    Reads (Reader.ignoreTail fuel) (inside ++ '"' :: text) () text := by
  -- Every character takes one step at least, and an escape takes one step for several characters.
  induction h generalizing fuel with
  | nil =>
    obtain ⟨fuel, rfl⟩ := Nat.exists_eq_succ_of_ne_zero (Nat.ne_zero_of_lt enough)
    unfold Reader.ignoreTail
    refine (peek _).bind ?_
    show Reads (if '"' = '"' then _ else _) _ _ _
    rw [if_pos rfl]
    exact skip_one _ _
  | @plain c rest plain _ ih =>
    obtain ⟨fuel, rfl⟩ := Nat.exists_eq_succ_of_ne_zero (Nat.ne_zero_of_lt enough)
    unfold Reader.ignoreTail
    refine (peek _).bind ?_
    show Reads (if c = '"' then _ else if c = '\\' then _ else if c.toNat < 32 then _ else _) _ _ _
    rw [if_neg plain.noQuote, if_neg plain.noBackslash, if_neg plain.noControl]
    exact (skip_one c _).bind (ih fuel (Nat.lt_of_succ_lt_succ enough))
  | letter known _ ih =>
    obtain ⟨fuel, rfl⟩ := Nat.exists_eq_succ_of_ne_zero (Nat.ne_zero_of_lt enough)
    simp only [List.length_cons] at enough
    unfold Reader.ignoreTail
    refine (peek _).bind ?_
    show Reads (if '\\' = '"' then _ else if '\\' = '\\' then _ else _) _ _ _
    rw [if_neg (by decide), if_pos rfl]
    exact (skip_one _ _).bind ((ignoreEscape_letter known _).bind (ih fuel (by omega)))
  | number digits _ ih =>
    obtain ⟨fuel, rfl⟩ := Nat.exists_eq_succ_of_ne_zero (Nat.ne_zero_of_lt enough)
    simp only [List.length_cons, List.length_append] at enough
    unfold Reader.ignoreTail
    refine (peek _).bind ?_
    rw [List.cons_append, List.cons_append, List.append_assoc]
    show Reads (if '\\' = '"' then _ else if '\\' = '\\' then _ else _) _ _ _
    rw [if_neg (by decide), if_pos rfl]
    exact (skip_one _ _).bind ((ignoreEscape_number digits _).bind (ih fuel (by omega)))

/-- A string is passed over from behind its first quote on. -/
theorem Reads.ignoreString {inside : List Char} (h : IsInside inside) (text : List Char) :
    Reads Reader.ignoreString (inside ++ '"' :: text) () text := by
  unfold Reader.ignoreString
  refine get_bind fun _ => ignoreTail h _ ?_ text
  simp only [List.length_append, List.length_cons]
  omega

/-- A key is passed over with its colon and the white space around both. -/
theorem Reads.ignoreKey {gap key before : List Char} (blank : Blank gap) (h : IsInside key)
    (blankBefore : Blank before) (text : List Char) :
    Reads Reader.ignoreKey (gap ++ '"' :: (key ++ '"' :: (before ++ ':' :: text))) () text := by
  unfold Reader.ignoreKey
  refine (peekToken blank (by decide) _).bind ?_
  exact (skip_one _ _).bind ((ignoreString h _).bind (colon blankBefore text))

/-! ### Values that are no lists and no objects -/

/-- Passing over the value takes so many steps: reading on after it with some steps ends where
reading from in front of it ends with so many more. -/
def Takes (text : List Char) (steps : Nat) : Prop :=
  ∀ ⦃fuel : Nat⦄ ⦃stack rest stop : List Char⦄, Ends rest →
    Reads (ignoreFrom.open_ fuel stack true) rest () stop → ∀ gap, Blank gap →
      Reads (ignoreFrom (fuel + steps) stack) (gap ++ (text ++ rest)) () stop

/-- A value that no bracket starts takes one step. -/
theorem Takes.simple {c : Char} {text : List Char} (solid : isSpace c = false)
    (noList : c ≠ '[') (noObject : c ≠ '\x7b')
    (h : ∀ rest, Ends rest → Reads (ignoreSimple c) (c :: (text ++ rest)) () rest) :
    Takes (c :: text) 1 := by
  intro fuel stack rest stop ends later gap blank
  rw [ignoreFrom]
  refine (Reads.peekToken blank solid _).bind ?_
  show Reads (if (decide (c = '[') || decide (c = '\x7b')) = true then _ else _) _ _ _
  rw [if_neg (by simp [noList, noObject])]
  refine (h rest ends).bind ?_
  cases stack with
  | nil =>
    rw [if_pos List.isEmpty_nil]
    rwa [ignoreFrom.open_] at later
  | cons bracket stack =>
    rw [if_neg (by simp)]
    exact later

/-- Passing over `null` takes one step. -/
theorem takes_null : Takes ['n', 'u', 'l', 'l'] 1 := by
  refine Takes.simple (by decide) (by decide) (by decide) fun rest _ => ?_
  unfold ignoreSimple
  rw [if_pos rfl]
  exact (Reads.skip_one _ _).bind (Reads.word "ull".toList rest)

/-- Passing over `true` takes one step. -/
theorem takes_true : Takes ['t', 'r', 'u', 'e'] 1 := by
  refine Takes.simple (by decide) (by decide) (by decide) fun rest _ => ?_
  unfold ignoreSimple
  rw [if_neg (by decide), if_pos rfl]
  exact (Reads.skip_one _ _).bind (Reads.word "rue".toList rest)

/-- Passing over `false` takes one step. -/
theorem takes_false : Takes ['f', 'a', 'l', 's', 'e'] 1 := by
  refine Takes.simple (by decide) (by decide) (by decide) fun rest _ => ?_
  unfold ignoreSimple
  rw [if_neg (by decide), if_neg (by decide), if_pos rfl]
  exact (Reads.skip_one _ _).bind (Reads.word "alse".toList rest)

/-- Passing over a string takes one step, however long it is. -/
theorem takes_string {inside : List Char} (h : IsInside inside) :
    Takes ('"' :: (inside ++ ['"'])) 1 := by
  refine Takes.simple (by decide) (by decide) (by decide) fun rest _ => ?_
  unfold ignoreSimple
  rw [if_neg (by decide), if_neg (by decide), if_neg (by decide), if_pos rfl, List.append_assoc]
  exact (Reads.skip_one _ _).bind (Reads.ignoreString h rest)

/-- Passing over a number takes one step, however long it is. -/
theorem takes_number {text : List Char} (h : IsNumber text) : Takes text 1 := by
  obtain ⟨c, more, rfl, starts⟩ := h.cases_cons
  have solid : isSpace c = false := by
    rcases starts with rfl | digit
    · rfl
    · exact isSpace_of_isDigit digit
  -- No other kind of value starts like a number.
  have other {d : Char} (noSign : '-' ≠ d) (noDigit : d.isDigit = false) : c ≠ d := by
    rcases starts with rfl | digit
    · exact noSign
    · exact ne_of_isDigit digit noDigit
  have starts : (decide (c = '-') || c.isDigit) = true := by
    simpa only [Bool.or_eq_true, decide_eq_true_eq] using starts
  refine Takes.simple solid (other (by decide) rfl) (other (by decide) rfl) fun rest ends => ?_
  unfold ignoreSimple
  rw [if_neg (other (by decide) rfl), if_neg (other (by decide) rfl),
    if_neg (other (by decide) rfl), if_neg (other (by decide) rfl), if_pos starts]
  exact Reads.ignoreNumber h ends

/-! ### Lists and objects -/

/-- What closes a bracket or a brace. -/
def closing (bracket : Char) : Char := if bracket = '[' then ']' else '\x7d'

section brackets

variable {bracket : Char} {stack rest stop gap text : List Char} {fuel : Nat}

/-- A closing bracket ends the list or object that is open, and reading goes on in the one around
it. -/
theorem Reads.open_end (solid : isSpace (closing bracket) = false) (afterItem : Bool)
    (blank : Blank gap) (h : Reads (ignoreFrom.open_ fuel stack true) rest () stop) :
    Reads (ignoreFrom.open_ (fuel + 1) (bracket :: stack) afterItem)
      (gap ++ closing bracket :: rest) () stop := by
  rw [ignoreFrom.open_]
  refine (peekToken blank solid _).bind ?_
  show Reads (if closing bracket = closing bracket then _ else _) _ _ _
  rw [if_pos rfl]
  exact (skip_one _ _).bind h

/-- An item of an open list is read as a value with the list still open. -/
theorem Reads.open_item {first : Bool} {lead : List Char} {c : Char} (hl : Leads first lead)
    (solid : isSpace c = false) (goesOn : c ≠ ']')
    (h : ∀ gap, Blank gap → Reads (ignoreFrom fuel ('[' :: stack)) (gap ++ c :: text) () stop) :
    Reads (ignoreFrom.open_ (fuel + 1) ('[' :: stack) (!first)) (lead ++ c :: text) () stop := by
  rw [ignoreFrom.open_]
  cases hl with
  | first blank =>
    refine (peekToken blank solid _).bind ?_
    show Reads (if c = ']' then _ else _) _ _ _
    rw [if_neg goesOn]
    exact h [] blank_nil
  | next before after =>
    rw [List.append_assoc]
    refine (peekToken before (by decide) _).bind ?_
    show Reads (if ',' = ']' then _ else _) _ _ _
    rw [if_neg (by decide)]
    exact (skip_one _ _).bind (h _ after)

/-- A member of an open object is read up to its colon, and then its value with the object still
open. -/
theorem Reads.open_member {first : Bool} {lead key before : List Char} (hl : Leads first lead)
    (hk : IsInside key) (hb : Blank before)
    (h : Reads (ignoreFrom fuel ('\x7b' :: stack)) text () stop) :
    Reads (ignoreFrom.open_ (fuel + 1) ('\x7b' :: stack) (!first))
      (lead ++ '"' :: (key ++ '"' :: (before ++ ':' :: text))) () stop := by
  rw [ignoreFrom.open_]
  cases hl with
  | first blank =>
    refine (peekToken blank (by decide) _).bind ?_
    show Reads (if '"' = '\x7d' then _ else _) _ _ _
    rw [if_neg (by decide)]
    exact (ignoreKey blank_nil hk hb text).bind h
  | next blank after =>
    rw [List.append_assoc]
    refine (peekToken blank (by decide) _).bind ?_
    show Reads (if ',' = '\x7d' then _ else _) _ _ _
    rw [if_neg (by decide)]
    exact (skip_one _ _).bind ((ignoreKey after hk hb text).bind h)

/-- What stands between brackets is passed over in so many steps. -/
def TakesInside (bracket : Char) (first : Bool) (inside : List Char) (steps : Nat) : Prop :=
  ∀ ⦃fuel : Nat⦄ ⦃stack rest stop : List Char⦄,
    Reads (ignoreFrom.open_ fuel stack true) rest () stop →
      Reads (ignoreFrom.open_ (fuel + steps) (bracket :: stack) (!first))
        (inside ++ closing bracket :: rest) () stop

/-- A list or an object takes one step more than what stands between its brackets. -/
theorem takes_brackets {inside : List Char} {steps : Nat} (kind : bracket = '[' ∨ bracket = '\x7b')
    (h : TakesInside bracket true inside steps) :
    Takes (bracket :: (inside ++ [closing bracket])) (steps + 1) := by
  intro fuel stack rest stop _ later gap blank
  have solid : isSpace bracket = false := by rcases kind with rfl | rfl <;> rfl
  rw [← Nat.add_assoc, ignoreFrom]
  refine (Reads.peekToken blank solid _).bind ?_
  show Reads (if (decide (bracket = '[') || decide (bracket = '\x7b')) = true then _ else _) _ _ _
  rw [if_pos (by simpa using kind)]
  show Reads _ (bracket :: (inside ++ [closing bracket] ++ rest)) _ _
  rw [List.append_assoc]
  exact (Reads.skip_one _ _).bind (h later)

end brackets

end Reader

/-- No value starts with white space or the end of a list. -/
theorem IsValue.starts {text : List Char} (h : IsValue text) :
    ∃ c rest, text = c :: rest ∧ Reader.isSpace c = false ∧ c ≠ ']' := by
  cases h with
  | null | bool_true | bool_false | string | array | object => exact ⟨_, _, rfl, by decide, by decide⟩
  | number h =>
    obtain ⟨c, rest, rfl, rfl | digit⟩ := h.cases_cons
    · exact ⟨_, _, rfl, by decide, by decide⟩
    · exact ⟨c, rest, rfl, Reader.isSpace_of_isDigit digit, ne_of_isDigit digit rfl⟩

namespace Reader

/-- A value is passed over in fewer steps than twice its characters. -/
def Passes (text : List Char) : Prop := ∃ steps < 2 * text.length, Takes text steps

/-- A list or an object is passed over in time if what stands between its brackets is. -/
theorem Passes.brackets {bracket : Char} {inside : List Char} {steps : Nat}
    (kind : bracket = '[' ∨ bracket = '\x7b') (few : steps ≤ 2 * inside.length + 1)
    (h : TakesInside bracket true inside steps) :
    Passes (bracket :: (inside ++ [closing bracket])) := by
  refine ⟨steps + 1, ?_, takes_brackets kind h⟩
  simp only [List.length_cons, List.length_append, List.length_nil]
  omega

/-- Items are passed over one after another. -/
theorem takesInside_items {first : Bool} {texts : List (List Char)} {inside : List Char}
    (h : Separated first texts inside) (values : ∀ text ∈ texts, IsValue text)
    (each : ∀ text ∈ texts, Passes text) :
    ∃ steps ≤ 2 * inside.length + 1, TakesInside '[' first inside steps := by
  induction h with
  | nil blank => exact ⟨1, by omega, fun _ _ _ _ => Reads.open_end (by decide) _ blank⟩
  | cons hl ho ih =>
    obtain ⟨isValue, areValues⟩ := List.forall_mem_cons.mp values
    obtain ⟨⟨own, few, takes⟩, others⟩ := List.forall_mem_cons.mp each
    obtain ⟨more, fewMore, takesMore⟩ := ih areValues others
    obtain ⟨c, text, rfl, solid, goesOn⟩ := isValue.starts
    refine ⟨more + own + 1, ?_, fun fuel stack rest stop later => ?_⟩
    · simp only [List.length_append] at few ⊢
      omega
    · rw [List.append_assoc, List.append_assoc, ← Nat.add_assoc, ← Nat.add_assoc]
      exact Reads.open_item hl solid goesOn (takes (ho.ends (.inl rfl) rest) (takesMore later))

/-- Members are passed over one after another, each after its key. -/
theorem takesInside_members {first : Bool} {members : List (List Char × List Char)}
    {texts : List (List Char)} {inside : List Char} (h : Separated first texts inside)
    (written : List.Forall₂ IsMember members texts) (keys : ∀ member ∈ members, IsInside member.1)
    (each : ∀ member ∈ members, Passes member.2) :
    ∃ steps ≤ 2 * inside.length + 1, TakesInside '\x7b' first inside steps := by
  induction h generalizing members with
  | nil blank => exact ⟨1, by omega, fun _ _ _ _ => Reads.open_end (by decide) _ blank⟩
  | cons hl ho ih =>
    cases written with
    | cons isMember areMembers =>
      obtain ⟨isKey, areKeys⟩ := List.forall_mem_cons.mp keys
      obtain ⟨⟨own, few, takes⟩, others⟩ := List.forall_mem_cons.mp each
      obtain ⟨more, fewMore, takesMore⟩ := ih areMembers areKeys others
      obtain ⟨before, after⟩ := isMember
      refine ⟨more + own + 1, ?_, fun fuel stack rest stop later => ?_⟩
      · simp only [List.length_append, List.length_cons] at few ⊢
        omega
      · have inner := takes (ho.ends (.inr rfl) rest) (takesMore later) _ after
        have whole := Reads.open_member hl isKey before inner
        show Reads _ (_ ++ '\x7d' :: rest) _ _
        simpa only [List.append_assoc, List.cons_append, Nat.add_assoc] using whole

end Reader

/-- A value of any kind is passed over in time: by induction on how it is written, with one case for
each kind and one for what stands between brackets. -/
theorem IsValue.passes {text : List Char} (h : IsValue text) : Reader.Passes text := by
  induction h with
  | null => exact ⟨1, by decide, Reader.takes_null⟩
  | bool_true => exact ⟨1, by decide, Reader.takes_true⟩
  | bool_false => exact ⟨1, by decide, Reader.takes_false⟩
  | number h =>
    obtain ⟨c, more, rfl, -⟩ := h.cases_cons
    exact ⟨1, by simp only [List.length_cons]; omega, Reader.takes_number h⟩
  | string h => exact ⟨1, by simp only [List.length_cons]; omega, Reader.takes_string h⟩
  | array h values each =>
    obtain ⟨steps, few, takes⟩ := Reader.takesInside_items h values each
    exact .brackets (.inl rfl) few takes
  | object h written keys _ each =>
    obtain ⟨steps, few, takes⟩ := Reader.takesInside_members h written keys each
    exact .brackets (.inr rfl) few takes

/-- Any value is passed over. -/
theorem Reader.acceptsEnded_ignore {text : List Char} (h : IsValue text) :
    AcceptsEnded ignore text () := by
  intro gap blank rest ends
  obtain ⟨steps, few, takes⟩ := h.passes
  unfold ignore
  refine Reads.get_bind fun place => ?_
  -- What is left of the steps is not needed.
  obtain ⟨fuel, enough⟩ : ∃ fuel, 2 * (gap ++ (text ++ rest)).length + 2 = fuel + steps := by
    refine Nat.exists_eq_add_of_le' ?_
    simp only [List.length_append]
    omega
  show Reads (ignoreFrom (2 * (gap ++ (text ++ rest)).length + 2) []) _ _ _
  rw [enough]
  refine takes ends ?_ gap blank
  rw [ignoreFrom.open_]
  exact .pure _ _

end TypeAtlas.Json
