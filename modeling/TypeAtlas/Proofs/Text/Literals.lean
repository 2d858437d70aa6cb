import Mathlib.Data.List.Basic
import TypeAtlas.Text.Blank
import TypeAtlas.Text.Quoted

/-!
# The values of string literals

A string literal denotes a list of UTF-16 code units (`value?`). It is read one character after the
other, and where the reader stands between the quotes is a `Reading`. Nothing is denoted by a text
that is no string literal.

Main statements: `value?_doubleQuoted`, what a literal denotes after it has been put in double
quotes, and `value?_eq_of_doubleQuoted`, that literals with different values never become the same.
On one line a literal stays as it is if it is spaced (`oneLine_of_spaced`), and otherwise it comes
to denote something else (`spaced_of_value?_oneLine`).
-/

set_option autoImplicit false

namespace TypeAtlas.Text

/-! ### Code units -/

/-- The code units of a code point: itself, or a pair beyond the first plane. -/
def unitsOf (point : Nat) : List Nat :=
  if point < 0x10000 then [point]
  else [0xD800 + (point - 0x10000) / 0x400, 0xDC00 + (point - 0x10000) % 0x400]

/-- The number that a hexadecimal digit stands for. -/
def hexDigit? (c : Char) : Option Nat :=
  if '0' ≤ c && c ≤ '9' then some (c.toNat - '0'.toNat)
  else if 'a' ≤ c && c ≤ 'f' then some (c.toNat - 'a'.toNat + 10)
  else if 'A' ≤ c && c ≤ 'F' then some (c.toNat - 'A'.toNat + 10)
  else none

/-- The number that an octal digit stands for. -/
def octalDigit? (c : Char) : Option Nat := (hexDigit? c).filter (· < 8)

/-! ### Reading -/

/-- Where a reader stands between the quotes of a literal. -/
inductive Reading where
  /-- After a whole character. -/
  | plain
  /-- After a backslash. -/
  | escape
  /-- After a backslash and a carriage return, which a line feed may follow. -/
  | carriage
  /-- After octal digits that stand for a value, when so many more may follow. -/
  | octal (left value : Nat)
  /-- After hexadecimal digits that stand for a value, when so many more have to follow. -/
  | hex (left value : Nat)
  /-- After a backslash and a `u`. -/
  | unicode
  /-- In the braces after a `u`. There is no value before the first digit. -/
  | braces (value : Option Nat)
deriving DecidableEq

namespace Reading

/-- What is still to be denoted if an escape may end where the reader stands. -/
def pending? : Reading → Option (List Nat)
  | plain | carriage => some []
  | octal _ value => some [value]
  | escape | hex _ _ | unicode | braces _ => none

/-- What a character denotes that begins anew, and where the reader stands after it. -/
def begin? (quote c : Char) : Option (List Nat × Reading) :=
  if c = quote || c = '\n' || c = '\r' then none
  else if c = '\\' then some ([], escape)
  else some (unitsOf c.toNat, plain)

/-- What a character denotes after a backslash, and where the reader stands after it. -/
def escaped (c : Char) : List Nat × Reading :=
  match c with
  | 'b' => ([8], plain)
  | 't' => ([9], plain)
  | 'n' => ([10], plain)
  | 'v' => ([11], plain)
  | 'f' => ([12], plain)
  | 'r' => ([13], plain)
  | 'x' => ([], hex 2 0)
  | 'u' => ([], unicode)
  | '\n' | '\u2028' | '\u2029' => ([], plain)
  | '\r' => ([], carriage)
  | c =>
    match octalDigit? c with
    | some digit => ([], octal 2 digit)
    | none => (unitsOf c.toNat, plain)

/-- What a character denotes that an escape goes on with, and where the reader stands after it. -/
def goOn? : Reading → Char → Option (List Nat × Reading)
  | plain, _ => none
  | escape, c => some (escaped c)
  | carriage, c => if c = '\n' then some ([], plain) else none
  | octal left value, c =>
    match left, octalDigit? c with
    | left + 1, some digit =>
      if 8 * value + digit < 0x100 then some ([], octal left (8 * value + digit)) else none
    | _, _ => none
  | hex left value, c =>
    (hexDigit? c).map fun digit =>
      if left ≤ 1 then ([16 * value + digit], plain) else ([], hex (left - 1) (16 * value + digit))
  | unicode, c =>
    if c = '\x7b' then some ([], braces none)
    else (hexDigit? c).map fun digit => ([], hex 3 digit)
  | braces value, c =>
    if c = '\x7d' then value.map fun point => (unitsOf point, plain)
    else (hexDigit? c).bind fun digit =>
      let point := 16 * value.getD 0 + digit
      if point < 0x110000 then some ([], braces (some point)) else none

/-- What a character denotes, and where the reader stands after it: an escape goes on, or else a
character begins anew. -/
def step? (quote : Char) (state : Reading) (c : Char) : Option (List Nat × Reading) :=
  (state.goOn? c).or <| state.pending?.bind fun units =>
    (begin? quote c).map fun (more, next) => (units ++ more, next)

end Reading

/-- What the rest of a literal denotes, up to the closing quote. -/
def units? (quote : Char) : Reading → List Char → Option (List Nat)
  | state, [] => state.pending?
  | state, c :: rest =>
    (state.step? quote c).bind fun (units, next) => (units? quote next rest).map (units ++ ·)

/-- What a string literal denotes. A text that is none denotes nothing. -/
def value? (literal : String) : Option (List Nat) :=
  match literal.toList with
  | quote :: rest =>
    if isQuote quote && rest.getLast? = some quote then units? quote .plain rest.dropLast else none
  | [] => none

example : value? "'a\\'\\u0062\\x63\\u\x7b1f600\x7d\\0'" =
    some [97, 39, 98, 99, 0xd83d, 0xde00, 0] := by decide

/-! ### Steps -/

namespace Reading

variable {state next : Reading} {quote c : Char} {units : List Nat}

/-- An escape does not go on with a quote or a backslash, unless that is what is escaped. -/
theorem goOn?_of_mark (outside : state ≠ escape) (mark : c = '"' ∨ c = '\x27' ∨ c = '\\') :
    state.goOn? c = none := by
  rcases mark with rfl | rfl | rfl <;> cases state <;>
    simp [goOn?, octalDigit?, hexDigit?] at outside ⊢

/-- A character that is no quote means the same between quotes of either style. -/
theorem step?_of_not_isQuote (other : isQuote c = false) :
    state.step? '"' c = state.step? '\x27' c := by
  have distinct : c ≠ '"' ∧ c ≠ '\x27' := by simpa [isQuote] using other
  simp [step?, begin?, distinct]

/-- After an escaped character the reader is not at another backslash. -/
theorem escaped_ne_escape (c : Char) : (escaped c).2 ≠ escape := by
  unfold escaped
  split <;> (try split) <;> simp

/-- An escape never goes on with another one. -/
theorem ne_escape_of_goOn? (h : state.goOn? c = some (units, next)) : next ≠ escape := by
  cases state with
  | plain => cases h
  | escape =>
    obtain rfl : (escaped c).2 = next := congrArg Prod.snd (Option.some.inj h)
    exact escaped_ne_escape c
  | carriage | octal | hex | unicode | braces =>
    simp only [goOn?] at h
    grind [Option.map_eq_some_iff, Option.bind_eq_some_iff]

/-- Only a backslash leads to an escape. -/
theorem ne_escape_of_step? (other : c ≠ '\\') (h : state.step? quote c = some (units, next)) :
    next ≠ escape := by
  rcases Option.or_eq_some_iff.mp h with goneOn | ⟨-, begun⟩
  · exact ne_escape_of_goOn? goneOn
  · obtain ⟨pending, -, begun⟩ := Option.bind_eq_some_iff.mp begun
    obtain ⟨⟨more, after⟩, begun, same⟩ := Option.map_eq_some_iff.mp begun
    cases same
    simp only [begin?, other, if_false] at begun
    split_ifs at begun
    cases begun
    simp

end Reading

section

variable {state : Reading} {quote : Char} {rest : List Char}

/-- An escaped character denotes what it does, before what the rest denotes. -/
theorem units?_escape (c : Char) :
    units? quote .escape (c :: rest) =
      (units? quote (Reading.escaped c).2 rest).map ((Reading.escaped c).1 ++ ·) := rfl

/-- A character that an escape does not go on with ends it and begins anew. -/
theorem units?_anew {c : Char} (anew : state.goOn? c = none) :
    units? quote state (c :: rest) =
      state.pending?.bind fun pending => (Reading.begin? quote c).bind fun (units, next) =>
        (units? quote next rest).map (pending ++ units ++ ·) := by
  rw [units?, Reading.step?, anew, Option.none_or]
  cases state.pending? <;> cases Reading.begin? quote c <;> rfl

/-- A quote or a backslash goes on with no escape, so what is pending comes first and then what
begins with the mark. -/
theorem units?_of_mark (outside : state ≠ .escape) {mark : Char}
    (isMark : mark = '"' ∨ mark = '\x27' ∨ mark = '\\') :
    units? quote state (mark :: rest) =
      state.pending?.bind fun pending => (Reading.begin? quote mark).bind fun (units, next) =>
        (units? quote next rest).map (pending ++ units ++ ·) :=
  units?_anew (Reading.goOn?_of_mark outside isMark)

/-- A backslash begins an escape, and what is pending comes first. -/
theorem units?_backslash (outside : state ≠ .escape) (either : quote = '"' ∨ quote = '\x27') :
    units? quote state ('\\' :: rest) =
      state.pending?.bind fun pending => (units? quote .escape rest).map (pending ++ ·) := by
  have begun : Reading.begin? quote '\\' = some ([], .escape) := by
    rcases either with rfl | rfl <;> rfl
  rw [units?_of_mark outside (.inr (.inr rfl)), begun]
  simp

/-- What is denoted from an escaped character on. -/
theorem units?_escaped_eq_some (outside : state ≠ .escape) (either : quote = '"' ∨ quote = '\x27')
    {c : Char}
    {value : List Nat} (h : units? quote state ('\\' :: c :: rest) = some value) :
    ∃ pending units, state.pending? = some pending ∧
      units? quote (Reading.escaped c).2 rest = some units ∧
      value = pending ++ ((Reading.escaped c).1 ++ units) := by
  rw [units?_backslash outside either, Option.bind_eq_some_iff] at h
  obtain ⟨pending, before, after⟩ := h
  rw [units?_escape, Option.map_map, Option.map_eq_some_iff] at after
  obtain ⟨units, read, rfl⟩ := after
  exact ⟨pending, units, before, read, rfl⟩

/-- What is denoted from a character on. -/
theorem units?_cons_eq_some {c : Char} {value : List Nat}
    (h : units? quote state (c :: rest) = some value) :
    ∃ units next more, state.step? quote c = some (units, next) ∧ units? quote next rest = some more ∧
      value = units ++ more := by
  rw [units?, Option.bind_eq_some_iff] at h
  obtain ⟨⟨units, next⟩, stepped, after⟩ := h
  obtain ⟨more, read, rfl⟩ := Option.map_eq_some_iff.mp after
  exact ⟨units, next, more, stepped, read, rfl⟩

/-- The contents of a literal end with its quote. -/
theorem units?_quote (outside : state ≠ .escape) (either : quote = '"' ∨ quote = '\x27') :
    units? quote state (quote :: rest) = none := by
  rw [units?_of_mark outside (either.imp_right .inl)]
  simp [Reading.begin?]

end

/-! ### Contents -/

/-- The contents of a literal: its quote does not stand in them unless it is escaped, and every
backslash has a character after it. -/
inductive Enclosed (quote : Char) : List Char → Prop
  | nil : Enclosed quote []
  | escaped (c : Char) {rest : List Char} : Enclosed quote rest → Enclosed quote ('\\' :: c :: rest)
  | plain {c : Char} {rest : List Char} : c ≠ quote → c ≠ '\\' → Enclosed quote rest →
      Enclosed quote (c :: rest)

/-- Whether such a character stands after a backslash that is not escaped itself. -/
def escapes (such : Char → Bool) : List Char → Bool
  | '\\' :: c :: rest => such c || escapes such rest
  | _ :: rest => escapes such rest
  | [] => false

section

variable {quote : Char} {contents : List Char}

/-- A character that is no backslash escapes nothing. -/
theorem escapes_cons (such : Char → Bool) {c : Char} (other : c ≠ '\\') (rest : List Char) :
    escapes such (c :: rest) = escapes such rest := by
  rw [escapes]
  exact fun _ _ same => absurd same other

/-- The contents of a literal do not start with its quote. -/
theorem Enclosed.head?_ne (h : Enclosed '\x27' contents) : contents.head? ≠ some '\x27' := by
  cases h with
  | nil | escaped => simp
  | plain other _ _ => simpa using other

/-- What denotes something between quotes is enclosed by them. -/
theorem enclosed_of_units? (either : quote = '"' ∨ quote = '\x27') {state : Reading}
    (outside : state ≠ .escape) {value : List Nat} (h : units? quote state contents = some value) :
    Enclosed quote contents := by
  fun_induction escapes (fun _ => false) contents generalizing state value with
  | case1 c rest ih =>
    obtain ⟨_, _, -, read, -⟩ := units?_escaped_eq_some outside either h
    exact .escaped c (ih (Reading.escaped_ne_escape c) read)
  | case2 c rest alone ih =>
    have other : c ≠ quote := by
      rintro rfl
      rw [units?_quote outside either] at h
      cases h
    have noBackslash : c ≠ '\\' := by
      rintro rfl
      -- nothing comes after it
      obtain rfl : rest = [] := List.eq_nil_iff_forall_not_mem.mpr fun _ mem => by
        obtain ⟨c', rest', rfl⟩ := List.exists_cons_of_ne_nil (List.ne_nil_of_mem mem)
        exact alone c' rest' rfl rfl
      rw [units?_backslash outside either, Option.bind_eq_some_iff] at h
      obtain ⟨_, -, none⟩ := h
      cases none
    obtain ⟨_, _, _, stepped, read, -⟩ := units?_cons_eq_some h
    exact .plain other noBackslash (ih (Reading.ne_escape_of_step? noBackslash stepped) read)
  | case3 => exact .nil

end

/-! ### Requoting -/

/-- The contents of a literal in single quotes, put in double quotes. -/
def requoted (contents : List Char) : List Char := escapedDouble (plainSingle contents)

section

variable {rest : List Char}

/-- Empty contents stay empty. -/
theorem requoted_nil : requoted [] = [] := rfl

/-- An escaped single quote loses its backslash. -/
theorem requoted_escapedSingle (rest : List Char) :
    requoted ('\\' :: '\x27' :: rest) = '\x27' :: requoted rest := by
  simp [requoted, plainSingle, escapedDouble]

/-- A double quote gets a backslash. -/
theorem requoted_double (rest : List Char) :
    requoted ('"' :: rest) = '\\' :: '"' :: requoted rest := by
  simp [requoted, plainSingle, escapedDouble]

/-- Any other character stays as it is, and so does a backslash that stands before no single
quote. -/
theorem requoted_cons {c : Char} (other : c ≠ '"') (kept : c ≠ '\\' ∨ rest.head? ≠ some '\x27') :
    requoted (c :: rest) = c :: requoted rest := by
  have same : (c = '\\' && rest.head? = some '\x27') = false := by
    rcases kept with h | h <;> simp [h]
  simp [requoted, plainSingle, escapedDouble, same, other]

/-- An escaped double quote gets a second backslash, which escapes the first one instead. -/
theorem requoted_escapedDouble (rest : List Char) :
    requoted ('\\' :: '"' :: rest) = '\\' :: '\\' :: '"' :: requoted rest := by
  rw [requoted_cons (by decide) (.inr (by simp)), requoted_double]

/-- An escape of neither quote stays as it is. -/
theorem requoted_escaped (h : Enclosed '\x27' rest) {c : Char} (double : c ≠ '"')
    (single : c ≠ '\x27') : requoted ('\\' :: c :: rest) = '\\' :: c :: requoted rest := by
  rw [requoted_cons (by decide) (.inr (by simpa using single)), requoted_cons double (.inr h.head?_ne)]

end

/-- Requoting keeps what the contents of a literal denote, unless it escapes a double quote: then it
is no literal any more. -/
theorem units?_requoted {contents : List Char} (enclosed : Enclosed '\x27' contents)
    {state : Reading}
    (outside : state ≠ .escape) {value : List Nat}
    (h : units? '\x27' state contents = some value) :
    units? '"' state (requoted contents) = if escapes (· = '"') contents then none else some value := by
  induction enclosed generalizing state value with
  | nil => exact h
  | @escaped c rest enclosed ih =>
    obtain ⟨pending, units, before, read, rfl⟩ := units?_escaped_eq_some outside (.inr rfl) h
    specialize ih (Reading.escaped_ne_escape c) read
    rcases eq_or_ne c '\x27' with rfl | single
    · -- the backslash is dropped, and the quote stands for itself
      have plain : Reading.escaped '\x27' = ([39], .plain) := by decide
      have begun : Reading.begin? '"' '\x27' = some ([39], .plain) := by decide
      rw [plain] at ih ⊢
      rw [requoted_escapedSingle, units?_of_mark outside (.inr (.inl rfl)), before, begun]
      cases further : escapes (· = '"') rest <;> simp [ih, further, escapes]
    rcases eq_or_ne c '"' with rfl | double
    · -- the backslash comes to escape the other one, and the quote closes the literal
      have plain : Reading.escaped '\\' = ([92], .plain) := by decide
      rw [requoted_escapedDouble, units?_backslash outside (.inl rfl), units?_escape, plain,
        units?_quote (by simp) (.inl rfl)]
      simp [escapes]
    · rw [requoted_escaped enclosed double single, units?_backslash outside (.inl rfl), before,
        units?_escape, ih]
      cases further : escapes (· = '"') rest <;> simp [escapes, further, double]
  | @plain c rest single backslash enclosed ih =>
    rw [escapes_cons _ backslash]
    rcases eq_or_ne c '"' with rfl | double
    · rw [units?_of_mark outside (.inl rfl), Option.bind_eq_some_iff] at h
      obtain ⟨pending, before, after⟩ := h
      have begun : Reading.begin? '\x27' '"' = some ([34], .plain) := by decide
      rw [begun, Option.bind_some, Option.map_eq_some_iff] at after
      obtain ⟨units, read, rfl⟩ := after
      have plain : Reading.escaped '"' = ([34], .plain) := by decide
      rw [requoted_double, units?_backslash outside (.inl rfl), before, units?_escape, plain,
        ih (by simp) read]
      cases escapes (· = '"') rest <;> simp
    · obtain ⟨units, next, more, stepped, read, rfl⟩ := units?_cons_eq_some h
      rw [requoted_cons double (.inl backslash), units?,
        Reading.step?_of_not_isQuote (by simp [isQuote, double, single]), stepped, Option.bind_some]
      simp only [ih (Reading.ne_escape_of_step? backslash stepped) read]
      cases escapes (· = '"') rest <;> simp

/-! ### Literals in double quotes -/

/-- The literal with the given contents between two quotes. -/
def quoted (quote : Char) (contents : List Char) : String :=
  String.ofList (quote :: contents ++ [quote])

/-- A literal denotes what its contents do, read from behind the first quote on. -/
theorem value?_quoted {quote : Char} (either : quote = '"' ∨ quote = '\x27')
    (contents : List Char) :
    value? (quoted quote contents) = units? quote .plain contents := by
  have isQuote : isQuote quote := by simpa [isQuote] using either
  simp [value?, quoted, isQuote]

/-- A string literal has its contents between two quotes of one style. -/
theorem exists_quoted {literal : String} {value : List Nat} (h : value? literal = some value) :
    ∃ quote contents, (quote = '"' ∨ quote = '\x27') ∧ literal = quoted quote contents ∧
      units? quote .plain contents = some value := by
  unfold value? at h
  split at h
  case h_2 => cases h
  rename_i quote rest list
  obtain ⟨both, h⟩ := Option.ite_none_right_eq_some.mp h
  obtain ⟨isQuote, last⟩ := Bool.and_eq_true_iff.mp both
  obtain ⟨contents, rfl⟩ := List.getLast?_eq_some_iff.mp (of_decide_eq_true last)
  refine ⟨quote, contents, by simpa [Text.isQuote] using isQuote, ?_, by simpa using h⟩
  rw [quoted, List.cons_append, ← list, String.ofList_toList]

/-- A literal in single quotes is put in double quotes with its contents requoted. -/
theorem doubleQuoted_quoted_single (contents : List Char) :
    doubleQuoted (quoted '\x27' contents) = quoted '"' (requoted contents) := by
  simp [doubleQuoted, quoted, requoted]

/-- A literal in double quotes stays as it is. -/
theorem doubleQuoted_quoted_double (contents : List Char) :
    doubleQuoted (quoted '"' contents) = quoted '"' contents := by
  simp [doubleQuoted, quoted]

/-- What stands between the first and the last character of a literal. -/
def contentsOf (literal : String) : List Char := literal.toList.tail.dropLast

/-- The contents of a literal are what stands between its quotes. -/
@[simp]
theorem contentsOf_quoted (quote : Char) (contents : List Char) :
    contentsOf (quoted quote contents) = contents := by
  simp [contentsOf, quoted]

/-- Whether a literal is in single quotes and escapes a double quote. -/
def breaksOff (literal : String) : Bool :=
  literal.toList.head? = some '\x27' && escapes (· = '"') (contentsOf literal)

/-- A literal in double quotes never breaks off. -/
theorem breaksOff_quoted_double (contents : List Char) : breaksOff
    (quoted '"' contents) = false := by
  simp [breaksOff, quoted]

/-- A literal in single quotes breaks off exactly if its contents escape a double quote. -/
theorem breaksOff_quoted_single (contents : List Char) :
    breaksOff (quoted '\x27' contents) = escapes (· = '"') contents := by
  rw [breaksOff, contentsOf_quoted]
  simp [quoted]

/-- A string literal that is put in double quotes denotes what it denoted, unless it was in single
quotes and escapes a double quote: then it is no literal any more. -/
theorem value?_doubleQuoted {literal : String} {value : List Nat}
    (h : value? literal = some value) :
    value? (doubleQuoted literal) = if breaksOff literal then none else some value := by
  obtain ⟨quote, contents, rfl | rfl, rfl, read⟩ := exists_quoted h
  · rw [doubleQuoted_quoted_double, h, breaksOff_quoted_double]
    rfl
  · have enclosed := enclosed_of_units? (.inr rfl) (by simp) read
    rw [doubleQuoted_quoted_single, value?_quoted (.inl rfl), units?_requoted enclosed (by simp) read,
      breaksOff_quoted_single]

/-! ### Literals that become the same -/

/-- The contents that are requoted to a text. -/
def restored : List Char → List Char
  | '\x27' :: rest => '\\' :: '\x27' :: restored rest
  | '\\' :: '"' :: rest => '"' :: restored rest
  | '\\' :: '\\' :: '"' :: rest => '\\' :: '"' :: restored rest
  | '\\' :: c :: rest => '\\' :: c :: restored rest
  | c :: rest => c :: restored rest
  | [] => []

/-- A backslash stands before every double quote. -/
theorem head?_requoted (contents : List Char) : (requoted contents).head? ≠ some '"' := by
  induction contents with
  | nil => simp [requoted_nil]
  | cons c rest ih =>
    rcases eq_or_ne c '"' with rfl | double
    · simp [requoted_double]
    by_cases dropped : c = '\\' ∧ rest.head? = some '\x27'
    · obtain ⟨rfl, single⟩ := dropped
      obtain ⟨rest, rfl⟩ := List.head?_eq_some_iff.mp single
      simp [requoted_escapedSingle]
    · rw [requoted_cons double (by tauto)]
      simpa using double

/-- Requoting can be undone, so that it takes no two contents to one text. -/
theorem restored_requoted {contents : List Char} (h : Enclosed '\x27' contents) :
    restored (requoted contents) = contents := by
  induction h with
  | nil => rfl
  | @escaped c rest enclosed ih =>
    rcases eq_or_ne c '\x27' with rfl | single
    · rw [requoted_escapedSingle, restored, ih]
    rcases eq_or_ne c '"' with rfl | double
    · rw [requoted_escapedDouble, restored, ih]
    · rw [requoted_escaped enclosed double single, restored, ih]
      · exact double
      · rintro rest' rfl same
        exact head?_requoted rest (same ▸ rfl)
  | @plain c rest single backslash enclosed ih =>
    rcases eq_or_ne c '"' with rfl | double
    · rw [requoted_double, restored, ih]
    · rw [requoted_cons double (.inl backslash), restored, ih] <;>
        (intros; contradiction)

/-- No two contents make one literal. -/
theorem quoted_injective (quote : Char) : Function.Injective (quoted quote) := by
  intro contents others same
  have lists := congrArg String.toList same
  simpa [quoted] using lists

section

variable {first second : String} {one other : List Nat}

/-- Two literals that are one in double quotes denote the same, if the first does not break off. -/
theorem value?_eq_of_not_breaksOff (h : value? first = some one) (h' : value? second = some other)
    (whole : breaksOff first = false) (same : doubleQuoted first = doubleQuoted second) :
    one = other := by
  have kept := value?_doubleQuoted h
  rw [whole, same, value?_doubleQuoted h'] at kept
  cases breaks : breaksOff second <;> simp [breaks] at kept
  exact kept.symm

/-- String literals that become the same in double quotes denote the same. -/
theorem value?_eq_of_doubleQuoted (h : value? first = some one) (h' : value? second = some other)
    (same : doubleQuoted first = doubleQuoted second) : one = other := by
  obtain ⟨quote, contents, rfl | rfl, rfl, read⟩ := exists_quoted h
  · exact value?_eq_of_not_breaksOff h h' (breaksOff_quoted_double contents) same
  obtain ⟨quote', contents', rfl | rfl, rfl, read'⟩ := exists_quoted h'
  · exact (value?_eq_of_not_breaksOff h' h (breaksOff_quoted_double contents') same.symm).symm
  -- both were in single quotes, and can be told from what they become
  rw [doubleQuoted_quoted_single, doubleQuoted_quoted_single] at same
  have equal : contents = contents' := by
    rw [← restored_requoted (enclosed_of_units? (.inr rfl) (by simp) read),
      quoted_injective _ same, restored_requoted (enclosed_of_units? (.inr rfl) (by simp) read')]
  rw [equal, read'] at read
  exact (Option.some.inj read).symm

end

/-! ### Literals of both styles -/

/-- The contents of a literal in single quotes, and the same contents in double quotes: they differ
in which quotes are escaped. -/
inductive Restyled : List Char → List Char → Prop
  | nil : Restyled [] []
  | single {contents other : List Char} : Restyled contents other →
      Restyled ('\\' :: '\x27' :: contents) ('\x27' :: other)
  | double {contents other : List Char} : Restyled contents other →
      Restyled ('"' :: contents) ('\\' :: '"' :: other)
  | escaped {c : Char} {contents other : List Char} : c ≠ '"' → c ≠ '\x27' → Restyled contents other →
      Restyled ('\\' :: c :: contents) ('\\' :: c :: other)
  | plain {c : Char} {contents other : List Char} : c ≠ '"' → c ≠ '\x27' → c ≠ '\\' →
      Restyled contents other → Restyled (c :: contents) (c :: other)

section

variable {contents other : List Char}

/-- The contents on the single-quoted side are contents of a literal. -/
theorem Restyled.enclosed (h : Restyled contents other) : Enclosed '\x27' contents := by
  induction h with
  | nil => exact .nil
  | single _ ih | escaped _ _ _ ih => exact .escaped _ ih
  | double _ ih => exact .plain (by decide) (by decide) ih
  | plain _ single backslash _ ih => exact .plain single backslash ih

/-- Requoting takes contents to the same contents in double quotes. -/
theorem Restyled.requoted_eq (h : Restyled contents other) : requoted contents = other := by
  induction h with
  | nil => rfl
  | single _ ih => rw [requoted_escapedSingle, ih]
  | double _ ih => rw [requoted_double, ih]
  | escaped double single restyled ih => rw [requoted_escaped restyled.enclosed double single, ih]
  | plain double _ backslash _ ih => rw [requoted_cons double (.inl backslash), ih]

/-- What follows an escape is the contents of a literal. -/
theorem Enclosed.of_escaped {quote c : Char} (h : Enclosed quote ('\\' :: c :: contents)) :
    Enclosed quote contents := by
  cases h with
  | escaped _ enclosed => exact enclosed
  | plain _ other _ => exact absurd rfl other

/-- What follows a character that is no backslash is the contents of a literal, and the character is
no quote. -/
theorem Enclosed.of_plain {quote c : Char} (h : Enclosed quote (c :: contents)) (plain : c ≠ '\\') :
    c ≠ quote ∧ Enclosed quote contents := by
  cases h with
  | escaped _ _ => exact absurd rfl plain
  | plain other _ enclosed => exact ⟨other, enclosed⟩

/-- If what comes of requoting is enclosed in double quotes, it differs in which quotes are
escaped. -/
theorem restyled_requoted (h : Enclosed '\x27' contents)
    (enclosed : Enclosed '"' (requoted contents)) :
    Restyled contents (requoted contents) := by
  induction h with
  | nil => exact .nil
  | @escaped c rest inside ih =>
    rcases eq_or_ne c '\x27' with rfl | single
    · rw [requoted_escapedSingle] at enclosed ⊢
      exact .single (ih (enclosed.of_plain (by decide)).2)
    rcases eq_or_ne c '"' with rfl | double
    · -- the backslash that escaped the quote comes to be escaped itself
      rw [requoted_escapedDouble] at enclosed
      exact absurd rfl (enclosed.of_escaped.of_plain (by decide)).1
    · rw [requoted_escaped inside double single] at enclosed ⊢
      exact .escaped double single (ih enclosed.of_escaped)
  | @plain c rest single backslash inside ih =>
    rcases eq_or_ne c '"' with rfl | double
    · rw [requoted_double] at enclosed ⊢
      exact .double (ih enclosed.of_escaped)
    · rw [requoted_cons double (.inl backslash)] at enclosed ⊢
      exact .plain double single backslash (ih (enclosed.of_plain backslash).2)

end

/-- Two literals are the same but for the style of their quotes. -/
inductive SameButQuotes : String → String → Prop
  | refl (literal : String) : SameButQuotes literal literal
  | toDouble {contents other : List Char} : Restyled contents other →
      SameButQuotes (quoted '\x27' contents) (quoted '"' other)
  | toSingle {contents other : List Char} : Restyled contents other →
      SameButQuotes (quoted '"' other) (quoted '\x27' contents)

/-- Literals that are the same but for the style of their quotes are one in double quotes. -/
theorem SameButQuotes.doubleQuoted_eq {literal other : String} (h : SameButQuotes literal other) :
    doubleQuoted literal = doubleQuoted other := by
  cases h with
  | refl => rfl
  | toDouble restyled | toSingle restyled =>
    rw [doubleQuoted_quoted_single, doubleQuoted_quoted_double, restyled.requoted_eq]

/-- String literals that become the same in double quotes differ in their quotes only. -/
theorem sameButQuotes_of_doubleQuoted {quote quote' : Char} {contents contents' : List Char}
    (either : quote = '"' ∨ quote = '\x27') (either' : quote' = '"' ∨ quote' = '\x27')
    (enclosed : Enclosed quote contents) (enclosed' : Enclosed quote' contents')
    (same : doubleQuoted (quoted quote contents) = doubleQuoted (quoted quote' contents')) :
    SameButQuotes (quoted quote contents) (quoted quote' contents') := by
  rcases either with rfl | rfl <;> rcases either' with rfl | rfl <;>
    simp only [doubleQuoted_quoted_single, doubleQuoted_quoted_double] at same
  · exact same ▸ .refl _
  · obtain rfl := quoted_injective _ same
    exact .toSingle (restyled_requoted enclosed' enclosed)
  · obtain rfl := quoted_injective _ same
    exact .toDouble (restyled_requoted enclosed enclosed')
  · obtain rfl : contents = contents' := by
      rw [← restored_requoted enclosed, quoted_injective _ same, restored_requoted enclosed']
    exact .refl _

/-! ### Literals on one line -/

/-- Every blank is a space, and none stands beside another. -/
structure Spaced (text : List Char) : Prop where
  spaces : ∀ c ∈ text, isBlank c → c = ' '
  single : text.IsChain fun c next => ¬ (isBlank c ∧ isBlank next)

/-- The text with a single space for every run of blanks. -/
def squeezed : List Char → List Char
  | [] => []
  | c :: rest =>
    if isBlank c then if rest.head?.any isBlank then squeezed rest else ' ' :: squeezed rest
    else c :: squeezed rest

section

variable {c : Char} {rest : List Char}

/-- A character that is no blank stays. -/
theorem squeezed_plain (plain : isBlank c = false) : squeezed (c :: rest) = c :: squeezed rest := by
  simp [squeezed, plain]

/-- A blank goes if another one follows. -/
theorem squeezed_run (blank : isBlank c) (more : rest.head?.any isBlank) :
    squeezed (c :: rest) = squeezed rest := by
  simp [squeezed, blank, more]

/-- The last blank of a run becomes a space. -/
theorem squeezed_blank (blank : isBlank c) (single : rest.head?.any isBlank = false) :
    squeezed (c :: rest) = ' ' :: squeezed rest := by
  simp [squeezed, blank, single]

/-- A run of blanks becomes one space. -/
theorem squeezed_eq (blank : isBlank c) (rest : List Char) :
    squeezed (c :: rest) = ' ' :: squeezed (rest.dropWhile isBlank) := by
  induction rest generalizing c with
  | nil => exact squeezed_blank blank rfl
  | cons next rest ih =>
    cases more : isBlank next
    · rw [squeezed_blank blank (by simpa using more), List.dropWhile_cons_of_neg (by simp [more])]
    · rw [squeezed_run blank (by simpa using more), ih more, List.dropWhile_cons_of_pos more]

/-- Squeezing makes no text longer. -/
theorem length_squeezed_le : (text : List Char) → (squeezed text).length ≤ text.length
  | [] => Nat.le_refl _
  | c :: rest => by
    have ih := length_squeezed_le rest
    unfold squeezed
    split_ifs <;> simp only [List.length_cons] <;> omega

/-- A text is spaced exactly if its first character is no blank or a single space, and the rest is
spaced. -/
theorem spaced_cons_iff : Spaced (c :: rest) ↔
    (isBlank c → c = ' ' ∧ rest.head?.any isBlank = false) ∧ Spaced rest := by
  have alone : (c :: rest).IsChain (fun c next => ¬ (isBlank c ∧ isBlank next)) ↔
      (isBlank c → rest.head?.any isBlank = false) ∧
        rest.IsChain fun c next => ¬ (isBlank c ∧ isBlank next) := by
    cases rest <;> simp
  constructor
  · rintro ⟨spaces, single⟩
    obtain ⟨first, later⟩ := List.forall_mem_cons.mp spaces
    obtain ⟨after, single⟩ := alone.mp single
    exact ⟨fun blank => ⟨first blank, after blank⟩, later, single⟩
  · rintro ⟨first, later, single⟩
    exact ⟨List.forall_mem_cons.mpr ⟨fun blank => (first blank).1, later⟩,
      alone.mpr ⟨fun blank => (first blank).2, single⟩⟩

/-- A text is its own squeezed form if it is spaced, and only then. -/
theorem squeezed_eq_self_iff : {text : List Char} → (squeezed text = text ↔ Spaced text)
  | [] => ⟨fun _ => ⟨by simp, .nil⟩, fun _ => rfl⟩
  | c :: rest => by
    have ih : squeezed rest = rest ↔ Spaced rest := squeezed_eq_self_iff
    rw [spaced_cons_iff]
    cases blank : isBlank c
    · simp [squeezed_plain blank, ih]
    cases more : rest.head?.any isBlank
    · simp only [squeezed_blank blank more, List.cons.injEq, ih, forall_const, and_true]
      rw [eq_comm]
    · have shorter := length_squeezed_le rest
      rw [squeezed_run blank more]
      refine iff_of_false (fun same => ?_) (by simp)
      rw [same, List.length_cons] at shorter
      omega

end

/-- There are words in a text that has anything but blanks in it. -/
theorem wordsFrom_ne_nil {word text : List Char}
    (some : word ≠ [] ∨ ∃ c ∈ text, isBlank c = false) :
    wordsFrom word text ≠ [] := by
  fun_induction wordsFrom word text with
  | case1 word none => simp_all
  | case2 => simp
  | case3 word c rest blank none ih => exact ih (.inr (by simp_all))
  | case4 => simp
  | case5 word c rest plain ih => exact ih (.inl (by simp))

/-- The words of a text, put together with spaces, are its squeezed form without the blanks in
front. -/
theorem intercalate_wordsFrom {text : List Char} (last : ∀ c ∈ text.getLast?, isBlank c = false) :
    [' '].intercalate (wordsFrom [] text) = squeezed (text.dropWhile isBlank) ∧
      ∀ word ≠ [], [' '].intercalate (wordsFrom word text) = word.reverse ++ squeezed text := by
  induction text with
  | nil =>
    refine ⟨rfl, fun word some => ?_⟩
    simp [wordsFrom, some, squeezed]
  | cons c rest ih =>
    have later : ∀ d ∈ rest.getLast?, isBlank d = false := fun d mem =>
      last d (List.mem_getLast?_cons mem)
    obtain ⟨inFront, after⟩ := ih later
    cases blank : isBlank c
    · have next (word : List Char) :
          [' '].intercalate (wordsFrom word (c :: rest)) = word.reverse ++ squeezed (c :: rest) := by
        rw [wordsFrom, if_neg (by simp [blank]), after _ (List.cons_ne_nil c word),
          squeezed_plain blank]
        simp
      rw [List.dropWhile_cons_of_neg (by simp [blank])]
      exact ⟨next [], fun word _ => next word⟩
    · refine ⟨?_, fun word some => ?_⟩
      · rw [wordsFrom, if_pos blank, if_pos (by rfl), inFront, List.dropWhile_cons_of_pos blank]
      · -- the last character is no blank, so that another word follows
        have more : wordsFrom [] rest ≠ [] := by
          cases rest with
          | nil =>
            rw [last c (by simp)] at blank
            cases blank
          | cons next rest =>
            have mem := List.getLast?_eq_some_getLast (List.cons_ne_nil next rest)
            exact wordsFrom_ne_nil (.inr ⟨_, List.getLast_mem _, later _ mem⟩)
        rw [wordsFrom, if_pos blank, if_neg (by simpa using some),
          List.intercalate_cons_of_ne_nil more, inFront, squeezed_eq blank]
        simp

/-- A text without blanks at its ends is squeezed when it is put on one line. -/
theorem oneLine_eq {text : String} (first : ∀ c ∈ text.toList.head?, isBlank c = false)
    (last : ∀ c ∈ text.toList.getLast?, isBlank c = false) :
    oneLine text = String.ofList (squeezed text.toList) := by
  have whole : text.toList.dropWhile isBlank = text.toList := by
    cases list : text.toList with
    | nil => rfl
    | cons c rest => simp [first c (by simp [list])]
  rw [oneLine, words, (intercalate_wordsFrom last).1, whole]

/-! ### Values on one line -/

/-- A last character that is no blank stays. -/
theorem squeezed_concat {c : Char} (plain : isBlank c = false) :
    (text : List Char) → squeezed (text ++ [c]) = squeezed text ++ [c]
  | [] => squeezed_plain plain
  | d :: rest => by
    have ih := squeezed_concat plain rest
    have next : (rest ++ [c]).head?.any isBlank = rest.head?.any isBlank := by
      cases rest <;> simp [plain]
    simp only [List.cons_append, squeezed, next, ih]
    split_ifs <;> rfl

/-- A literal on one line has its contents squeezed. -/
theorem oneLine_quoted {quote : Char} (either : quote = '"' ∨ quote = '\x27')
    (contents : List Char) :
    oneLine (quoted quote contents) = quoted quote (squeezed contents) := by
  have plain : isBlank quote = false := by rcases either with rfl | rfl <;> decide
  have list : (quoted quote contents).toList = quote :: contents ++ [quote] := String.toList_ofList
  have last : ∀ c ∈ (quoted quote contents).toList.getLast?, isBlank c = false := by
    rw [list, List.getLast?_concat]
    simpa using plain
  rw [oneLine_eq (by simp [list, plain]) last, list, List.cons_append, squeezed_plain plain,
    squeezed_concat plain, quoted, List.cons_append]

/-- A literal is spaced exactly if its contents are. -/
theorem spaced_quoted_iff {quote : Char} (either : quote = '"' ∨ quote = '\x27')
    (contents : List Char) : Spaced (quoted quote contents).toList ↔ Spaced contents := by
  have plain : isBlank quote = false := by rcases either with rfl | rfl <;> decide
  rw [← squeezed_eq_self_iff, ← squeezed_eq_self_iff, quoted, String.toList_ofList, List.cons_append,
    squeezed_plain plain, squeezed_concat plain]
  simp

/-- A blank is no digit. -/
theorem hexDigit?_of_isBlank {c : Char} (blank : isBlank c) : hexDigit? c = none := by
  have number (a : Char) : a ≤ c ↔ a.toNat ≤ c.toNat := Iff.rfl
  have number' (a : Char) : c ≤ a ↔ c.toNat ≤ a.toNat := Iff.rfl
  simp only [isBlank, Bool.or_eq_true, Bool.and_eq_true, decide_eq_true_eq] at blank
  simp only [hexDigit?, number, number', Bool.and_eq_true, decide_eq_true_eq]
  have zero : '0'.toNat = 48 := rfl
  have nine : '9'.toNat = 57 := rfl
  have a : 'a'.toNat = 97 := rfl
  have f : 'f'.toNat = 102 := rfl
  have A : 'A'.toNat = 65 := rfl
  have F : 'F'.toNat = 70 := rfl
  split_ifs <;> first | rfl | omega

namespace Reading

variable {state : Reading} {c : Char}

/-- An escape does not go on with a blank, unless that is what is escaped. -/
theorem goOn?_of_isBlank (outside : state ≠ escape) (settled : state ≠ carriage)
    (blank : isBlank c) :
    state.goOn? c = none := by
  have noDigit := hexDigit?_of_isBlank blank
  have noBrace : c ≠ '\x7b' ∧ c ≠ '\x7d' := by
    constructor <;> (rintro rfl; revert blank; decide)
  cases state <;> simp_all [goOn?, octalDigit?]

/-- Only an escaped carriage return is looked at together with what follows it. -/
theorem escaped_ne_carriage (other : c ≠ '\r') : (escaped c).2 ≠ carriage := by
  unfold escaped
  split <;> (try split) <;> simp_all

/-- Only an escape leads to a carriage return that a line feed may follow. -/
theorem ne_carriage_of_step? {quote : Char} {units : List Nat} {next : Reading}
    (outside : state ≠ escape) (h : state.step? quote c = some (units, next)) :
    next ≠ carriage := by
  rcases Option.or_eq_some_iff.mp h with goneOn | ⟨-, begun⟩
  · cases state with
    | escape => exact absurd rfl outside
    | plain => cases goneOn
    | carriage | octal | hex | unicode | braces =>
      simp only [goOn?] at goneOn
      grind [Option.map_eq_some_iff, Option.bind_eq_some_iff]
  · obtain ⟨pending, -, begun⟩ := Option.bind_eq_some_iff.mp begun
    obtain ⟨⟨more, after⟩, begun, same⟩ := Option.map_eq_some_iff.mp begun
    cases same
    simp only [begin?] at begun
    split_ifs at begun <;> cases begun <;> simp

/-- What a blank denotes that stands between quotes. -/
theorem begin?_of_isBlank {quote : Char} (blank : isBlank c)
    {units : List Nat} {next : Reading} (h : begin? quote c = some (units, next)) :
    units = [c.toNat] ∧ next = plain := by
  have backslash : c ≠ '\\' := by rintro rfl; revert blank; decide
  have small : c.toNat < 0x10000 := by
    simp only [isBlank, Bool.or_eq_true, Bool.and_eq_true, decide_eq_true_eq] at blank
    omega
  simp only [begin?, backslash, if_false] at h
  split_ifs at h
  cases h
  exact ⟨if_pos small, rfl⟩

/-- A blank ends an escape and stands for itself. -/
theorem step?_of_isBlank {quote : Char} (outside : state ≠ escape) (settled : state ≠ carriage)
    (blank : isBlank c) {units : List Nat} {next : Reading}
    (h : state.step? quote c = some (units, next)) :
    ∃ pending, state.pending? = some pending ∧ units = pending ++ [c.toNat] ∧ next = plain := by
  rw [step?, goOn?_of_isBlank outside settled blank, Option.none_or, Option.bind_eq_some_iff] at h
  obtain ⟨pending, before, begun⟩ := h
  obtain ⟨⟨more, after⟩, begun, same⟩ := Option.map_eq_some_iff.mp begun
  obtain ⟨rfl, rfl⟩ := begin?_of_isBlank blank begun
  cases same
  exact ⟨pending, before, rfl, rfl⟩

end Reading

/-- A space denotes itself, after what is pending. -/
theorem units?_space {quote : Char} (either : quote = '"' ∨ quote = '\x27') {state : Reading}
    (outside : state ≠ .escape) (settled : state ≠ .carriage) {pending : List Nat}
    (before : state.pending? = some pending) (rest : List Char) :
    units? quote state (' ' :: rest) = (units? quote .plain rest).map (pending ++ [32] ++ ·) := by
  have begun : Reading.begin? quote ' ' = some ([32], .plain) := by
    rcases either with rfl | rfl <;> decide
  rw [units?_anew (Reading.goOn?_of_isBlank outside settled (by decide)), before, begun]
  rfl

/-- Squeezing shortens what contents denote by as much as it shortens the contents, and changes it
if it changes them. -/
structure Squeezes (contents : List Char) (value short : List Nat) : Prop where
  lengths : short.length + contents.length = value.length + (squeezed contents).length
  kept : short = value → squeezed contents = contents

namespace Squeezes

variable {c : Char} {rest : List Char} {value short : List Nat}

/-- What comes before in both values makes no difference to squeezing. -/
theorem before (h : Squeezes rest value short) (units : List Nat) :
    Squeezes rest (units ++ value) (units ++ short) where
  lengths := by
    have lengths := h.lengths
    simp only [List.length_append]
    omega
  kept same := h.kept (List.append_cancel_left same)

/-- A character that is no blank makes no difference to squeezing, and so it may be denoted in any
way. -/
theorem plain (h : Squeezes rest value short) (plain : isBlank c = false) :
    Squeezes (c :: rest) value short where
  lengths := by
    have lengths := h.lengths
    rw [squeezed_plain plain]
    simp only [List.length_cons]
    omega
  kept same := by rw [squeezed_plain plain, h.kept same]

/-- A single blank is squeezed to a space, which denotes another unit unless the blank is a
space. -/
theorem blank (h : Squeezes rest value short) (blank : isBlank c)
    (single : rest.head?.any isBlank = false) :
    Squeezes (c :: rest) (c.toNat :: value) (32 :: short) where
  lengths := by
    have lengths := h.lengths
    rw [squeezed_blank blank single]
    simp only [List.length_cons]
    omega
  kept same := by
    obtain ⟨number, equal⟩ := List.cons.inj same
    obtain rfl : ' ' = c := Char.toNat_inj.mp number
    rw [squeezed_blank blank single, h.kept equal]

/-- A blank before another one is left out. -/
theorem run (h : Squeezes rest value short) (blank : isBlank c) (more : rest.head?.any isBlank) :
    Squeezes (c :: rest) (c.toNat :: value) short where
  lengths := by
    have lengths := h.lengths
    rw [squeezed_run blank more]
    simp only [List.length_cons]
    omega
  kept same := by
    have lengths := h.lengths
    have shorter := length_squeezed_le rest
    rw [same, List.length_cons] at lengths
    omega

end Squeezes

/-- If no blank is escaped, then the squeezed contents of a literal denote something, and this is
what the contents denote only if they stay as they are. -/
theorem units?_squeezed {quote : Char} (either : quote = '"' ∨ quote = '\x27')
    {contents : List Char}
    (enclosed : Enclosed quote contents) (unescaped : escapes isBlank contents = false)
    {state : Reading} (outside : state ≠ .escape) (settled : state ≠ .carriage) {value : List Nat}
    (h : units? quote state contents = some value) :
    ∃ short, units? quote state (squeezed contents) = some short ∧ Squeezes contents value short := by
  induction enclosed generalizing state value with
  | nil => exact ⟨value, h, ⟨rfl, fun _ => rfl⟩⟩
  | @escaped c rest enclosed ih =>
    simp only [escapes, Bool.or_eq_false_iff] at unescaped
    obtain ⟨plain, unescaped⟩ := unescaped
    obtain ⟨pending, units, before, read, rfl⟩ := units?_escaped_eq_some outside either h
    have noReturn : c ≠ '\r' := by rintro rfl; revert plain; decide
    obtain ⟨short, shortened, squeezes⟩ := ih unescaped (Reading.escaped_ne_escape c)
      (Reading.escaped_ne_carriage noReturn) read
    refine ⟨_, ?_, (((squeezes.before (Reading.escaped c).1).plain plain).plain (by decide)).before pending⟩
    rw [squeezed_plain (by decide), squeezed_plain plain, units?_backslash outside either, before,
      units?_escape, shortened]
    rfl
  | @plain c rest other backslash enclosed ih =>
    rw [escapes_cons _ backslash] at unescaped
    obtain ⟨units, next, more, stepped, read, rfl⟩ := units?_cons_eq_some h
    cases blank : isBlank c
    · obtain ⟨short, shortened, squeezes⟩ := ih unescaped
        (Reading.ne_escape_of_step? backslash stepped) (Reading.ne_carriage_of_step? outside stepped) read
      refine ⟨_, ?_, (squeezes.plain blank).before units⟩
      rw [squeezed_plain blank, units?, stepped, Option.bind_some]
      simp [shortened]
    · obtain ⟨pending, before, rfl, rfl⟩ := Reading.step?_of_isBlank outside settled blank stepped
      obtain ⟨short, shortened, squeezes⟩ := ih unescaped (by simp) (by simp) read
      rw [List.append_assoc, List.singleton_append]
      cases single : rest.head?.any isBlank
      · refine ⟨_, ?_, (squeezes.blank blank single).before pending⟩
        rw [squeezed_blank blank single, units?_space either outside settled before, shortened]
        simp
      · -- the blank is left out, and the next one ends the escape before it
        obtain ⟨d, tail, rfl⟩ : ∃ d tail, rest = d :: tail := by
          cases rest with
          | nil => cases single
          | cons d tail => exact ⟨d, tail, rfl⟩
        refine ⟨_, ?_, (squeezes.run blank single).before pending⟩
        have first := squeezed_eq (c := d) (by simpa using single) tail
        rw [first, units?_space either (by simp) (by simp) rfl, Option.map_eq_some_iff] at shortened
        obtain ⟨later, shortened, rfl⟩ := shortened
        rw [squeezed_run blank single, first, units?_space either outside settled before, shortened]
        simp

/-- Whether a literal escapes a blank. -/
def escapesBlank (literal : String) : Bool := escapes isBlank (contentsOf literal)

section

variable {literal : String} {value : List Nat}

/-- A string literal that is spaced stays as it is on one line. -/
theorem oneLine_of_spaced (h : value? literal = some value) (spaced : Spaced literal.toList) :
    oneLine literal = literal := by
  obtain ⟨quote, contents, either, rfl, -⟩ := exists_quoted h
  rw [spaced_quoted_iff either] at spaced
  rw [oneLine_quoted either, squeezed_eq_self_iff.mpr spaced]

/-- On one line no other literal denotes what it denoted, unless it escapes a blank. -/
theorem spaced_of_value?_oneLine (h : value? literal = some value)
    (kept : value? (oneLine literal) = some value) (unescaped : escapesBlank literal = false) :
    Spaced literal.toList := by
  obtain ⟨quote, contents, either, rfl, read⟩ := exists_quoted h
  rw [oneLine_quoted either, value?_quoted either] at kept
  rw [escapesBlank, contentsOf_quoted] at unescaped
  rw [spaced_quoted_iff either, ← squeezed_eq_self_iff]
  obtain ⟨short, shortened, -, equal⟩ := units?_squeezed either
    (enclosed_of_units? either (by simp) read) unescaped (by simp) (by simp) read
  rw [shortened] at kept
  exact equal (Option.some.inj kept)

end

end TypeAtlas.Text
