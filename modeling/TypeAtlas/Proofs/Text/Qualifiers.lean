import Mathlib.Data.List.Infix
import TypeAtlas.Text.Qualifier

/-!
# Texts with qualifiers

A text is a row of chunks with qualifiers between them. No qualifier starts in a chunk, and none
stops before its end (`Qualified`). Behind the last chunk there may be a qualifier that does not
stop at all. All texts are of one of these two kinds (`Qualified.exists_qualified`).

Main statement: `unqualified_text`. What is left of a text are its chunks, and the qualifier that
does not stop if there is one. Both marks of a qualifier start with a character that does not come
back in them, so that a mark cannot lie across the end of a chunk: what looks like its beginning
there, as in `impimport("x").A`, belongs to the chunk (`cut?_append`).
-/

set_option autoImplicit false

namespace TypeAtlas.Text

/-! ### Marks -/

/-- A mark that does not occur is not found. -/
theorem cut?_eq_none {mark text : List Char} (absent : ¬ mark <:+: text) :
    cut? mark text = none := by
  rw [Option.eq_none_iff_forall_ne_some]
  rintro ⟨before, after⟩ found
  exact absent ⟨before, after, (eq_append_of_cut? found).symm⟩

/-- A mark that is not found does not occur. -/
theorem not_infix_of_cut?_eq_none {mark text : List Char} (none : cut? mark text = none) :
    ¬ mark <:+: text := by
  induction text with
  | nil =>
    rw [cut?] at none
    simpa using none
  | cons c rest ih =>
    rw [cut?] at none
    split_ifs at none with here
    rw [List.infix_cons_iff, not_or]
    exact ⟨fun start => here (List.isPrefixOf_iff_prefix.mpr start),
      ih (Option.map_eq_none_iff.mp none)⟩

/-- A mark is found where it occurs first. -/
theorem not_infix_of_cut? {mark text before after : List Char} (proper : mark ≠ [])
    (found : cut? mark text = some (before, after)) : ¬ mark <:+: before := by
  induction text generalizing before with
  | nil => simp [cut?, proper] at found
  | cons c rest ih =>
    rw [cut?] at found
    split_ifs at found with here
    · obtain ⟨rfl, -⟩ : [] = before ∧ _ := by simpa using found
      simpa using proper
    · obtain ⟨⟨more, behind⟩, next, same⟩ := Option.map_eq_some_iff.mp found
      obtain ⟨rfl, rfl⟩ : c :: more = before ∧ behind = after := by simpa using same
      rw [List.infix_cons_iff, not_or]
      refine ⟨fun start => here (List.isPrefixOf_iff_prefix.mpr ?_), ih next⟩
      rw [eq_append_of_cut? next, List.append_assoc, ← List.cons_append]
      exact start.trans (List.prefix_append _ _)

/-- A mark is found behind a text in which it does not occur, if its first character does not come
back in it. -/
theorem cut?_append {c : Char} {rest before after : List Char} (once : c ∉ rest)
    (absent : ¬ (c :: rest) <:+: before) :
    cut? (c :: rest) (before ++ (c :: rest ++ after)) = some (before, after) := by
  induction before with
  | nil => simp [cut?]
  | cons d before ih =>
    rw [List.infix_cons_iff, not_or] at absent
    have later : ¬ (c :: rest).isPrefixOf (d :: before ++ (c :: rest ++ after)) := by
      rw [List.isPrefixOf_iff_prefix]
      intro start
      obtain whole | ⟨part, split⟩ :=
        List.prefix_or_prefix_of_prefix start (List.prefix_append (d :: before) _)
      · exact absent.1 whole
      · -- the mark would go on where it starts, and so its first character would come back in it
        have ahead : part <+: c :: rest ++ after := by
          rwa [← List.prefix_append_right_inj (d :: before), split]
        cases part with
        | nil => exact absent.1 (by simp [← split])
        | cons e part =>
          obtain rfl : e = c := (List.cons_prefix_cons.mp ahead).1
          obtain ⟨rfl, rfl⟩ : d = e ∧ before ++ e :: part = rest := by simpa using split
          exact once (List.mem_append_right _ List.mem_cons_self)
    rw [List.cons_append, cut?, ← List.cons_append, if_neg later, ih absent.2, Option.map_some]

/-! ### Without qualifiers -/

section without

variable {chunk inside after : List Char}

/-- A text in which no qualifier starts is kept. -/
theorem withoutQualifiers_of_not_infix (plain : ¬ qualifierStart <:+: chunk) :
    withoutQualifiers chunk = chunk := by
  rw [withoutQualifiers, cut?_eq_none plain]

/-- The first qualifier is dropped. -/
theorem withoutQualifiers_append_qualifier (plain : ¬ qualifierStart <:+: chunk)
    (unstopped : ¬ qualifierStop <:+: inside) :
    withoutQualifiers (chunk ++ (qualifierStart ++ (inside ++ (qualifierStop ++ after)))) =
      chunk ++ withoutQualifiers after := by
  have first : cut? qualifierStart
      (chunk ++ (qualifierStart ++ (inside ++ (qualifierStop ++ after)))) =
        some (chunk, inside ++ (qualifierStop ++ after)) := cut?_append (by decide) plain
  have last : cut? qualifierStop (inside ++ (qualifierStop ++ after)) = some (inside, after) :=
    cut?_append (by decide) unstopped
  rw [withoutQualifiers, first]
  dsimp only
  rw [last]

/-- A qualifier that does not stop is kept. -/
theorem withoutQualifiers_append_opening (plain : ¬ qualifierStart <:+: chunk)
    (unstopped : ¬ qualifierStop <:+: inside) :
    withoutQualifiers (chunk ++ (qualifierStart ++ inside)) =
      chunk ++ (qualifierStart ++ inside) := by
  have first : cut? qualifierStart (chunk ++ (qualifierStart ++ inside)) = some (chunk, inside) :=
    cut?_append (by decide) plain
  rw [withoutQualifiers, first]
  dsimp only
  rw [cut?_eq_none unstopped]

end without

/-! ### Texts as strings -/

/-- A text in which no qualifier starts stays as it is. -/
theorem unqualified_of_not_infix {text : String} (none : ¬ qualifierStart <:+: text.toList) :
    unqualified text = text := by
  rw [unqualified, withoutQualifiers_of_not_infix none, String.ofList_toList]

/-- Whether a text occurs in another. -/
def Occurs (mark text : String) : Prop := mark.toList <:+: text.toList

/-- A mark occurs in a text exactly if its characters are a stretch of it. -/
theorem occurs_ofList {mark : String} {chars : List Char} :
    Occurs mark (String.ofList chars) ↔ mark.toList <:+: chars := by
  rw [Occurs, String.toList_ofList]

/-- A text that is cut at a mark is what comes before the mark, the mark, and what comes after
it. -/
theorem ofList_of_cut? {mark : String} {chars before after : List Char}
    (found : cut? mark.toList chars = some (before, after)) :
    String.ofList chars = String.ofList before ++ (mark ++ String.ofList after) := by
  rw [eq_append_of_cut? found, String.ofList_append, String.ofList_append, String.ofList_toList,
    String.append_assoc]

/-- The mark that starts a qualifier, by its characters. -/
theorem toList_start : "import(".toList = qualifierStart := rfl

/-- The mark that stops a qualifier, by its characters. -/
theorem toList_stop : ").".toList = qualifierStop := rfl

/-- The first qualifier is cut out, the chunk before it stays, and what comes after it is cut by
itself. -/
theorem unqualified_append_qualifier {chunk inside after : String}
    (plain : ¬ Occurs "import(" chunk) (unstopped : ¬ Occurs ")." inside) :
    unqualified (chunk ++ ("import(" ++ (inside ++ (")." ++ after)))) =
      chunk ++ unqualified after := by
  simp only [unqualified, String.toList_append, toList_start, toList_stop]
  rw [withoutQualifiers_append_qualifier plain unstopped, String.ofList_append,
    String.ofList_toList]

/-- A qualifier that does not stop stays with all that is before it. -/
theorem unqualified_append_opening {chunk inside : String}
    (plain : ¬ Occurs "import(" chunk) (unstopped : ¬ Occurs ")." inside) :
    unqualified (chunk ++ ("import(" ++ inside)) = chunk ++ ("import(" ++ inside) := by
  simp only [unqualified, String.toList_append, toList_start]
  rw [withoutQualifiers_append_opening plain unstopped, ← toList_start]
  simp only [String.ofList_append, String.ofList_toList]

/-! ### Chunks and qualifiers -/

/-- A text in which no qualifier starts. -/
structure Chunk where
  text : String
  plain : ¬ Occurs "import(" text

/-- A qualifier by what stands between its marks, where it does not stop. -/
structure Qualifier where
  inside : String
  unstopped : ¬ Occurs ")." inside

namespace Qualifier

/-- A qualifier without the mark that stops it. -/
def opening (qualifier : Qualifier) : String := "import(" ++ qualifier.inside

def text (qualifier : Qualifier) : String := qualifier.opening ++ ")."

end Qualifier

/-- A chunk, and then qualifiers, each with a chunk behind it. -/
structure Qualified where
  first : Chunk
  rest : List (Qualifier × Chunk)

namespace Qualified

def text (qualified : Qualified) : String :=
  qualified.first.text ++
    String.join (qualified.rest.map fun (next, chunk) => next.text ++ chunk.text)

/-- The chunks alone. -/
def bare (qualified : Qualified) : String :=
  qualified.first.text ++ String.join (qualified.rest.map fun (_, chunk) => chunk.text)

/-- A qualified text is its first chunk, the first qualifier and the qualified text after it. -/
theorem text_cons (first : Chunk) (next : Qualifier) (chunk : Chunk)
    (rest : List (Qualifier × Chunk)) : (Qualified.mk first ((next, chunk) :: rest)).text =
      first.text ++ ("import(" ++ (next.inside ++ (")." ++ (Qualified.mk chunk rest).text))) := by
  simp [text, Qualifier.text, Qualifier.opening, String.append_assoc]

/-- The chunks of a qualified text are the first one and those of the text after it. -/
theorem bare_cons (first : Chunk) (next : Qualifier) (chunk : Chunk)
    (rest : List (Qualifier × Chunk)) : (Qualified.mk first ((next, chunk) :: rest)).bare =
      first.text ++ (Qualified.mk chunk rest).bare := by
  simp [bare]

/-- Qualifiers are dropped one by one up to an ending that stays behind every chunk. -/
theorem unqualified_append (ending : String)
    (stays : ∀ chunk : Chunk, unqualified (chunk.text ++ ending) = chunk.text ++ ending) :
    (first : Chunk) → (rest : List (Qualifier × Chunk)) →
      unqualified ((Qualified.mk first rest).text ++ ending) =
        (Qualified.mk first rest).bare ++ ending
  | first, [] => by simpa [text, bare] using stays first
  | first, (next, chunk) :: rest => by
    have later := unqualified_append ending stays chunk rest
    rw [text_cons, bare_cons]
    simp only [String.append_assoc]
    rw [unqualified_append_qualifier first.plain next.unstopped, later]

/-- All texts are made of chunks and qualifiers, of which the last may not stop. -/
theorem exists_qualified (text : String) : ∃ qualified : Qualified,
    text = qualified.text ∨ ∃ last : Qualifier, text = qualified.text ++ last.opening := by
  obtain ⟨chars, rfl⟩ : ∃ chars, text = String.ofList chars := ⟨text.toList, by simp⟩
  fun_induction withoutQualifiers chars with
  | case1 chars none =>
    have plain : ¬ Occurs "import(" (String.ofList chars) :=
      mt occurs_ofList.mp (not_infix_of_cut?_eq_none none)
    exact ⟨⟨⟨_, plain⟩, []⟩, .inl (by simp [text])⟩
  | case2 chars before tail first none =>
    have plain : ¬ Occurs "import(" (String.ofList before) :=
      mt occurs_ofList.mp (not_infix_of_cut? (by decide) first)
    have unstopped : ¬ Occurs ")." (String.ofList tail) :=
      mt occurs_ofList.mp (not_infix_of_cut?_eq_none none)
    refine ⟨⟨⟨_, plain⟩, []⟩, .inr ⟨⟨_, unstopped⟩, ?_⟩⟩
    rw [ofList_of_cut? first]
    simp [text, Qualifier.opening]
  | case3 chars before tail first inside after last ih =>
    have plain : ¬ Occurs "import(" (String.ofList before) :=
      mt occurs_ofList.mp (not_infix_of_cut? (by decide) first)
    have unstopped : ¬ Occurs ")." (String.ofList inside) :=
      mt occurs_ofList.mp (not_infix_of_cut? (by decide) last)
    obtain ⟨⟨chunk, rest⟩, later⟩ := ih
    refine ⟨⟨⟨_, plain⟩, (⟨_, unstopped⟩, chunk) :: rest⟩, ?_⟩
    rw [ofList_of_cut? first, ofList_of_cut? last, text_cons]
    obtain whole | ⟨unclosed, whole⟩ := later
    · exact .inl (by rw [whole])
    · exact .inr ⟨unclosed, by simp only [whole, String.append_assoc]⟩

end Qualified

/-- What is left of a text are its chunks, and the qualifier behind them if there is one that does
not stop. -/
theorem unqualified_text (qualified : Qualified) :
    unqualified qualified.text = qualified.bare ∧
      ∀ last : Qualifier, unqualified (qualified.text ++ last.opening) =
        qualified.bare ++ last.opening := by
  constructor
  · have bare := Qualified.unqualified_append "" (fun chunk => by
      rw [String.append_empty, unqualified_of_not_infix chunk.plain]) qualified.first qualified.rest
    simpa using bare
  · intro last
    exact Qualified.unqualified_append last.opening (fun chunk => unqualified_append_opening
      chunk.plain last.unstopped) qualified.first qualified.rest

end TypeAtlas.Text
