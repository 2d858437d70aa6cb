/-!
Texts of types without the modules that names are imported from.

A qualifier starts with `import(` and reaches to the next closing parenthesis with a point after
it. Main statement: what `cut?` leaves is shorter than the text.
-/

set_option autoImplicit false

namespace TypeAtlas.Text

/-- What comes before and after the first occurrence of a mark. -/
def cut? (mark : List Char) : List Char → Option (List Char × List Char)
  | [] => if mark.isEmpty then some ([], []) else none
  | c :: rest =>
    if mark.isPrefixOf (c :: rest) then some ([], (c :: rest).drop mark.length)
    else (cut? mark rest).map fun (before, after) => (c :: before, after)

/-- A cut takes the text apart at the mark. -/
theorem eq_append_of_cut? {mark text before after : List Char}
    (h : cut? mark text = some (before, after)) : text = before ++ mark ++ after := by
  induction text generalizing before with
  | nil =>
    simp only [cut?, List.isEmpty_iff] at h
    split at h <;> simp_all
  | cons c rest ih =>
    simp only [cut?] at h
    split at h
    · rename_i hp
      obtain ⟨tail, ht⟩ := List.isPrefixOf_iff_prefix.mp hp
      simp only [Option.some.injEq, Prod.mk.injEq] at h
      obtain ⟨rfl, rfl⟩ := h
      rw [← ht]
      simp
    · obtain ⟨⟨b, a⟩, hb, hab⟩ := Option.map_eq_some_iff.mp h
      simp only [Prod.mk.injEq] at hab
      obtain ⟨rfl, rfl⟩ := hab
      rw [ih hb]
      simp

/-- A cut leaves less than the whole text. -/
theorem length_lt_of_cut? {mark text before after : List Char} (hm : mark ≠ [])
    (h : cut? mark text = some (before, after)) : after.length < text.length := by
  have := List.length_pos_iff.mpr hm
  rw [eq_append_of_cut? h]
  simp only [List.length_append]
  omega

/-- Where a qualifier starts. -/
def qualifierStart : List Char := "import(".toList

/-- Where a qualifier stops. -/
def qualifierStop : List Char := ").".toList

/-- The text without qualifiers. One that does not stop is kept. -/
def withoutQualifiers (text : List Char) : List Char :=
  match _first : cut? qualifierStart text with
  | none => text
  | some (before, tail) =>
    match _last : cut? qualifierStop tail with
    | none => text
    | some (_, after) => before ++ withoutQualifiers after
termination_by text.length
decreasing_by
  have h₁ := length_lt_of_cut? (by decide) _first
  have h₂ := length_lt_of_cut? (by decide) _last
  omega

/-- A last character is kept unless a qualifier can end with it. -/
theorem getLast?_withoutQualifiers {text : List Char} {c : Char} (h : text.getLast? = some c)
    (point : c ≠ '.') : (withoutQualifiers text).getLast? = some c := by
  fun_induction withoutQualifiers text with
  | case1 text none => exact h
  | case2 text before tail first none => exact h
  | case3 text before tail first inside after last ih =>
    rw [eq_append_of_cut? first, eq_append_of_cut? last] at h
    cases after with
    | nil =>
      obtain rfl : '.' = c := by simpa [qualifierStop] using h
      exact absurd rfl point
    | cons a rest =>
      have kept : (a :: rest).getLast? = some c := by simpa using h
      rw [List.getLast?_append, ih kept, Option.some_or]

/-- The name of a type without the modules it is imported from. -/
def unqualified (text : String) : String := String.ofList (withoutQualifiers text.toList)

/-- A last character that is no point stays: no qualifier ends with it. -/
theorem getLast?_unqualified {text : String} {c : Char} (h : text.toList.getLast? = some c)
    (point : c ≠ '.') : (unqualified text).toList.getLast? = some c := by
  rw [unqualified, String.toList_ofList, getLast?_withoutQualifiers h point]

end TypeAtlas.Text
