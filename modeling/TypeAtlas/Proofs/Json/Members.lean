import TypeAtlas.Proofs.Json.Reading

/-!
# Reading the members of an object

A reader of members carries a state along. `Reader.Follows` says that the members of an object lead
it from one state to another, however their keys are written; then the object is read up to its end,
wherever white space stands (`Reader.Reads.members`). Where a reader of members gets is found with
an invariant of its state and the members still to come (`Reader.follows_of_invariant`).
-/

set_option autoImplicit false

namespace TypeAtlas.Json.Reader

/-! ### Keys -/

/-- At the closing brace there is no further key. -/
theorem Reads.hasKey_end (first : Bool) {gap : List Char} (blank : Blank gap) (text : List Char) :
    Reads (hasKey first) (gap ++ '\x7d' :: text) false ('\x7d' :: text) := by
  unfold hasKey
  refine (peekToken blank (by decide) text).bind ?_
  show Reads (if '\x7d' = '\x7d' then _ else _) _ _ _
  rw [if_pos rfl]
  exact pure _ _

/-- At a quote, with a comma in front of it unless it is the first one, there is a further key. -/
theorem Reads.hasKey {first : Bool} {lead : List Char} (h : Leads first lead) (text : List Char) :
    Reads (Reader.hasKey first) (lead ++ '"' :: text) true ('"' :: text) := by
  unfold Reader.hasKey
  cases h with
  | first blank =>
    refine (peekToken blank (by decide) text).bind ?_
    show Reads (if '"' = '\x7d' then _ else if true = true then if '"' = '"' then _ else _ else _)
      _ _ _
    rw [if_neg (by decide), if_pos rfl, if_pos rfl]
    exact pure _ _
  | next before after =>
    rw [List.append_assoc]
    refine (peekToken before (by decide) _).bind ?_
    show Reads (if ',' = '\x7d' then _ else if false = true then _ else if ',' = ',' then _ else _)
      _ _ _
    rw [if_neg (by decide), if_neg (by decide), if_pos rfl]
    exact (skip_one _ _).bind ((peekToken after (by decide) text).bind (pure _ _))

/-- A key is read as the characters that are written. -/
theorem Reads.key {key : String} {inside : List Char} (h : Writes key.toList inside)
    (text : List Char) : Reads Reader.key ('"' :: (inside ++ '"' :: text)) key text := by
  unfold Reader.key
  exact (skip_one _ _).bind (stringRest h text)

/-! ### Values of members -/

section values

variable {α : Type} {reader : Reader α} {text : List Char} {value : α}

/-- The colon is passed over with white space in front of it. -/
theorem Reads.colon {gap : List Char} (blank : Blank gap) (text : List Char) :
    Reads Reader.colon (gap ++ ':' :: text) () text := by
  unfold Reader.colon
  exact (peekToken blank (by decide) text).bind (skip_one _ _)

/-- White space in front of a value may count as a part of it. -/
theorem AcceptsEnded.after {gap : List Char} (blank : Blank gap)
    (h : AcceptsEnded reader text value) : AcceptsEnded reader (gap ++ text) value := by
  intro more blankMore rest ends
  rw [List.append_assoc, ← List.append_assoc more]
  refine h _ ?_ rest ends
  rintro c mem
  exact (List.mem_append.mp mem).elim (blankMore c) (blank c)

/-- After a colon and white space the value of a member is read. -/
theorem AcceptsEnded.afterColon {gap : List Char} (blank : Blank gap)
    (h : AcceptsEnded reader text value) :
    AcceptsEnded (do colon; reader) (':' :: (gap ++ text)) value := by
  intro before blankBefore rest ends
  rw [List.cons_append, List.append_assoc]
  exact (Reads.colon blankBefore _).bind (h gap blank rest ends)

/-- What is read may be put into a larger value. -/
theorem AcceptsEnded.map {β : Type} (h : AcceptsEnded reader text value) (result : α → β) :
    AcceptsEnded (do return result (← reader)) text (result value) :=
  fun gap blank rest ends => (h gap blank rest ends).bind (.pure _ _)

/-- A member that has not come yet is read once. -/
theorem AcceptsEnded.once {gap : List Char} (blank : Blank gap)
    (h : AcceptsEnded reader text value) (name : String) :
    AcceptsEnded (Reader.once name none reader) (':' :: (gap ++ text)) value :=
  h.afterColon blank

end values

/-! ### Members -/

section members

variable {σ : Type} {member : String → σ → Reader σ}

/-- Member by member, the members of an object lead from one state to another. -/
inductive Follows (member : String → σ → Reader σ) : σ → List (List Char) → σ → Prop
  | nil (state : σ) : Follows member state [] state
  | cons {state next last : σ} {key : String} {inside text : List Char}
      {others : List (List Char)} (hk : Writes key.toList inside)
      (hm : AcceptsEnded (member key state) text next) (ho : Follows member next others last) :
      Follows member state (('"' :: (inside ++ '"' :: text)) :: others) last

/-- If members lead from one state to another, then reading them up to the closing brace does: by
induction on the members that are left. -/
theorem Reads.membersFrom {first : Bool} {state last : σ} {texts : List (List Char)}
    {inside : List Char} (h : Separated first texts inside)
    (follows : Follows member state texts last)
    {fuel : Nat} (enough : inside.length < fuel) (text : List Char) :
    Reads (Reader.membersFrom member fuel first state) (inside ++ '\x7d' :: text) last
      ('\x7d' :: text) := by
  obtain ⟨fuel, rfl⟩ := Nat.exists_eq_succ_of_ne_zero (Nat.ne_zero_of_lt enough)
  induction h generalizing state fuel with
  | nil blank =>
    cases follows
    unfold Reader.membersFrom
    exact (hasKey_end _ blank text).bind (pure _ _)
  | @cons first lead _ others _ hl ho ih =>
    cases follows with
    | cons hk hm later =>
      simp only [List.length_append, List.length_cons] at enough
      have shorter : others.length < fuel := by omega
      obtain ⟨fuel, rfl⟩ := Nat.exists_eq_succ_of_ne_zero (Nat.ne_zero_of_lt shorter)
      unfold Reader.membersFrom
      simp only [List.cons_append, List.append_assoc]
      refine (hasKey hl _).bind ?_
      rw [if_pos rfl]
      have ends := ho.ends (.inr rfl) text
      exact (Reads.key hk _).bind ((hm [] blank_nil _ ends).bind (ih later fuel shorter))

/-- The members between the braces are read up to the end of the object. -/
theorem Reads.members {state last : σ} {texts : List (List Char)} {inside : List Char}
    (h : Separated true texts inside) (follows : Follows member state texts last)
    (text : List Char) :
    Reads (Reader.members member state) (inside ++ '\x7d' :: text) last ('\x7d' :: text) := by
  refine get_bind fun _ => membersFrom h follows ?_ text
  simp only [List.length_append, List.length_cons]
  omega

/-- If each member keeps an invariant of the state and the members still to come, they lead to a
state in which it holds with none to come. -/
theorem follows_of_invariant {invariant : σ → List (String × List Char) → Prop}
    (step : ∀ state key value others, invariant state ((key, value) :: others) →
      ∃ next, (∀ gap, Blank gap → AcceptsEnded (member key state) (':' :: (gap ++ value)) next) ∧
        invariant next others)
    {members : List (String × List Char)} {texts : List (List Char)}
    (h : List.Forall₂ IsKeyed members texts) {state : σ} (start : invariant state members) :
    ∃ last, Follows member state texts last ∧ invariant last [] := by
  induction h generalizing state with
  | nil => exact ⟨state, .nil state, start⟩
  | cons keyed _ ih =>
    obtain ⟨hk, ⟨hb, ha⟩⟩ := keyed
    obtain ⟨next, reads, holds⟩ := step _ _ _ _ start
    obtain ⟨last, follows, done⟩ := ih holds
    exact ⟨last, .cons hk ((reads _ ha).after hb) follows, done⟩

/-- A closing brace ends an object. -/
theorem Reads.endObject (text : List Char) :
    Reads Reader.endObject ('\x7d' :: text) () text := by
  unfold Reader.endObject
  exact (peekToken blank_nil (by decide) text).bind (skip_one _ _)

/-- What stands between braces is read one level deeper. -/
theorem Reads.braces {α : Type} {reader : Nat → Reader α} (depth : Nat) {inner : List Char}
    {value : α}
    (h : ∀ text, Reads (reader (depth + 1)) (inner ++ '\x7d' :: text) value ('\x7d' :: text))
    (text : List Char) :
    Reads (deeper (depth + 2) fun depth => do skip 1; Reader.finallyRead (reader depth) Reader.endObject)
      ('\x7b' :: (inner ++ ['\x7d'] ++ text)) value text := by
  rw [deeper, if_neg (by omega), List.append_assoc]
  exact (skip_one _ _).bind ((h text).finallyRead (endObject text))

/-- An object is accepted if what stands between its braces is read up to the closing one. -/
theorem accepts_object {α : Type} {wanted : String} {reader : Nat → Reader α} (depth : Nat)
    {inner : List Char} {value : α}
    (h : ∀ text, Reads (reader (depth + 1)) (inner ++ '\x7d' :: text) value ('\x7d' :: text)) :
    Accepts (Reader.object wanted (depth + 2) reader) ('\x7b' :: (inner ++ ['\x7d'])) value := by
  refine accepts_value (by decide) fun text => ?_
  show Reads (if '\x7b' = '\x7b' then _ else _) _ _ _
  rw [if_pos rfl]
  exact Reads.braces depth h text

/-- A record is accepted as an object if what stands between its braces is read up to the closing
one. -/
theorem accepts_record {α : Type} {wanted : String} {reader items : Nat → Reader α} (depth : Nat)
    {inner : List Char} {value : α}
    (h : ∀ text, Reads (reader (depth + 1)) (inner ++ '\x7d' :: text) value ('\x7d' :: text)) :
    Accepts (Reader.record wanted (depth + 2) reader items) ('\x7b' :: (inner ++ ['\x7d'])) value := by
  refine accepts_value (by decide) fun text => ?_
  show Reads (if '\x7b' = '\x7b' then _ else _) _ _ _
  rw [if_pos rfl]
  exact Reads.braces depth h text

end members

end TypeAtlas.Json.Reader
