import TypeAtlas.Proofs.Json.Layout
import TypeAtlas.Proofs.Json.Numbers

/-!
# Reading what is written

Each reader is shown to accept the text of the value it gives, wherever that text stands: lists item
by item (`Reader.accepts_list`), objects member by member (`reads_spelledMembers`) and values that
are kept as they are (`accepts_content`). The text is the one of any spacing, so that compact and
indented text need one proof. A reader of members carries a state along; `Reader.Gathers` follows it
through the members of an object.
-/

set_option autoImplicit false

namespace TypeAtlas.Json.Reader

/-! ### Lists -/

section lists

variable {α : Type} {item : Reader α}

/-- The text is accepted as an item with the given value. It starts with something that is neither
white space nor the end of a list. -/
structure IsItem (item : Reader α) (text : List Char) (value : α) : Prop where
  accepts : Accepts item text value
  starts : ∃ c rest, text = c :: rest ∧ isSpace c = false ∧ c ≠ ']'

/-- At the closing bracket there is no further item. -/
theorem Reads.hasItem_end (first : Bool) {gap : List Char} (blank : Blank gap) (text : List Char) :
    Reads (hasItem first) (gap ++ ']' :: text) false (']' :: text) := by
  unfold hasItem
  refine (peekToken blank (by decide) text).bind ?_
  show Reads (if ']' = ']' then _ else _) _ _ _
  rw [if_pos rfl]
  exact pure _ _

/-- At anything else, with a comma in front of it unless it is the first, there is a further
item. -/
theorem Reads.hasItem {first : Bool} {lead : List Char} (h : Leads first lead) {c : Char}
    (solid : isSpace c = false) (goesOn : c ≠ ']') (text : List Char) :
    Reads (Reader.hasItem first) (lead ++ c :: text) true (c :: text) := by
  unfold Reader.hasItem
  cases h with
  | first blank =>
    refine (peekToken blank solid text).bind ?_
    show Reads (if c = ']' then _ else if true = true then _ else _) _ _ _
    rw [if_neg goesOn, if_pos rfl]
    exact pure _ _
  | next before after =>
    rw [List.append_assoc]
    refine (peekToken before (by decide) _).bind ?_
    show Reads (if ',' = ']' then _ else if false = true then _ else if ',' = ',' then _ else _)
      _ _ _
    rw [if_neg (by decide), if_neg (by decide), if_pos rfl]
    refine (skip_one _ _).bind ((peekToken after solid text).bind ?_)
    split
    · rename_i same
      exact absurd (Option.some.inj same) goesOn
    · exact pure _ _
    · rename_i none
      cases none

/-- Items that are accepted one by one are read in order up to the closing bracket: by induction on
the items that are left. -/
theorem Reads.itemsFrom {first : Bool} {texts : List (List Char)} {inside : List Char}
    {values : List α} (h : Separated first texts inside)
    (each : List.Forall₂ (IsItem item) texts values) {fuel : Nat} (enough : inside.length < fuel)
    (text : List Char) :
    Reads (Reader.itemsFrom item fuel first) (inside ++ ']' :: text) values (']' :: text) := by
  obtain ⟨fuel, rfl⟩ := Nat.exists_eq_succ_of_ne_zero (Nat.ne_zero_of_lt enough)
  induction h generalizing values fuel with
  | nil blank =>
    cases each
    unfold Reader.itemsFrom
    exact (hasItem_end _ blank text).bind (pure _ _)
  | @cons first lead _ others _ hl ho ih =>
    cases each with
    | cons isItem isItems =>
      obtain ⟨c, rest, rfl, solid, goesOn⟩ := isItem.starts
      simp only [List.length_append, List.length_cons] at enough
      have shorter : others.length < fuel := by omega
      obtain ⟨fuel, rfl⟩ := Nat.exists_eq_succ_of_ne_zero (Nat.ne_zero_of_lt shorter)
      unfold Reader.itemsFrom
      rw [List.append_assoc, List.append_assoc]
      refine (hasItem hl solid goesOn _).bind ?_
      rw [if_pos rfl]
      exact (isItem.accepts [] blank_nil _).bind ((ih isItems fuel shorter).bind (pure _ _))

/-- The items between the brackets are read up to the end of the list. -/
theorem Reads.items {texts : List (List Char)} {inside : List Char} {values : List α}
    (h : Separated true texts inside) (each : List.Forall₂ (IsItem item) texts values)
    (text : List Char) :
    Reads (Reader.items item) (inside ++ ']' :: text) values (']' :: text) := by
  refine get_bind fun _ => itemsFrom h each ?_ text
  simp only [List.length_append, List.length_cons]
  omega

/-- A closing bracket ends a list. -/
theorem Reads.endList (text : List Char) : Reads Reader.endList (']' :: text) () text := by
  unfold Reader.endList
  exact (peekToken blank_nil (by decide) text).bind (skip_one _ _)

/-- A list is read to its end, one level deeper. -/
theorem accepts_list {item : Nat → Reader α} (depth : Nat) {texts : List (List Char)}
    {inside : List Char} {values : List α} (h : Separated true texts inside)
    (each : List.Forall₂ (IsItem (item (depth + 1))) texts values) :
    Accepts (Reader.list (depth + 2) item) ('[' :: (inside ++ [']'])) values := by
  refine accepts_value (by decide) fun text => ?_
  show Reads (if '[' = '[' then deeper (depth + 2) _ else _) _ _ _
  rw [if_pos rfl, deeper, if_neg (by omega), List.append_assoc]
  refine (Reads.skip_one _ _).bind ?_
  exact (Reads.items h each text).finallyRead (Reads.endList text)

end lists

/-! ### Objects -/

section objects

variable {σ : Type} {member : String → σ → Reader σ}

/-- Member by member, with the text from the colon on, an object leads from one state to another. -/
inductive Gathers (member : String → σ → Reader σ) : σ → List (String × List Char) → σ → Prop
  | nil (state : σ) : Gathers member state [] state
  | cons {state next last : σ} {key : String} {text : List Char}
      {others : List (String × List Char)}
      (first : Accepts (member key state) (':' :: text) next)
      (rest : Gathers member next others last) :
      Gathers member state ((key, text) :: others) last

/-- Members after others lead on from the state that those lead to. -/
theorem Gathers.append {state between last : σ} {members others : List (String × List Char)}
    (h : Gathers member state members between) (ho : Gathers member between others last) :
    Gathers member state (members ++ others) last := by
  induction h with
  | nil => exact ho
  | cons first _ ih => exact .cons first (ih ho)

/-- The texts of members. -/
def memberTexts (members : List (String × List Char)) : List (List Char) :=
  members.map fun member => quotedChars member.1 ++ ':' :: member.2

/-- Members that lead from one state to another by their keys and values do so as texts. -/
theorem Gathers.follows {state stop : σ} {members : List (String × List Char)}
    (h : Gathers member state members stop) : Follows member state (memberTexts members) stop := by
  induction h with
  | nil => exact .nil _
  | cons first _ ih =>
    rw [memberTexts, List.map_cons, quotedChars, List.cons_append, List.append_assoc]
    exact .cons (writes_escape _) first.ended ih

end objects

/-! ### Members -/

section members

variable {α : Type} {reader : Reader α} {text : List Char} {value : α}

/-- After a colon and white space the value of a member is read. -/
theorem Accepts.afterColon (spacing : Spacing) (h : Accepts reader text value) :
    Accepts (do colon; reader) (':' :: (spacing.after ++ text)) value := by
  intro gap blank rest
  rw [List.cons_append, List.append_assoc]
  exact (Reads.colon blank _).bind (h spacing.after spacing.blank_after rest)

/-- What is read may be put into a larger value. -/
theorem Accepts.map {β : Type} (h : Accepts reader text value) (result : α → β) :
    Accepts (do return result (← reader)) text (result value) :=
  fun gap blank rest => (h gap blank rest).bind (.pure _ _)

/-- A member that has not come yet is read once. -/
theorem Accepts.once (spacing : Spacing) (h : Accepts reader text value) (name : String) :
    Accepts (Reader.once name none reader) (':' :: (spacing.after ++ text)) value := by
  unfold Reader.once
  exact h.afterColon spacing

/-- A value that is not null is read as it is. -/
theorem Accepts.optional {c : Char} {text : List Char} (h : Accepts reader (c :: text) value)
    (solid : isSpace c = false) (notNull : c ≠ 'n') :
    Accepts (Reader.optional reader) (c :: text) (some value) := by
  intro gap blank rest
  unfold Reader.optional
  refine (Reads.peekToken blank solid (text ++ rest)).bind ?_
  split
  · rename_i same
    exact absurd (Option.some.inj same) notNull
  · exact (h [] blank_nil rest).bind (.pure _ _)

end members

end TypeAtlas.Json.Reader

namespace TypeAtlas.Json

open Reader (Accepts Blank Gathers IsItem Reads isSpace blank_nil)

/-! ### Values of any kind -/

mutual

/-- A value as it is kept. -/
def kept : Json → Content
  | .null => .null
  | .bool value => .bool value
  | .number value => .number (.natural value)
  | .string value => .string value
  | .array items => .array (keptItems items)
  | .object members => .object (keptMembers members)

def keptItems : List Json → List Content
  | [] => []
  | item :: rest => item.kept :: keptItems rest

def keptMembers : List (String × Json) → List (String × Content)
  | [] => []
  | (key, value) :: rest => (key, value.kept) :: keptMembers rest

end

/-- Items are kept as each of them is. -/
theorem keptItems_eq_map (items : List Json) : keptItems items = items.map kept := by
  induction items with
  | nil => rfl
  | cons item rest ih => rw [keptItems, ih, List.map_cons]

/-- A value without numbers that is nested less deeply than a limit. -/
def Keepable : Nat → Json → Prop
  | 0, _ => False
  | _ + 1, .number _ => False
  | depth + 1, .array items => depth ≠ 0 ∧ ∀ item ∈ items, Keepable depth item
  | depth + 1, .object members => depth ≠ 0 ∧ ∀ member ∈ members, Keepable depth member.2
  | _ + 1, _ => True

/-- No text of a value starts with white space or the end of a list. -/
theorem starts_spelled (spacing : Spacing) (level : Nat) (json : Json) :
    ∃ c rest, spelled spacing level json = c :: rest ∧ isSpace c = false ∧ c ≠ ']' := by
  cases json with
  | null => exact ⟨_, _, rfl, by decide, by decide⟩
  | bool value =>
    cases value
    · exact ⟨_, _, rfl, by decide, by decide⟩
    · exact ⟨_, _, rfl, by decide, by decide⟩
  | string | array | object => exact ⟨_, _, rfl, by decide, by decide⟩
  | number value =>
    obtain ⟨c, rest, written, digit, -⟩ := (IsWhole.toDigits value).cases_cons
    refine ⟨c, rest, ?_, Reader.isSpace_of_isDigit digit, ne_of_isDigit digit rfl⟩
    rw [spelled, Nat.toString_eq_repr, Nat.toList_repr, written]

/-- The text of a value is that of an item if it is accepted, for it starts with neither white space
nor a closing bracket. -/
theorem isItem_spelled {α : Type} {item : Reader α} {spacing : Spacing} {level : Nat} {json : Json}
    {value : α} (h : Accepts item (spelled spacing level json) value) :
    IsItem item (spelled spacing level json) value :=
  ⟨h, starts_spelled spacing level json⟩

/-- The text of a truth value is accepted as it. -/
theorem accepts_bool (spacing : Spacing) (level : Nat) (value : Bool) :
    Accepts Reader.bool (spelled spacing level (.bool value)) value := by
  cases value with
  | true =>
    refine Reader.accepts_value (by decide) fun rest => ?_
    show Reads (if 't' = 't' then _ else _) _ _ _
    rw [if_pos rfl]
    exact (Reads.skip_one _ _).bind ((Reads.word "rue".toList rest).bind (.pure _ _))
  | false =>
    refine Reader.accepts_value (by decide) fun rest => ?_
    show Reads (if 'f' = 't' then _ else if 'f' = 'f' then _ else _) _ _ _
    rw [if_neg (by decide), if_pos rfl]
    exact (Reads.skip_one _ _).bind ((Reads.word "alse".toList rest).bind (.pure _ _))

/-- Where each value is accepted as what it was written for, so is a list of them. -/
theorem accepts_array {α : Type} {item : Nat → Reader α} {toJson : α → Json} (spacing : Spacing)
    (level depth : Nat)
    (h : ∀ a, Accepts (item (depth + 1)) (spelled spacing (level + 1) (toJson a)) a)
    (list : List α) :
    Accepts (Reader.list (depth + 2) item) (spelled spacing level (.array (list.map toJson)))
      list := by
  have each : List.Forall₂ (IsItem (item (depth + 1)))
      (spelledItems spacing (level + 1) (list.map toJson)) list := by
    rw [spelledItems_eq_map, List.map_map, List.forall₂_map_left_iff, List.forall₂_same]
    exact fun a _ => isItem_spelled (h a)
  exact Reader.accepts_list depth (spacing.separated level _) each

/-- The members of an object as their keys and what follows the colons. -/
def spelledFrom (spacing : Spacing) (level : Nat) (members : List (String × Json)) :
    List (String × List Char) :=
  members.map fun member => (member.1, spacing.after ++ spelled spacing level member.2)

/-- Members by their keys and values have the texts that the spacing gives them. -/
theorem memberTexts_spelledFrom (spacing : Spacing) (level : Nat)
    (members : List (String × Json)) :
    Reader.memberTexts (spelledFrom spacing level members) =
      spelledMembers spacing level members := by
  rw [spelledMembers_eq_map, Reader.memberTexts, spelledFrom, List.map_map]
  rfl

/-- The members of an object are read up to its end if they lead to a state. -/
theorem reads_spelledMembers {σ : Type} {member : String → σ → Reader σ} {state stop : σ}
    {members : List (String × Json)} (spacing : Spacing) (level : Nat)
    (h : Gathers member state (spelledFrom spacing (level + 1) members) stop) (text : List Char) :
    Reads (Reader.members member state)
      (spacing.inside level (Json.spelledMembers spacing (level + 1) members) ++ '\x7d' :: text) stop
      ('\x7d' :: text) := by
  rw [← memberTexts_spelledFrom]
  exact .members (spacing.separated level _) h.follows text

section kept

variable {σ : Type} {member : String → σ → Reader σ} (spacing : Spacing) (level : Nat)
  (state : List (String × Content) → σ)

/-- Members that are kept come in front of those before them, wherever in the state they are. -/
theorem gathers_kept_onto (members : List (String × Json))
    (h : ∀ added ∈ members, ∀ read,
      Accepts (member added.1 (state read))
        (':' :: (spacing.after ++ spelled spacing level added.2))
        (state ((added.1, added.2.kept) :: read)))
    (read : List (String × Content)) :
    Gathers member (state read) (spelledFrom spacing level members)
      (state ((keptMembers members).reverse ++ read)) := by
  induction members generalizing read with
  | nil => exact .nil _
  | cons first rest ih =>
    have later := ih (fun other mem => h other (List.mem_cons_of_mem _ mem))
      ((first.1, first.2.kept) :: read)
    rw [keptMembers, List.reverse_cons, List.append_assoc]
    exact .cons (h first List.mem_cons_self read) later

/-- If each member is kept, all of them are, the last one first. -/
theorem gathers_kept (members : List (String × Json))
    (h : ∀ added ∈ members, ∀ read,
      Accepts (member added.1 (state read))
        (':' :: (spacing.after ++ spelled spacing level added.2))
        (state ((added.1, added.2.kept) :: read))) :
    Gathers member (state []) (spelledFrom spacing level members)
      (state (keptMembers members).reverse) := by
  have all := gathers_kept_onto spacing level state members h []
  rwa [List.append_nil] at all

end kept

section content

variable (spacing : Spacing) (level : Nat) {depth : Nat}

/-- The text of a truth value is accepted as a value of any kind. -/
theorem accepts_content_bool (value : Bool) :
    Accepts (Reader.content (depth + 1)) (spelled spacing level (.bool value)) (.bool value) := by
  intro gap blank rest
  cases value with
  | true =>
    refine ((Reads.peekToken blank (by decide) _).bind ?_).placed
    show Reads (if 't' = 'n' then _ else if 't' = 't' then _ else _) _ _ _
    rw [if_neg (by decide), if_pos rfl]
    exact (Reads.skip_one _ _).bind ((Reads.word "rue".toList rest).bind (.pure _ _))
  | false =>
    refine ((Reads.peekToken blank (by decide) _).bind ?_).placed
    show Reads (if 'f' = 'n' then _ else if 'f' = 't' then _ else if 'f' = 'f' then _ else _) _ _ _
    rw [if_neg (by decide), if_neg (by decide), if_pos rfl]
    exact (Reads.skip_one _ _).bind ((Reads.word "alse".toList rest).bind (.pure _ _))

/-- The text of a string is accepted as a value of any kind. -/
theorem accepts_content_string (value : String) :
    Accepts (Reader.content (depth + 1)) (quotedChars value) (.string value) := by
  intro gap blank rest
  refine ((Reads.peekToken blank (by decide) _).bind ?_).placed
  show Reads (if '"' = 'n' then _ else if '"' = 't' then _ else if '"' = 'f' then _ else
    if '"' = '"' then _ else _) ('"' :: (value.toList.flatMap escape ++ ['"'] ++ rest)) _ _
  rw [if_neg (by decide), if_neg (by decide), if_neg (by decide), if_pos rfl, List.append_assoc]
  exact (Reads.skip_one _ _).bind ((Reads.stringRest (writes_escape _) rest).bind (.pure _ _))

/-- A list is kept if its items are, one level deeper. -/
theorem accepts_content_array (deeper : depth ≠ 0) {items : List Json}
    (h : ∀ item ∈ items,
      Accepts (Reader.content depth) (spelled spacing (level + 1) item) item.kept) :
    Accepts (Reader.content (depth + 1)) (spelled spacing level (.array items))
      (.array (keptItems items)) := by
  have each : List.Forall₂ (IsItem (Reader.content depth))
      (spelledItems spacing (level + 1) items) (keptItems items) := by
    rw [spelledItems_eq_map, keptItems_eq_map, List.forall₂_map_left_iff,
      List.forall₂_map_right_iff, List.forall₂_same]
    exact fun item mem => isItem_spelled (h item mem)
  intro gap blank rest
  refine ((Reads.peekToken blank (by decide) _).bind ?_).placed
  show Reads (if '[' = 'n' then _ else if '[' = 't' then _ else if '[' = 'f' then _ else
    if '[' = '"' then _ else if ('[' = '-' || '['.isDigit) = true then _ else
      if '[' = '[' then _ else _)
    ('[' :: (spacing.inside level (spelledItems spacing (level + 1) items) ++ [']'] ++ rest)) _ _
  rw [if_neg (by decide), if_neg (by decide), if_neg (by decide), if_neg (by decide),
    if_neg (by decide), if_pos rfl, if_neg deeper, List.append_assoc]
  refine (Reads.skip_one _ _).bind ?_
  exact ((Reads.items (spacing.separated level _) each rest).finallyRead (Reads.endList rest)).bind (.pure _ _)

/-- An object is kept if the values of its members are, one level deeper. -/
theorem accepts_content_object (deeper : depth ≠ 0) {members : List (String × Json)}
    (h : ∀ member ∈ members,
      Accepts (Reader.content depth) (spelled spacing (level + 1) member.2) member.2.kept) :
    Accepts (Reader.content (depth + 1)) (spelled spacing level (.object members))
      (.object (keptMembers members)) := by
  have each : Gathers
      (fun name read => do
        Reader.colon
        let value ← Reader.content depth
        return (name, value) :: read)
      [] (spelledFrom spacing (level + 1) members) (keptMembers members).reverse :=
    gathers_kept spacing (level + 1) id members fun member mem read =>
      ((h member mem).map fun value => (member.1, value) :: read).afterColon spacing
  intro gap blank rest
  refine ((Reads.peekToken blank (by decide) _).bind ?_).placed
  show Reads (if '\x7b' = 'n' then _ else if '\x7b' = 't' then _ else if '\x7b' = 'f' then _ else
    if '\x7b' = '"' then _ else if ('\x7b' = '-' || '\x7b'.isDigit) = true then _ else
      if '\x7b' = '[' then _ else if '\x7b' = '\x7b' then _ else _)
    ('\x7b' :: (spacing.inside level (spelledMembers spacing (level + 1) members) ++ ['\x7d'] ++
      rest)) _ _
  rw [if_neg (by decide), if_neg (by decide), if_neg (by decide), if_neg (by decide),
    if_neg (by decide), if_neg (by decide), if_pos rfl, if_neg deeper, List.append_assoc]
  refine (Reads.skip_one _ _).bind ?_
  refine ((reads_spelledMembers spacing level each rest).finallyRead (Reads.endObject rest)).bind ?_
  show Reads (pure (Content.object (keptMembers members).reverse.reverse)) rest
    (.object (keptMembers members)) rest
  rw [List.reverse_reverse]
  exact .pure _ _

end content

/-- Values of any kind are kept as what they are. -/
theorem accepts_content (spacing : Spacing) :
    (depth : Nat) → (json : Json) → json.Keepable depth → (level : Nat) →
      Accepts (Reader.content depth) (spelled spacing level json) json.kept
  | depth + 1, .null, _, level => by
      intro gap blank rest
      refine ((Reads.peekToken blank (by decide) _).bind ?_).placed
      show Reads (if 'n' = 'n' then _ else _) _ _ _
      rw [if_pos rfl]
      exact (Reads.skip_one _ _).bind ((Reads.word "ull".toList rest).bind (.pure _ _))
  | depth + 1, .bool value, _, level => accepts_content_bool spacing level value
  | depth + 1, .string value, _, level => accepts_content_string value
  | depth + 1, .array items, ⟨deeper, shallow⟩, level =>
      accepts_content_array spacing level deeper fun item mem =>
        accepts_content spacing depth item (shallow item mem) (level + 1)
  | depth + 1, .object members, ⟨deeper, shallow⟩, level =>
      accepts_content_object spacing level deeper fun member mem =>
        accepts_content spacing depth member.2 (shallow member mem) (level + 1)

end TypeAtlas.Json
