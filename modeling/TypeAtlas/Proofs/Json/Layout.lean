import Mathlib.Data.List.Basic
import TypeAtlas.Proofs.Json.Reading

/-!
# Compact and indented text alike

The compact and the indented text of a value have the same marks and differ only in white space.
`Spacing` says where white space stands, and `spelled` is the text of a value with a given spacing:
`toList_compact` and `toList_indented` say that both texts are of this form.
-/

set_option autoImplicit false

namespace TypeAtlas.Json

/-- The characters of a string in quotes. -/
def quotedChars (value : String) : List Char := '"' :: (value.toList.flatMap escape ++ ['"'])

/-- Where white space stands: in front of items and closing brackets, depending on how deep they
are, and after colons. -/
structure Spacing where
  before : Nat → List Char
  after : List Char
  blank_before (level : Nat) : Reader.Blank (before level)
  blank_after : Reader.Blank after

namespace Spacing

/-- No white space at all. -/
def compact : Spacing := ⟨fun _ => [], [], fun _ => Reader.blank_nil, Reader.blank_nil⟩

/-- Each item on a line of its own, two columns further right for each level. -/
def indented : Spacing where
  before level := (newline level).toList
  after := [' ']
  blank_before level := by
    simp only [newline, String.toList_ofList, Reader.Blank, List.mem_cons, List.mem_replicate]
    rintro c (rfl | ⟨-, rfl⟩) <;> rfl
  blank_after := by
    simp only [Reader.Blank, List.mem_singleton]
    rintro c rfl
    rfl

variable (spacing : Spacing)

/-- What stands between brackets. -/
def inside (level : Nat) : List (List Char) → List Char
  | [] => []
  | text :: more =>
    spacing.before (level + 1) ++ (text ++ (more.flatMap fun text =>
      ',' :: (spacing.before (level + 1) ++ text)) ++ spacing.before level)

/-- White space and commas stand between items where they may. -/
theorem separated (level : Nat) (texts : List (List Char)) :
    Separated true texts (spacing.inside level texts) := by
  have later (texts : List (List Char)) : Separated false texts
      (texts.flatMap (fun text => ',' :: (spacing.before (level + 1) ++ text)) ++
        spacing.before level) := by
    induction texts with
    | nil => exact .nil (spacing.blank_before level)
    | cons text more ih =>
      have lead : Leads false (',' :: spacing.before (level + 1)) :=
        .next Reader.blank_nil (spacing.blank_before (level + 1))
      rw [List.flatMap_cons, List.append_assoc, ← List.cons_append, List.append_assoc]
      exact .cons lead ih
  cases texts with
  | nil => exact .nil Reader.blank_nil
  | cons text more =>
    rw [inside, List.append_assoc]
    exact .cons (.first (spacing.blank_before (level + 1))) (later more)

/-- A member of an object, given the text of its value. -/
def member (key : String) (text : List Char) : List Char :=
  quotedChars key ++ ':' :: (spacing.after ++ text)

end Spacing

variable (spacing : Spacing)

mutual

/-- The text of a value. -/
def spelled (level : Nat) : Json → List Char
  | .null => "null".toList
  | .bool value => if value then "true".toList else "false".toList
  | .number value => (toString value).toList
  | .string value => quotedChars value
  | .array items => '[' :: (spacing.inside level (spelledItems (level + 1) items) ++ [']'])
  | .object members =>
    '\x7b' :: (spacing.inside level (spelledMembers (level + 1) members) ++ ['\x7d'])

def spelledItems (level : Nat) : List Json → List (List Char)
  | [] => []
  | item :: rest => item.spelled level :: spelledItems level rest

def spelledMembers (level : Nat) : List (String × Json) → List (List Char)
  | [] => []
  | (key, value) :: rest => spacing.member key (value.spelled level) :: spelledMembers level rest

end

/-- The texts of items are those of each of them. -/
theorem spelledItems_eq_map (level : Nat) (items : List Json) :
    spelledItems spacing level items = items.map (spelled spacing level) := by
  induction items with
  | nil => rfl
  | cons item rest ih => rw [spelledItems, ih, List.map_cons]

/-- The texts of members are those of each of them: its key and the text of its value. -/
theorem spelledMembers_eq_map (level : Nat) (members : List (String × Json)) :
    spelledMembers spacing level members =
      members.map fun member => spacing.member member.1 (spelled spacing level member.2) := by
  induction members with
  | nil => rfl
  | cons member rest ih => rw [spelledMembers, ih, List.map_cons]

/-- The text of an object is one with its members. -/
theorem isObject_spelled (level : Nat) (members : List (String × Json)) :
    IsObject (members.map fun member => (member.1, spelled spacing (level + 1) member.2))
      (spelled spacing level (.object members)) := by
  rw [spelled]
  refine .mk (spacing.separated level _) ?_
  rw [spelledMembers_eq_map, List.forall₂_map_left_iff, List.forall₂_map_right_iff,
    List.forall₂_same]
  intro member _
  refine .mk (writes_escape member.1.toList) ?_
  have text : IsMember (member.1.toList.flatMap escape, spelled spacing (level + 1) member.2) _ :=
    .mk Reader.blank_nil spacing.blank_after
  simpa only [Spacing.member, quotedChars, List.cons_append, List.append_assoc, List.nil_append]
    using text

/-- Items between separators are the first one, and each other one after a separator. -/
theorem intercalate_cons (separator text : List Char) (more : List (List Char)) :
    separator.intercalate (text :: more) = text ++ more.flatMap (separator ++ ·) := by
  induction more generalizing text with
  | nil => simp
  | cons next more ih =>
    rw [List.intercalate_cons_cons, ih, List.flatMap_cons, List.append_assoc, List.append_assoc]

/-- The characters of a quoted string are its escaped ones between quotes. -/
theorem toList_quoted (value : String) : (quoted value).toList = quotedChars value :=
  String.toList_ofList

/-! ### Compact text -/

/-- Without white space nothing but commas stands between items. -/
theorem inside_compact (level : Nat) (texts : List (List Char)) :
    Spacing.compact.inside level texts = [','].intercalate texts := by
  cases texts with
  | nil => rfl
  | cons text more =>
    rw [intercalate_cons]
    simp [Spacing.inside, Spacing.compact]

mutual

/-- A value that is written without white space has the text that this spacing gives it, at any
level. -/
theorem toList_compact (level : Nat) : (json : Json) →
    json.compact.toList = json.spelled .compact level
  | .null => rfl
  | .bool true => rfl
  | .bool false => rfl
  | .number _ => rfl
  | .string value => toList_quoted value
  | .array items => by
      rw [compact, spelled, inside_compact, ← map_toList_compactItems (level + 1) items]
      simp [String.toList_intercalate]
  | .object members => by
      rw [compact, spelled, inside_compact, ← map_toList_compactMembers (level + 1) members]
      simp [String.toList_intercalate]

/-- Items that are written without white space have the texts that this spacing gives them. -/
theorem map_toList_compactItems (level : Nat) : (items : List Json) →
    (compactItems items).map (·.toList) = spelledItems .compact level items
  | [] => rfl
  | item :: rest => by
      rw [compactItems, spelledItems, List.map_cons, toList_compact level item,
        map_toList_compactItems level rest]

/-- Members that are written without white space have the texts that this spacing gives them. -/
theorem map_toList_compactMembers (level : Nat) : (members : List (String × Json)) →
    (compactMembers members).map (·.toList) = spelledMembers .compact level members
  | [] => rfl
  | (key, value) :: rest => by
      rw [compactMembers, spelledMembers, List.map_cons, ← toList_compact level value,
        map_toList_compactMembers level rest]
      simp [Spacing.member, Spacing.compact, toList_quoted]

end

/-! ### Indented text -/

/-- Items on lines of their own between brackets have the text that indenting gives them. -/
theorem toList_lines (first last : String) (level : Nat) (texts : List String) :
    (lines first last level texts).toList =
      first.toList ++ (Spacing.indented.inside level (texts.map (·.toList)) ++ last.toList) := by
  cases texts with
  | nil => simp [lines, Spacing.inside]
  | cons text more =>
    simp only [lines, String.toList_append, String.toList_intercalate, List.map_cons,
      intercalate_cons, Spacing.inside, Spacing.indented]
    simp

mutual

/-- A value that is indented has the text that this spacing gives it at its level. -/
theorem toList_indented (level : Nat) : (json : Json) →
    (json.indented level).toList = json.spelled .indented level
  | .null => rfl
  | .bool true => rfl
  | .bool false => rfl
  | .number _ => rfl
  | .string value => toList_quoted value
  | .array items => by
      rw [indented, spelled, ← map_toList_indentedItems (level + 1) items, toList_lines]
      rfl
  | .object members => by
      rw [indented, spelled, ← map_toList_indentedMembers (level + 1) members, toList_lines]
      rfl

/-- Items that are indented have the texts that this spacing gives them. -/
theorem map_toList_indentedItems (level : Nat) : (items : List Json) →
    (indentedItems level items).map (·.toList) = spelledItems .indented level items
  | [] => rfl
  | item :: rest => by
      rw [indentedItems, spelledItems, List.map_cons, toList_indented level item,
        map_toList_indentedItems level rest]

/-- Members that are indented have the texts that this spacing gives them. -/
theorem map_toList_indentedMembers (level : Nat) : (members : List (String × Json)) →
    (indentedMembers level members).map (·.toList) = spelledMembers .indented level members
  | [] => rfl
  | (key, value) :: rest => by
      rw [indentedMembers, spelledMembers, List.map_cons, ← toList_indented level value,
        map_toList_indentedMembers level rest]
      simp [Spacing.member, Spacing.indented, toList_quoted]

end

/-- A printed value has the text of one of the two spacings, from the outermost level on. -/
theorem toList_print (pretty : Bool) (json : Json) :
    (json.print pretty).toList = json.spelled (if pretty then .indented else .compact) 0 := by
  cases pretty with
  | true => exact toList_indented 0 json
  | false => exact toList_compact 0 json

end TypeAtlas.Json
