import TypeAtlas.Proofs.Model.Decoding

/-!
# Models are read back from their text

The text of models, compact or indented, is read as these models, and so is the text of a field as
that field. The reader of an object follows the members in the order in which they are written:
those that every owner has are read at once, and those of a kind or shape are kept, each with a key
that no owner uses for itself (`FieldShape.not_owned`, `ModelKind.not_owned`). What was kept is
decoded after the last member. Nothing is nested deeply enough to reach the limit of the reader.

Main statement: `ofText_print`.
-/

set_option autoImplicit false

namespace TypeAtlas

open Json (Content Spacing accepts_array accepts_bool accepts_content gathers_kept quotedChars
  reads_spelledMembers spelled spelledFrom)
open Json.Reader (Accepts Gathers Reads accepts_object accepts_record accepts_string)

/-! ### What is kept is shallow -/

/-- A reference is nested two levels deep at most. -/
theorem TypeRef.keepable (ref : TypeRef) (depth : Nat) : ref.toJson.Keepable (depth + 2) := by
  cases ref with
  | model id => exact ⟨Nat.succ_ne_zero depth, List.forall_mem_singleton.mpr trivial⟩
  | text words => trivial

/-- A list is one level deeper than its items. -/
theorem Json.keepable_array {α : Type} {toJson : α → Json} {depth : Nat}
    (h : ∀ a, (toJson a).Keepable (depth + 1)) (list : List α) :
    (Json.array (list.map toJson)).Keepable (depth + 2) := by
  refine ⟨Nat.succ_ne_zero depth, fun item mem => ?_⟩
  obtain ⟨a, -, rfl⟩ := List.mem_map.mp mem
  exact h a

/-- A list of references is nested three levels deep at most. -/
theorem TypeRef.keepable_toJsons (refs : List TypeRef) (depth : Nat) :
    (TypeRef.toJsons refs).Keepable (depth + 3) :=
  Json.keepable_array (fun ref => ref.keepable depth) refs

/-- What a function returns is nested two levels deep at most. -/
theorem FunctionReturn.keepable (returned : FunctionReturn) (depth : Nat) :
    returned.toJson.Keepable (depth + 2) := by
  cases returned with
  | models id =>
    have text (id : String) : (Json.string id).Keepable (depth + 1) := trivial
    exact Json.keepable_array text [id]
  | type ref => exact ref.keepable depth

/-- An argument is nested three levels deep at most. -/
theorem FunctionArgument.keepable (argument : FunctionArgument) (depth : Nat) :
    argument.toJson.Keepable (depth + 3) := by
  refine ⟨Nat.succ_ne_zero _, ?_⟩
  rintro member (_ | ⟨_, _ | ⟨_, ⟨⟩⟩⟩)
  · trivial
  · exact argument.type.keepable depth

/-- What tells the shape of a field is nested four levels deep at most. -/
theorem FieldShape.keepable (shape : FieldShape) (depth : Nat) :
    ∀ member ∈ shape.members, member.2.Keepable (depth + 4) := by
  cases shape with
  | scalar type => exact List.forall_mem_singleton.mpr (type.keepable _)
  | array element => exact List.forall_mem_singleton.mpr (element.keepable _)
  | generic name arguments =>
    exact List.forall_mem_cons.mpr
      ⟨trivial, List.forall_mem_singleton.mpr (TypeRef.keepable_toJsons arguments _)⟩
  | function arguments returned =>
    have each := Json.keepable_array (fun argument : FunctionArgument => argument.keepable depth)
    exact List.forall_mem_cons.mpr
      ⟨each arguments, List.forall_mem_singleton.mpr (returned.keepable _)⟩
  | union types => exact List.forall_mem_singleton.mpr (TypeRef.keepable_toJsons types _)

/-- What tells the kind of a model is nested three levels deep at most. -/
theorem ModelKind.keepable (kind : ModelKind) (depth : Nat) :
    ∀ member ∈ kind.members, member.2.Keepable (depth + 3) := by
  rcases kind with bases | _ | ⟨_ | base, interfaces⟩
  · exact List.forall_mem_singleton.mpr (TypeRef.keepable_toJsons bases _)
  · exact List.forall_mem_nil _
  · exact List.forall_mem_singleton.mpr (TypeRef.keepable_toJsons interfaces _)
  · exact List.forall_mem_cons.mpr
      ⟨base.keepable _, List.forall_mem_singleton.mpr (TypeRef.keepable_toJsons interfaces _)⟩

/-- What was kept is decoded in the order it was written in. -/
theorem reads_decoded {α : Type} {decode : List (String × Content) → Content.Decoded α}
    {members : List (String × Json)} {value : α}
    (h : decode (Json.keptMembers members) = .ok value) (text : List Char) :
    Reads (decoded (decode (Json.keptMembers members).reverse.reverse)) text value text := by
  rw [List.reverse_reverse, h]
  exact .pure value text

/-! ### Parameters -/

namespace ModelParameter

/-- The text of a parameter of a model is read as it. -/
theorem accepts_read (spacing : Spacing) (level depth : Nat) (parameter : ModelParameter) :
    Accepts (read (depth + 2)) (spelled spacing level parameter.toJson) parameter := by
  obtain ⟨name, bound⟩ := parameter
  have named : Accepts (readMember "name" {}) (':' :: (spacing.after ++ quotedChars name))
      { name := some name } := by
    unfold readMember
    rw [if_pos rfl]
    exact ((accepts_string name).once spacing "name").map _
  have bounded (bound : String) :
      Accepts (readMember "extends" { name := some name })
        (':' :: (spacing.after ++ quotedChars bound))
        { name := some name, bound := some (some bound) } := by
    unfold readMember
    rw [if_neg (by decide), if_pos rfl]
    have text := (accepts_string bound).optional (by decide) (by decide)
    exact (text.once spacing "extends").map fun bound =>
      ({ name := some name, bound := some bound } : Partial)
  have gathered : Gathers readMember {}
      (spelledFrom spacing (level + 1) (("name", .string name) ::
        Json.member? "extends" (bound.map .string)))
      { name := some name, bound := bound.map some } := by
    cases bound with
    | none => exact .cons named (.nil _)
    | some bound => exact .cons named (.cons (bounded bound) (.nil _))
  have joined : (bound.map some).join = bound := by cases bound <;> rfl
  refine accepts_record depth fun text => ?_
  refine (reads_spelledMembers spacing level gathered text).bind (Reads.bind (.pure name _) ?_)
  show Reads (pure (ModelParameter.mk name (bound.map some).join)) _ _ _
  rw [joined]
  exact .pure _ _

end ModelParameter

/-! ### Fields -/

/-- A shape uses none of the keys that a field uses for itself. -/
theorem FieldShape.not_owned (shape : FieldShape) :
    ∀ member ∈ ("kind", Json.string shape.kind) :: shape.members,
      member.1 ≠ "name" ∧ member.1 ≠ "optional" := by
  cases shape <;> simp [members]

namespace SchemaField

/-- A key that a field does not use for itself is kept with its value. -/
theorem accepts_readMember {spacing : Spacing} {level depth : Nat} {key : String} {json : Json}
    (other : key ≠ "name" ∧ key ≠ "optional") (keepable : json.Keepable depth) (found : Partial) :
    Accepts (readMember depth key found)
      (':' :: (spacing.after ++ spelled spacing level json))
      { found with others := (key, json.kept) :: found.others } := by
  unfold readMember
  rw [if_neg other.1, if_neg other.2]
  exact ((accepts_content spacing depth json keepable level).map fun value =>
    { found with others := (key, value) :: found.others }).afterColon spacing

/-- The text of a field is read as it, in any spacing and at any level. -/
theorem accepts_read (spacing : Spacing) (level depth : Nat) (field : SchemaField) :
    Accepts (read (depth + 5)) (spelled spacing level field.toJson) field := by
  obtain ⟨name, optional, shape⟩ := field
  have named : Accepts (readMember (depth + 4) "name" {})
      (':' :: (spacing.after ++ quotedChars name)) { name := some name } := by
    unfold readMember
    rw [if_pos rfl]
    exact ((accepts_string name).once spacing "name").map _
  have marked : Accepts (readMember (depth + 4) "optional" { name := some name })
      (':' :: (spacing.after ++ spelled spacing (level + 1) (.bool optional)))
      { name := some name, optional := some optional } := by
    unfold readMember
    rw [if_neg (by decide), if_pos rfl]
    exact ((accepts_bool spacing (level + 1) optional).once spacing "optional").map fun optional =>
      ({ name := some name, optional := some optional } : Partial)
  have shaped : Gathers (readMember (depth + 4)) { name := some name, optional := some optional }
      (spelledFrom spacing (level + 1) (("kind", .string shape.kind) :: shape.members))
      { name := some name, optional := some optional,
        others := (Json.keptMembers (("kind", .string shape.kind) :: shape.members)).reverse } :=
    gathers_kept spacing (level + 1)
      (fun others => ({ name := some name, optional := some optional, others } : Partial)) _
      (fun member mem others => accepts_readMember (shape.not_owned member mem)
        ((List.forall_mem_cons.mpr ⟨trivial, shape.keepable depth⟩) member mem) _)
  refine accepts_object (depth + 3) fun text => ?_
  refine (reads_spelledMembers spacing level (.cons named (.cons marked shaped)) text).bind ?_
  refine Reads.bind (.pure name _) (Reads.bind (.pure optional _) ?_)
  exact (reads_decoded (Content.toShape_kept shape) _).bind (.pure _ _)

end SchemaField

/-! ### Models -/

/-- A kind uses none of the keys that a model uses for itself. -/
theorem ModelKind.not_owned (kind : ModelKind) :
    ∀ member ∈ ("type", Json.string kind.word) :: kind.members,
      member.1 ∉ ["id", "name", "arguments", "schema", "dependencies", "dependants"] := by
  rcases kind with bases | _ | ⟨_ | base, interfaces⟩ <;> simp [members, Json.member?]

namespace Model

section members

variable {spacing : Spacing} {level depth : Nat} {found : Partial}

/-- The id is taken in if there was none. -/
theorem accepts_id (new : found.id = none) (id : String) :
    Accepts (readMember depth "id" found) (':' :: (spacing.after ++ quotedChars id))
      { found with id := some id } := by
  unfold readMember
  rw [if_pos rfl, new]
  exact ((accepts_string id).once spacing "id").map fun id => { found with id := some id }

/-- The name is taken in if there was none. -/
theorem accepts_name (new : found.name = none) (name : String) :
    Accepts (readMember depth "name" found) (':' :: (spacing.after ++ quotedChars name))
      { found with name := some name } := by
  unfold readMember
  rw [if_neg (by decide), if_pos rfl, new]
  exact ((accepts_string name).once spacing "name").map fun name => { found with name := some name }

/-- The parameters are taken in if there were none. -/
theorem accepts_parameters (new : found.parameters = none) (parameters : List ModelParameter) :
    Accepts (readMember (depth + 3) "arguments" found)
      (':' :: (spacing.after ++ spelled spacing level (.array (parameters.map (·.toJson)))))
      { found with parameters := some parameters } := by
  have list := accepts_array spacing level (depth + 1)
    (ModelParameter.accepts_read spacing (level + 1) depth) parameters
  unfold readMember
  rw [if_neg (by decide), if_neg (by decide), if_pos rfl, new]
  exact (list.once spacing "arguments").map fun parameters =>
    { found with parameters := some parameters }

/-- The fields are taken in if there were none. -/
theorem accepts_schema (new : found.schema = none) (schema : List SchemaField) :
    Accepts (readMember (depth + 6) "schema" found)
      (':' :: (spacing.after ++ spelled spacing level (.array (schema.map (·.toJson)))))
      { found with schema := some schema } := by
  have list := accepts_array spacing level (depth + 4)
    (SchemaField.accepts_read spacing (level + 1) depth) schema
  unfold readMember
  rw [if_neg (by decide), if_neg (by decide), if_neg (by decide), if_pos rfl, new]
  exact (list.once spacing "schema").map fun schema => { found with schema := some schema }

/-- The text of a list of ids is read as it. -/
theorem accepts_readIds (spacing : Spacing) (level depth : Nat) (ids : List String) :
    Accepts (readIds (depth + 2)) (spelled spacing level (Json.strings ids)) ids :=
  accepts_array spacing level depth accepts_string ids

/-- The dependencies are taken in if there were none. -/
theorem accepts_dependencies (new : found.dependencies = none) (ids : List String) :
    Accepts (readMember (depth + 2) "dependencies" found)
      (':' :: (spacing.after ++ spelled spacing level (Json.strings ids)))
      { found with dependencies := some ids } := by
  unfold readMember
  rw [if_neg (by decide), if_neg (by decide), if_neg (by decide), if_neg (by decide), if_pos rfl,
    new]
  exact ((accepts_readIds spacing level depth ids).once spacing "dependencies").map fun ids =>
    { found with dependencies := some ids }

/-- The dependants are taken in if there were none. -/
theorem accepts_dependants (new : found.dependants = none) (ids : List String) :
    Accepts (readMember (depth + 2) "dependants" found)
      (':' :: (spacing.after ++ spelled spacing level (Json.strings ids)))
      { found with dependants := some ids } := by
  unfold readMember
  rw [if_neg (by decide), if_neg (by decide), if_neg (by decide), if_neg (by decide),
    if_neg (by decide), if_pos rfl, new]
  exact ((accepts_readIds spacing level depth ids).once spacing "dependants").map fun ids =>
    { found with dependants := some ids }

/-- A key that a model does not use for itself is kept with its value. -/
theorem accepts_readMember {key : String} {json : Json}
    (other : key ∉ ["id", "name", "arguments", "schema", "dependencies", "dependants"])
    (keepable : json.Keepable depth) :
    Accepts (readMember depth key found)
      (':' :: (spacing.after ++ spelled spacing level json))
      { found with others := (key, json.kept) :: found.others } := by
  simp only [List.mem_cons, List.not_mem_nil, or_false, not_or] at other
  obtain ⟨id, name, parameters, schema, dependencies, dependants⟩ := other
  unfold readMember
  rw [if_neg id, if_neg name, if_neg parameters, if_neg schema, if_neg dependencies,
    if_neg dependants]
  exact ((accepts_content spacing depth json keepable level).map fun value =>
    { found with others := (key, value) :: found.others }).afterColon spacing

end members

/-- The text of a model is read as it, in any spacing and at any level. -/
theorem accepts_read (spacing : Spacing) (level depth : Nat) (model : Model) :
    Accepts (read (depth + 7)) (spelled spacing level model.toJson) model := by
  obtain ⟨id, name, kind, parameters, schema, dependencies, dependants⟩ := model
  have named : Gathers (readMember (depth + 6)) {}
      (spelledFrom spacing (level + 1) [("id", .string id), ("name", .string name)])
      { id := some id, name := some name } :=
    .cons (accepts_id rfl id) (.cons (accepts_name rfl name) (.nil _))
  have kinded : Gathers (readMember (depth + 6)) { id := some id, name := some name }
      (spelledFrom spacing (level + 1) (("type", .string kind.word) :: kind.members))
      { id := some id, name := some name,
        others := (Json.keptMembers (("type", .string kind.word) :: kind.members)).reverse } :=
    gathers_kept spacing (level + 1)
      (fun others => ({ id := some id, name := some name, others } : Partial)) _
      (fun member mem others => accepts_readMember (kind.not_owned member mem)
        ((List.forall_mem_cons.mpr ⟨trivial, kind.keepable (depth + 3)⟩) member mem))
  have listed (others : List (String × Content)) :
      Gathers (readMember (depth + 6)) { id := some id, name := some name, others }
        (spelledFrom spacing (level + 1)
          [("arguments", .array (parameters.map (·.toJson))),
            ("schema", .array (schema.map (·.toJson))),
            ("dependencies", Json.strings dependencies),
            ("dependants", Json.strings dependants)])
        ⟨some id, some name, some parameters, some schema, some dependencies, some dependants,
          others⟩ :=
    .cons (accepts_parameters rfl parameters) <| .cons (accepts_schema rfl schema) <|
      .cons (accepts_dependencies rfl dependencies) <|
        .cons (accepts_dependants rfl dependants) (.nil _)
  have gathered := named.append (kinded.append (listed _))
  simp only [spelledFrom, ← List.map_append] at gathered
  refine accepts_object (depth + 5) fun text => ?_
  refine (reads_spelledMembers spacing level gathered text).bind ?_
  refine Reads.bind (.pure id _) (Reads.bind (.pure name _) (Reads.bind (.pure parameters _) ?_))
  refine Reads.bind (.pure schema _) (Reads.bind (.pure dependencies _) ?_)
  refine Reads.bind (.pure dependants _) ?_
  exact (reads_decoded (Content.toKind_kept kind) _).bind (.pure _ _)

end Model

/-! ### Whole texts -/

/-- The text of a list of models, compact or indented, is read as exactly these models, and the text
of a field as that field, whatever strings they are made of. -/
theorem ofText_print (pretty : Bool) :
    (∀ models : List Model,
      Model.listOfText (Json.print pretty (Model.toJsons models)) = .ok models) ∧
    ∀ field : SchemaField, SchemaField.ofText (Json.print pretty field.toJson) = .ok field := by
  refine ⟨fun models => Json.Reader.run_of_accepts ?_, fun field => Json.Reader.run_of_accepts ?_⟩
  · rw [Json.toList_print]
    exact accepts_array _ 0 126 (Model.accepts_read _ 1 120) models
  · rw [Json.toList_print]
    exact SchemaField.accepts_read _ 0 123 field

/-- What describes the shape stands beside the members of every field. -/
example : Json.print false (SchemaField.toJson ⟨"all", true, .function [] (.models "User")⟩) =
    "\x7b\"name\":\"all\",\"optional\":true," ++
      "\"kind\":\"function\",\"arguments\":[],\"returnType\":[\"User\"]\x7d" := by
  decide +kernel

end TypeAtlas
