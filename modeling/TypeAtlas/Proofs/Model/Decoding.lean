import Mathlib.Data.List.Nodup
import TypeAtlas.Model.Json
import TypeAtlas.Proofs.Json.Values

/-!
# Kept members say what they were made of

What belongs to the kind of a model or field is kept while the owner is read and decoded afterwards.
The members that a shape or a kind writes have different names, so the tag is told apart from the
others (`tagged_cons`) and each of them is found once (`inOrder_eq_ok`, `member_cons`). References
and returned types carry no tag: a string, an object and a list of one string are told apart by what
they are (`toTypeRef_kept`, `toReturn_kept`).
-/

set_option autoImplicit false

namespace TypeAtlas

namespace Json.Content

/-! ### Members -/

variable {α : Type}

section members

variable {reader : Content → Decoded α} {value : Content} {a : α}

/-- A value that is read passes its check. -/
theorem check_eq_ok (read : reader value = .ok a) : check reader value = .ok () := by
  rw [check, read]
  rfl

/-- The first member is found if no other one has its name. -/
theorem member?_cons {name : String} {others : List (String × Content)}
    (alone : ∀ other ∈ others, other.1 ≠ name) :
    member? name ((name, value) :: others) = .ok (some value) := by
  have none : others.filter (fun member => member.1 == name) = [] :=
    List.filter_eq_nil_iff.mpr fun other mem => by simpa using alone other mem
  rw [member?, List.filter_cons_of_pos (by simp), none]

/-- The member of a name is the first one if no other has the name. -/
theorem member_cons {name : String} {others : List (String × Content)}
    (alone : ∀ other ∈ others, other.1 ≠ name) :
    member name ((name, value) :: others) = .ok value := by
  rw [member, member?_cons alone]
  rfl

/-- A member of another name is passed over. -/
theorem member_cons_of_ne {name other : String} (others : List (String × Content))
    (ne : other ≠ name) : member name ((other, value) :: others) = member name others := by
  rw [member, member, member?, member?, List.filter_cons_of_neg (by simpa using ne)]

/-- Members of different names pass if each that is looked for can be read. -/
theorem inOrder_eq_ok {readers : List (String × (Content → Decoded Unit))} :
    {members : List (String × Content)} → (members.map (·.1)).Nodup →
      (∀ member ∈ members, ∀ reader, readers.lookup member.1 = some reader →
        reader member.2 = .ok ()) →
      {seen : List String} → (∀ member ∈ members, member.1 ∉ seen) →
        inOrder readers seen members = .ok ()
  | [], _, _, _, _ => rfl
  | (name, value) :: rest, distinct, read, seen, new => by
      rw [List.map_cons, List.nodup_cons] at distinct
      have readRest := fun member mem => read member (List.mem_cons_of_mem _ mem)
      have newRest := fun member mem => new member (List.mem_cons_of_mem (name, value) mem)
      cases found : readers.lookup name with
      | none =>
        simp only [inOrder, found]
        exact inOrder_eq_ok distinct.2 readRest newRest
      | some reader =>
        have passes : reader value = .ok () := read (name, value) List.mem_cons_self reader found
        have unseen : seen.contains name = false := by
          simpa using new (name, value) List.mem_cons_self
        simp only [inOrder, found, unseen, passes]
        refine inOrder_eq_ok distinct.2 readRest fun member mem => ?_
        rw [List.mem_cons, not_or]
        refine ⟨?_, newRest member mem⟩
        rintro same
        exact distinct.1 (List.mem_map.mpr ⟨member, mem, same⟩)

/-- The only member that counts is read if it is there and no other one is. -/
theorem only_singleton (name : String) (read : reader value = .ok a) :
    only name reader [(name, value)] = .ok a := by
  have checked : inOrder [(name, check reader)] [] [(name, value)] = .ok () := by
    refine inOrder_eq_ok (by simp) ?_ (by simp)
    simp [List.lookup_cons, check_eq_ok read]
  rw [only, checked, member_cons (List.forall_mem_nil _)]
  exact read

/-- Two members of different names are both read. -/
theorem inOrder_pair {β : Type} {first second : String} (ne : first ≠ second)
    {other : Content → Decoded β} {more : Content} {b : β} (read : reader value = .ok a)
    (readMore : other more = .ok b) :
    inOrder [(first, check reader), (second, check other)] []
      [(first, value), (second, more)] = .ok () := by
  have differs : (second == first) = false := by simpa using ne.symm
  refine inOrder_eq_ok (by simpa using ne) ?_ (by simp)
  simp [List.lookup_cons, differs, check_eq_ok read, check_eq_ok readMore]

/-- What is made of the values of two members. -/
theorem both_eq_ok {β γ : Type} {first second : String} (ne : first ≠ second)
    {other : Content → Decoded β} {more : Content} {b : β} (read : reader value = .ok a)
    (readMore : other more = .ok b) (result : α → β → γ) :
    (do
      inOrder [(first, check reader), (second, check other)] [] [(first, value), (second, more)]
      let a ← reader (← member first [(first, value), (second, more)])
      let b ← other (← member second [(first, value), (second, more)])
      return result a b) = .ok (result a b) := by
  rw [inOrder_pair ne read readMore, member_cons (by simpa using ne.symm), member_cons_of_ne _ ne,
    member_cons (List.forall_mem_nil _)]
  show (do
    let a ← reader value
    let b ← other more
    return result a b) = _
  rw [read, readMore]
  rfl

/-- What the first member names is told apart from all other members. -/
theorem tagged_cons {tag name : String} {known : List String} {others : List (String × Content)}
    (listed : known.contains name = true) (distinct : (tag :: others.map (·.1)).Nodup) :
    tagged tag known ((tag, .string name) :: others) = .ok (name, others) := by
  have named : variant known (.string name) = .ok name := by
    rw [variant, if_pos listed]
  have alone : ∀ other ∈ others, other.1 ≠ tag := fun other mem same =>
    (List.nodup_cons.mp distinct).1 (List.mem_map.mpr ⟨other, mem, same⟩)
  have checked : inOrder [(tag, check (variant known))] [] ((tag, .string name) :: others) =
      .ok () := by
    refine inOrder_eq_ok (by rw [List.map_cons]; exact distinct)
      (List.forall_mem_cons.mpr ⟨?_, fun other mem => ?_⟩) (by simp)
    · simp [check_eq_ok named]
    · have differs : (other.1 == tag) = false := by simpa using alone other mem
      simp [List.lookup_cons, differs]
  have kept : others.filter (fun member => member.1 != tag) = others :=
    List.filter_eq_self.mpr fun other mem => by simpa using alone other mem
  rw [tagged, checked, member_cons alone]
  show (do let name ← variant known (.string name); return (name, _)) = _
  rw [named, List.filter_cons_of_neg (by simp), kept]
  rfl

end members

/-! ### Types and functions -/

/-- A reference that was written and kept is read as it was. -/
theorem toTypeRef_kept (ref : TypeRef) : ref.toJson.kept.toTypeRef = .ok ref := by
  cases ref with
  | model id =>
    have found : member "model" [("model", .string id)] = .ok (.string id) :=
      member_cons (List.forall_mem_nil _)
    simp only [TypeRef.toJson, Json.kept, keptMembers, toTypeRef, found]
  | text words => rfl

/-- Where each item is read back, so is a list of items. -/
theorem toList_kept {item : Content → Decoded α} {toJson : α → Json}
    (h : ∀ a, item (toJson a).kept = .ok a) (list : List α) :
    toList item (Json.array (list.map toJson)).kept = .ok list := by
  show (keptItems (list.map toJson)).mapM item = .ok list
  induction list with
  | nil => rfl
  | cons a rest ih =>
    rw [List.map_cons, keptItems, List.mapM_cons, h, ih]
    rfl

/-- References that were written and kept are read as they were. -/
theorem toTypeRefs_kept (refs : List TypeRef) :
    toList toTypeRef (TypeRef.toJsons refs).kept = .ok refs :=
  toList_kept toTypeRef_kept refs

/-- A model alone in a list is told from a model, and both from a text. -/
theorem toReturn_kept (returned : FunctionReturn) :
    returned.toJson.kept.toReturn = .ok returned := by
  cases returned with
  | models id => rfl
  | type ref =>
    have read := toTypeRef_kept ref
    cases ref with
    | model id =>
      simp only [FunctionReturn.toJson, TypeRef.toJson, Json.kept, keptMembers] at read ⊢
      simp only [toReturn]
      rw [read]
    | text words => rfl

/-- An argument that was written and kept is read as it was. -/
theorem toArgument_kept (argument : FunctionArgument) :
    argument.toJson.kept.toArgument = .ok argument := by
  have name : toString (.string argument.name) = .ok argument.name := rfl
  exact both_eq_ok (by decide) name (toTypeRef_kept argument.type) FunctionArgument.mk

/-! ### Shapes and kinds -/

/-- The shape that members describe, once their kind is told apart. -/
theorem toShape_kept (shape : FieldShape) :
    toShape (keptMembers (("kind", .string shape.kind) :: shape.members)) = .ok shape := by
  have told : tagged "kind" shapeKinds
      (keptMembers (("kind", .string shape.kind) :: shape.members)) =
        .ok (shape.kind, keptMembers shape.members) := by
    refine tagged_cons (by cases shape <;> rfl) ?_
    cases shape <;> simp [FieldShape.members, keptMembers]
  unfold toShape
  rw [told]
  cases shape with
  | scalar type =>
    show (do return .scalar (← only "type" toTypeRef [("type", type.toJson.kept)]) :
      Decoded FieldShape) = _
    rw [only_singleton "type" (toTypeRef_kept type)]
    rfl
  | array element =>
    show (do return .array (← only "elementType" toTypeRef [("elementType", element.toJson.kept)]) :
      Decoded FieldShape) = _
    rw [only_singleton "elementType" (toTypeRef_kept element)]
    rfl
  | generic name arguments =>
    have nameRead : toString (.string name) = .ok name := rfl
    exact both_eq_ok (by decide) nameRead (toTypeRefs_kept arguments) FieldShape.generic
  | function arguments returned =>
    exact both_eq_ok (by decide) (toList_kept toArgument_kept arguments) (toReturn_kept returned)
      FieldShape.function
  | union types =>
    show (do return .union (← only "types" (toList toTypeRef)
      [("types", (TypeRef.toJsons types).kept)]) : Decoded FieldShape) = _
    rw [only_singleton "types" (toTypeRefs_kept types)]
    rfl

/-- A base type that was written and kept is read as it was. -/
theorem toBase_kept (ref : TypeRef) : ref.toJson.kept.toBase = .ok (some ref) := by
  have read := toTypeRef_kept ref
  cases ref with
  | model id =>
    show (TypeRef.model id).toJson.kept.toTypeRef.map some = _
    rw [read]
    rfl
  | text words => rfl

/-- The kind of model that members describe, once it is told apart. Without a base there is no
member for it. -/
theorem toKind_kept (kind : ModelKind) :
    toKind (keptMembers (("type", .string kind.word) :: kind.members)) = .ok kind := by
  have told : tagged "type" modelKinds
      (keptMembers (("type", .string kind.word) :: kind.members)) =
        .ok (kind.word, keptMembers kind.members) := by
    refine tagged_cons (by cases kind <;> rfl) ?_
    rcases kind with bases | _ | ⟨_ | base, interfaces⟩ <;>
      simp [ModelKind.members, Json.member?, keptMembers]
  unfold toKind
  rw [told]
  rcases kind with bases | _ | ⟨_ | base, interfaces⟩
  · show (do return .interface (← only "extends" (toList toTypeRef)
      [("extends", (TypeRef.toJsons bases).kept)]) : Decoded ModelKind) = _
    rw [only_singleton "extends" (toTypeRefs_kept bases)]
    rfl
  · rfl
  · have read := toTypeRefs_kept interfaces
    have checked : inOrder [("extends", check toBase), ("implements", check (toList toTypeRef))] []
        [("implements", (TypeRef.toJsons interfaces).kept)] = .ok () := by
      refine inOrder_eq_ok (by simp) ?_ (by simp)
      simp [List.lookup_cons, check_eq_ok read]
    show (do
      inOrder [("extends", check toBase), ("implements", check (toList toTypeRef))] []
        [("implements", (TypeRef.toJsons interfaces).kept)]
      return .class none (← toList toTypeRef (← member "implements"
        [("implements", (TypeRef.toJsons interfaces).kept)])) : Decoded ModelKind) = _
    rw [checked, member_cons (List.forall_mem_nil _)]
    show (do return .class none (← toList toTypeRef (TypeRef.toJsons interfaces).kept) :
      Decoded ModelKind) = _
    rw [read]
    rfl
  · exact both_eq_ok (by decide) (toBase_kept base) (toTypeRefs_kept interfaces) ModelKind.class

end Json.Content

end TypeAtlas
