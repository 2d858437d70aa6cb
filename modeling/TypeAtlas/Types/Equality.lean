import TypeAtlas.Types.Basic

/-!
Equality of types, texts included, decided by recursion on the left type.
-/

set_option autoImplicit false

namespace TypeAtlas

mutual

/-- Whether two types are equal, their texts included. -/
def TypeExpr.same : TypeExpr → TypeExpr → Bool
  | ⟨shape, text⟩, ⟨shape', text'⟩ => text == text' && shape.same shape'

def TypeShape.same : TypeShape → TypeShape → Bool
  | .keyword word, .keyword word' => word == word'
  | .literal spelling, .literal spelling' => spelling == spelling'
  | .reference name arguments, .reference name' arguments' =>
    name == name' && sameTypes arguments arguments'
  | .array element, .array element' => element.same element'
  | .tuple items, .tuple items' => sameTypes items items'
  | .union items, .union items' => sameTypes items items'
  | .intersection items, .intersection items' => sameTypes items items'
  | .function signature, .function signature' => signature.same signature'
  | .object members signatures, .object members' signatures' =>
    sameMembers members members' && sameSignatures signatures signatures'
  | .indexedAccess object index, .indexedAccess object' index' =>
    object.same object' && index.same index'
  | .this, .this => true
  | .unsupported, .unsupported => true
  | _, _ => false

def sameType? : Option TypeExpr → Option TypeExpr → Bool
  | none, none => true
  | some type, some type' => type.same type'
  | _, _ => false

def sameTypes : List TypeExpr → List TypeExpr → Bool
  | [], [] => true
  | type :: types, type' :: types' => type.same type' && sameTypes types types'
  | _, _ => false

def TypeParameter.same : TypeParameter → TypeParameter → Bool
  | ⟨name, constraint, fallback⟩, ⟨name', constraint', fallback'⟩ =>
    name == name' && sameType? constraint constraint' && sameType? fallback fallback'

def sameTypeParameters : List TypeParameter → List TypeParameter → Bool
  | [], [] => true
  | parameter :: rest, parameter' :: rest' =>
    parameter.same parameter' && sameTypeParameters rest rest'
  | _, _ => false

def Parameter.same : Parameter → Parameter → Bool
  | ⟨name, optional, rest, type⟩, ⟨name', optional', rest', type'⟩ =>
    name == name' && optional == optional' && rest == rest' && sameType? type type'

def sameParameters : List Parameter → List Parameter → Bool
  | [], [] => true
  | parameter :: rest, parameter' :: rest' => parameter.same parameter' && sameParameters rest rest'
  | _, _ => false

def Signature.same : Signature → Signature → Bool
  | ⟨typeParameters, parameters, returnType, hasBody, ofMember⟩,
      ⟨typeParameters', parameters', returnType', hasBody', ofMember'⟩ =>
    hasBody == hasBody' && ofMember == ofMember' && sameType? returnType returnType' &&
      sameTypeParameters typeParameters typeParameters' && sameParameters parameters parameters'

def sameSignatures : List Signature → List Signature → Bool
  | [], [] => true
  | signature :: rest, signature' :: rest' => signature.same signature' && sameSignatures rest rest'
  | _, _ => false

def MemberForm.same : MemberForm → MemberForm → Bool
  | .property type, .property type' => sameType? type type'
  | .method signatures, .method signatures' => sameSignatures signatures signatures'
  | .getter type, .getter type' => sameType? type type'
  | .setter none, .setter none => true
  | .setter (some parameter), .setter (some parameter') => parameter.same parameter'
  | _, _ => false

def Member.same : Member → Member → Bool
  | ⟨name, optional, readonly, form, span, origin⟩,
      ⟨name', optional', readonly', form', span', origin'⟩ =>
    name == name' && optional == optional' && readonly == readonly' && span == span' &&
      origin == origin' && form.same form'

def sameMembers : List Member → List Member → Bool
  | [], [] => true
  | member :: rest, member' :: rest' => member.same member' && sameMembers rest rest'
  | _, _ => false

end

mutual

/-- The test of types finds out whether they are equal. -/
theorem TypeExpr.same_iff : (a b : TypeExpr) → (a.same b = true ↔ a = b)
  | ⟨shape, text⟩, ⟨shape', text'⟩ => by
    simp [TypeExpr.same, TypeShape.same_iff shape shape', and_comm]

/-- The test of shapes finds out whether they are equal: by recursion on what is in them, as all
tests here. -/
theorem TypeShape.same_iff : (a b : TypeShape) → (a.same b = true ↔ a = b)
  | .keyword _, b => by cases b <;> simp [TypeShape.same]
  | .literal _, b => by cases b <;> simp [TypeShape.same]
  | .reference _ arguments, b => by
    cases b <;> simp [TypeShape.same, sameTypes_iff arguments]
  | .array element, b => by cases b <;> simp [TypeShape.same, TypeExpr.same_iff element]
  | .tuple items, b => by cases b <;> simp [TypeShape.same, sameTypes_iff items]
  | .union items, b => by cases b <;> simp [TypeShape.same, sameTypes_iff items]
  | .intersection items, b => by cases b <;> simp [TypeShape.same, sameTypes_iff items]
  | .function signature, b => by
    cases b <;> simp [TypeShape.same, Signature.same_iff signature]
  | .object members signatures, b => by
    cases b <;> simp [TypeShape.same, sameMembers_iff members, sameSignatures_iff signatures]
  | .indexedAccess object index, b => by
    cases b <;> simp [TypeShape.same, TypeExpr.same_iff object, TypeExpr.same_iff index]
  | .this, b => by cases b <;> simp [TypeShape.same]
  | .unsupported, b => by cases b <;> simp [TypeShape.same]

/-- The test of types that are there or not finds out whether they are equal. -/
theorem sameType?_iff : (a b : Option TypeExpr) → (sameType? a b = true ↔ a = b)
  | none, b => by cases b <;> simp [sameType?]
  | some type, b => by cases b <;> simp [sameType?, TypeExpr.same_iff type]

/-- The test of lists of types finds out whether they are equal. -/
theorem sameTypes_iff : (a b : List TypeExpr) → (sameTypes a b = true ↔ a = b)
  | [], b => by cases b <;> simp [sameTypes]
  | type :: types, b => by
    cases b <;> simp [sameTypes, TypeExpr.same_iff type, sameTypes_iff types]

/-- The test of type parameters finds out whether they are equal. -/
theorem TypeParameter.same_iff : (a b : TypeParameter) → (a.same b = true ↔ a = b)
  | ⟨_, constraint, fallback⟩, ⟨_, _, _⟩ => by
    simp [TypeParameter.same, sameType?_iff constraint, sameType?_iff fallback, and_assoc]

/-- The test of lists of type parameters finds out whether they are equal. -/
theorem sameTypeParameters_iff :
    (a b : List TypeParameter) → (sameTypeParameters a b = true ↔ a = b)
  | [], b => by cases b <;> simp [sameTypeParameters]
  | parameter :: rest, b => by
    cases b <;> simp [sameTypeParameters, TypeParameter.same_iff parameter,
      sameTypeParameters_iff rest]

/-- The test of parameters finds out whether they are equal. -/
theorem Parameter.same_iff : (a b : Parameter) → (a.same b = true ↔ a = b)
  | ⟨_, _, _, type⟩, ⟨_, _, _, _⟩ => by
    simp [Parameter.same, sameType?_iff type, and_assoc]

/-- The test of lists of parameters finds out whether they are equal. -/
theorem sameParameters_iff : (a b : List Parameter) → (sameParameters a b = true ↔ a = b)
  | [], b => by cases b <;> simp [sameParameters]
  | parameter :: rest, b => by
    cases b <;> simp [sameParameters, Parameter.same_iff parameter, sameParameters_iff rest]

/-- The test of signatures finds out whether they are equal. -/
theorem Signature.same_iff : (a b : Signature) → (a.same b = true ↔ a = b)
  | ⟨typeParameters, parameters, returnType, _, _⟩, ⟨_, _, _, _, _⟩ => by
    simp only [Signature.same, Bool.and_eq_true, beq_iff_eq, sameType?_iff returnType,
      sameTypeParameters_iff typeParameters, sameParameters_iff parameters, Signature.mk.injEq]
    constructor
    · rintro ⟨⟨⟨⟨h₁, h₂⟩, h₃⟩, h₄⟩, h₅⟩
      exact ⟨h₄, h₅, h₃, h₁, h₂⟩
    · rintro ⟨h₄, h₅, h₃, h₁, h₂⟩
      exact ⟨⟨⟨⟨h₁, h₂⟩, h₃⟩, h₄⟩, h₅⟩

/-- The test of lists of signatures finds out whether they are equal. -/
theorem sameSignatures_iff : (a b : List Signature) → (sameSignatures a b = true ↔ a = b)
  | [], b => by cases b <;> simp [sameSignatures]
  | signature :: rest, b => by
    cases b <;> simp [sameSignatures, Signature.same_iff signature, sameSignatures_iff rest]

/-- The test of forms of members finds out whether they are equal. -/
theorem MemberForm.same_iff : (a b : MemberForm) → (a.same b = true ↔ a = b)
  | .property type, b => by cases b <;> simp [MemberForm.same, sameType?_iff type]
  | .method signatures, b => by cases b <;> simp [MemberForm.same, sameSignatures_iff signatures]
  | .getter type, b => by cases b <;> simp [MemberForm.same, sameType?_iff type]
  | .setter none, b => by
    rcases b with _ | _ | _ | (_ | _) <;> simp [MemberForm.same]
  | .setter (some parameter), b => by
    rcases b with _ | _ | _ | (_ | _) <;> simp [MemberForm.same, Parameter.same_iff parameter]

/-- The test of members finds out whether they are equal. -/
theorem Member.same_iff : (a b : Member) → (a.same b = true ↔ a = b)
  | ⟨_, _, _, form, _, _⟩, ⟨_, _, _, _, _, _⟩ => by
    simp only [Member.same, Bool.and_eq_true, beq_iff_eq, MemberForm.same_iff form,
      Member.mk.injEq]
    constructor
    · rintro ⟨⟨⟨⟨⟨h₁, h₂⟩, h₃⟩, h₄⟩, h₅⟩, h₆⟩
      exact ⟨h₁, h₂, h₃, h₆, h₄, h₅⟩
    · rintro ⟨h₁, h₂, h₃, h₆, h₄, h₅⟩
      exact ⟨⟨⟨⟨⟨h₁, h₂⟩, h₃⟩, h₄⟩, h₅⟩, h₆⟩

/-- The test of lists of members finds out whether they are equal. -/
theorem sameMembers_iff : (a b : List Member) → (sameMembers a b = true ↔ a = b)
  | [], b => by cases b <;> simp [sameMembers]
  | member :: rest, b => by
    cases b <;> simp [sameMembers, Member.same_iff member, sameMembers_iff rest]

end

instance : DecidableEq TypeExpr := fun a b => decidable_of_iff _ (TypeExpr.same_iff a b)
instance : DecidableEq TypeParameter := fun a b => decidable_of_iff _ (TypeParameter.same_iff a b)
instance : DecidableEq Parameter := fun a b => decidable_of_iff _ (Parameter.same_iff a b)
instance : DecidableEq Signature := fun a b => decidable_of_iff _ (Signature.same_iff a b)
instance : DecidableEq Member := fun a b => decidable_of_iff _ (Member.same_iff a b)

end TypeAtlas
