import Mathlib.Data.List.Basic
import TypeAtlas.Types.Substitution

/-!
# The parts of a type

A type is made of types: the elements of an array, the operands of a union, the types in the
members of an object type and in the parameters of a function. All of them are its parts
(`TypeShape.parts`), each with the type parameters that a signature around it declares, and
`TypeShape.mapTypes` changes the parts and nothing else. What is said here in terms of parts is
said of every form of type at once, without a case for each.

Replacing type parameters in a type that is none itself replaces them in its parts, where a
signature keeps those that it declares (`TypeExpr.shape_substitute`). So facts about replacement
are proved by induction on parts (`TypeExpr.induction_on_parts`).
-/

set_option autoImplicit false

namespace TypeAtlas

/-- A type that is part of something, with the type parameters that a signature around it
declares. -/
structure TypePart where
  parameters : List TypeParameter
  type : TypeExpr

namespace TypePart

/-- The part with its type changed. -/
def map (change : List TypeParameter → TypeExpr → TypeExpr) (part : TypePart) : TypePart :=
  ⟨part.parameters, change part.parameters part.type⟩

end TypePart

/-! ### What has parts -/

namespace Parameter

/-- The parameter with its type changed. -/
def mapType (change : TypeExpr → TypeExpr) (parameter : Parameter) : Parameter :=
  { parameter with type := parameter.type.map change }

end Parameter

namespace Signature

/-- The types of what is passed and returned. -/
def parts (signature : Signature) : List TypePart :=
  (signature.parameters.flatMap (·.type.toList) ++ signature.returnType.toList).map
    fun type => ⟨signature.typeParameters, type⟩

/-- The signature with these types changed. -/
def mapTypes (change : List TypeParameter → TypeExpr → TypeExpr) (signature : Signature) :
    Signature :=
  { signature with
    parameters := signature.parameters.map (·.mapType (change signature.typeParameters))
    returnType := signature.returnType.map (change signature.typeParameters) }

end Signature

namespace MemberForm

/-- The types in the form of a member. -/
def parts : MemberForm → List TypePart
  | .property type | .getter type => type.toList.map fun type => ⟨[], type⟩
  | .setter parameter =>
    (parameter.toList.flatMap (·.type.toList)).map fun type => ⟨[], type⟩
  | .method signatures => signatures.flatMap (·.parts)

/-- The form with these types changed. -/
def mapTypes (change : List TypeParameter → TypeExpr → TypeExpr) : MemberForm → MemberForm
  | .property type => .property (type.map (change []))
  | .getter type => .getter (type.map (change []))
  | .setter parameter => .setter (parameter.map (·.mapType (change [])))
  | .method signatures => .method (signatures.map (·.mapTypes change))

end MemberForm

namespace Member

/-- The types in a member. -/
def parts (member : Member) : List TypePart := member.form.parts

/-- The member with these types changed. -/
def mapTypes (change : List TypeParameter → TypeExpr → TypeExpr) (member : Member) : Member :=
  { member with form := member.form.mapTypes change }

end Member

namespace TypeShape

/-- The types that a type is made of. -/
def parts : TypeShape → List TypePart
  | .keyword _ | .literal _ | .this | .unsupported => []
  | .reference _ arguments => arguments.map fun type => ⟨[], type⟩
  | .array element => [⟨[], element⟩]
  | .tuple items | .union items | .intersection items => items.map fun type => ⟨[], type⟩
  | .function signature => signature.parts
  | .object members signatures => members.flatMap (·.parts) ++ signatures.flatMap (·.parts)
  | .indexedAccess owner index => [⟨[], owner⟩, ⟨[], index⟩]

/-- The shape with these types changed. -/
def mapTypes (change : List TypeParameter → TypeExpr → TypeExpr) : TypeShape → TypeShape
  | .keyword word => .keyword word
  | .literal spelling => .literal spelling
  | .this => .this
  | .unsupported => .unsupported
  | .reference name arguments => .reference name (arguments.map (change []))
  | .array element => .array (change [] element)
  | .tuple items => .tuple (items.map (change []))
  | .union items => .union (items.map (change []))
  | .intersection items => .intersection (items.map (change []))
  | .function signature => .function (signature.mapTypes change)
  | .object members signatures =>
    .object (members.map (·.mapTypes change)) (signatures.map (·.mapTypes change))
  | .indexedAccess owner index => .indexedAccess (change [] owner) (change [] index)

end TypeShape

/-! ### Changing parts -/

section mapTypes

variable (change more : List TypeParameter → TypeExpr → TypeExpr)

/-- Changing the types in a signature changes its parts and makes no others. -/
theorem Signature.parts_mapTypes (signature : Signature) :
    (signature.mapTypes change).parts = signature.parts.map (·.map change) := by
  obtain ⟨typeParameters, parameters, returnType, hasBody, ofMember⟩ := signature
  have typed (parameter : Parameter) : (parameter.mapType (change typeParameters)).type.toList =
      parameter.type.toList.map (change typeParameters) := by
    cases h : parameter.type <;> simp [Parameter.mapType, h]
  simp only [parts, mapTypes, List.flatMap_map, typed, List.map_append, List.map_map,
    List.map_flatMap]
  cases returnType <;> rfl

/-- Changing the types in a form changes its parts and makes no others. -/
theorem MemberForm.parts_mapTypes (form : MemberForm) :
    (form.mapTypes change).parts = form.parts.map (·.map change) := by
  cases form with
  | property type | getter type => cases type <;> rfl
  | setter parameter =>
    rcases parameter with _ | ⟨name, optional, rest, _ | type⟩ <;> rfl
  | method signatures =>
    simp only [parts, mapTypes, List.flatMap_map, List.map_flatMap, Signature.parts_mapTypes]

/-- Changing the types in a member changes its parts and makes no others. -/
theorem Member.parts_mapTypes (member : Member) :
    (member.mapTypes change).parts = member.parts.map (·.map change) :=
  MemberForm.parts_mapTypes change member.form

/-- The parts of the changed shape are the changed parts. -/
theorem TypeShape.parts_mapTypes (shape : TypeShape) :
    (shape.mapTypes change).parts = shape.parts.map (·.map change) := by
  cases shape with
  | object members signatures =>
    simp only [parts, mapTypes, List.flatMap_map, List.map_append, List.map_flatMap,
      Member.parts_mapTypes, Signature.parts_mapTypes]
  | function signature => exact signature.parts_mapTypes change
  | _ => simp [parts, mapTypes, TypePart.map, Function.comp_def]

/-- Two changes of a parameter one after the other are one. -/
theorem Parameter.mapType_mapType (change more : TypeExpr → TypeExpr) (parameter : Parameter) :
    (parameter.mapType change).mapType more = parameter.mapType fun type => more (change type) := by
  simp [mapType, Function.comp_def]

/-- Two changes of a signature one after the other are one. -/
theorem Signature.mapTypes_mapTypes (signature : Signature) :
    (signature.mapTypes change).mapTypes more =
      signature.mapTypes fun parameters type => more parameters (change parameters type) := by
  simp [mapTypes, Function.comp_def, Parameter.mapType_mapType]

/-- Two changes of a form one after the other are one. -/
theorem MemberForm.mapTypes_mapTypes (form : MemberForm) :
    (form.mapTypes change).mapTypes more =
      form.mapTypes fun parameters type => more parameters (change parameters type) := by
  cases form <;>
    simp [mapTypes, Function.comp_def, Parameter.mapType_mapType, Signature.mapTypes_mapTypes]

/-- Two changes of a member one after the other are one. -/
theorem Member.mapTypes_mapTypes (member : Member) :
    (member.mapTypes change).mapTypes more =
      member.mapTypes fun parameters type => more parameters (change parameters type) := by
  simp [mapTypes, MemberForm.mapTypes_mapTypes]

/-- Two changes after each other are one. -/
theorem TypeShape.mapTypes_mapTypes (shape : TypeShape) :
    (shape.mapTypes change).mapTypes more =
      shape.mapTypes fun parameters type => more parameters (change parameters type) := by
  cases shape <;>
    simp [mapTypes, Function.comp_def, Signature.mapTypes_mapTypes, Member.mapTypes_mapTypes]

variable {change more}

/-- What is no name without arguments is none when its parts have changed. -/
theorem TypeShape.mapTypes_ne_reference {shape : TypeShape}
    (other : ∀ name, shape ≠ .reference name [])
    (change : List TypeParameter → TypeExpr → TypeExpr) (name : String) :
    shape.mapTypes change ≠ .reference name [] := by
  intro same
  cases shape with
  | reference owner arguments =>
    obtain ⟨rfl, none⟩ : owner = name ∧ arguments = [] := by simpa [mapTypes] using same
    exact other owner (none ▸ rfl)
  | _ => cases same

/-- Changing the types in a shape makes it unsupported only if it was. -/
theorem TypeShape.mapTypes_eq_unsupported {shape : TypeShape} :
    shape.mapTypes change = .unsupported ↔ shape = .unsupported := by
  cases shape <;> simp [mapTypes]

/-- Changes that agree on the type of a parameter change it alike. -/
theorem Parameter.mapType_congr {change more : TypeExpr → TypeExpr} {parameter : Parameter}
    (same : ∀ type ∈ parameter.type, change type = more type) :
    parameter.mapType change = parameter.mapType more := by
  obtain ⟨name, optional, rest, _ | type⟩ := parameter
  · rfl
  · simp [mapType, same type rfl]

/-- Changes that agree on the parts of a signature change it alike. -/
theorem Signature.mapTypes_congr {signature : Signature}
    (same : ∀ part ∈ signature.parts, change part.parameters part.type =
      more part.parameters part.type) :
    signature.mapTypes change = signature.mapTypes more := by
  obtain ⟨typeParameters, parameters, returnType, hasBody, ofMember⟩ := signature
  have one {type : TypeExpr} (mem : type ∈ parameters.flatMap (·.type.toList) ∨
      type ∈ returnType) : change typeParameters type = more typeParameters type :=
    same ⟨typeParameters, type⟩
      (List.mem_map.mpr ⟨type, by simpa using mem, rfl⟩)
  simp only [mapTypes, Signature.mk.injEq, true_and, and_true]
  refine ⟨List.map_congr_left fun parameter mem => ?_, ?_⟩
  · refine Parameter.mapType_congr fun type typed => one (.inl ?_)
    exact List.mem_flatMap.mpr ⟨parameter, mem, by simpa using typed⟩
  · exact Option.map_congr fun type typed => one (.inr typed)

/-- Changes that agree on the parts of a form change it alike. -/
theorem MemberForm.mapTypes_congr {form : MemberForm}
    (same : ∀ part ∈ form.parts, change part.parameters part.type =
      more part.parameters part.type) : form.mapTypes change = form.mapTypes more := by
  cases form with
  | property type | getter type =>
    cases type with
    | none => rfl
    | some type => simp [mapTypes, same ⟨[], type⟩ (by simp [parts])]
  | setter parameter =>
    rcases parameter with _ | ⟨name, optional, rest, _ | type⟩
    · rfl
    · rfl
    · simp [mapTypes, Parameter.mapType, same ⟨[], type⟩ (by simp [parts])]
  | method signatures =>
    simp only [mapTypes, MemberForm.method.injEq]
    exact List.map_congr_left fun signature mem => Signature.mapTypes_congr fun part inside =>
      same part (List.mem_flatMap.mpr ⟨signature, mem, inside⟩)

/-- Changes that agree on the parts of a member change it alike. -/
theorem Member.mapTypes_congr {member : Member}
    (same : ∀ part ∈ member.parts, change part.parameters part.type =
      more part.parameters part.type) : member.mapTypes change = member.mapTypes more := by
  simp only [mapTypes, MemberForm.mapTypes_congr same]

/-- Changes that agree on the parts of a shape change it alike. -/
theorem TypeShape.mapTypes_congr {shape : TypeShape}
    (same : ∀ part ∈ shape.parts, change part.parameters part.type =
      more part.parameters part.type) : shape.mapTypes change = shape.mapTypes more := by
  cases shape with
  | function signature => exact congrArg _ (Signature.mapTypes_congr same)
  | object members signatures =>
    simp only [mapTypes, TypeShape.object.injEq]
    constructor
    · exact List.map_congr_left fun member mem => Member.mapTypes_congr fun part inside =>
        same part (List.mem_append_left _ (List.mem_flatMap.mpr ⟨member, mem, inside⟩))
    · exact List.map_congr_left fun signature mem => Signature.mapTypes_congr fun part inside =>
        same part (List.mem_append_right _ (List.mem_flatMap.mpr ⟨signature, mem, inside⟩))
  | reference _ items | tuple items | union items | intersection items =>
    have each : items.map (change []) = items.map (more []) :=
      List.map_congr_left fun type mem => same ⟨[], type⟩ (List.mem_map_of_mem mem)
    simp only [mapTypes, each]
  | array element => simp [mapTypes, same ⟨[], element⟩ (by simp [parts])]
  | indexedAccess object index =>
    simp [mapTypes, same ⟨[], object⟩ (by simp [parts]), same ⟨[], index⟩ (by simp [parts])]
  | _ => rfl

end mapTypes

/-! ### Parts are smaller -/

/-- The types in a signature are smaller than it. -/
theorem Signature.sizeOf_lt_of_mem_parts {signature : Signature} {part : TypePart}
    (h : part ∈ signature.parts) : sizeOf part.type < sizeOf signature := by
  obtain ⟨typeParameters, parameters, returnType, hasBody, ofMember⟩ := signature
  obtain ⟨type, mem, rfl⟩ := List.mem_map.mp h
  simp only [Signature.mk.sizeOf_spec]
  rcases List.mem_append.mp mem with passed | returned
  · obtain ⟨⟨name, optional, rest, passedType⟩, inside, typed⟩ := List.mem_flatMap.mp passed
    obtain rfl : passedType = some type := by simpa using typed
    have smaller := List.sizeOf_lt_of_mem inside
    simp only [Parameter.mk.sizeOf_spec, Option.some.sizeOf_spec] at smaller
    omega
  · obtain rfl : returnType = some type := by simpa using returned
    simp only [Option.some.sizeOf_spec]
    omega

/-- The types in a member are smaller than it. -/
theorem Member.sizeOf_lt_of_mem_parts {member : Member} {part : TypePart}
    (h : part ∈ member.parts) : sizeOf part.type < sizeOf member := by
  obtain ⟨name, optional, readonly, form, span, origin⟩ := member
  simp only [Member.mk.sizeOf_spec]
  cases form with
  | property type | getter type =>
    obtain ⟨inner, typed, rfl⟩ := List.mem_map.mp h
    obtain rfl : type = some inner := by simpa using typed
    simp
    omega
  | setter parameter =>
    obtain ⟨inner, typed, rfl⟩ := List.mem_map.mp h
    rcases parameter with _ | ⟨name, optional, rest, type⟩
    · cases typed
    · obtain rfl : type = some inner := by simpa using typed
      simp
      omega
  | method signatures =>
    obtain ⟨signature, mem, inside⟩ := List.mem_flatMap.mp h
    have smaller := List.sizeOf_lt_of_mem mem
    have within := Signature.sizeOf_lt_of_mem_parts inside
    simp
    omega

/-- The types in a shape are smaller than it. -/
theorem TypeShape.sizeOf_lt_of_mem_parts {shape : TypeShape} {part : TypePart}
    (h : part ∈ shape.parts) : sizeOf part.type < sizeOf shape := by
  cases shape with
  | keyword | literal | this | unsupported => cases h
  | reference _ items | tuple items | union items | intersection items =>
    obtain ⟨type, mem, rfl⟩ := List.mem_map.mp h
    have smaller := List.sizeOf_lt_of_mem mem
    simp
    omega
  | array element =>
    obtain rfl := List.mem_singleton.mp h
    simp
  | function signature =>
    have within := Signature.sizeOf_lt_of_mem_parts h
    simp
    omega
  | object members signatures =>
    simp only [TypeShape.object.sizeOf_spec]
    rcases List.mem_append.mp h with inMember | inSignature
    · obtain ⟨member, mem, inside⟩ := List.mem_flatMap.mp inMember
      have smaller := List.sizeOf_lt_of_mem mem
      have within := Member.sizeOf_lt_of_mem_parts inside
      omega
    · obtain ⟨signature, mem, inside⟩ := List.mem_flatMap.mp inSignature
      have smaller := List.sizeOf_lt_of_mem mem
      have within := Signature.sizeOf_lt_of_mem_parts inside
      omega
  | indexedAccess object index =>
    simp only [TypeShape.indexedAccess.sizeOf_spec]
    rcases List.mem_cons.mp h with rfl | h
    · dsimp only
      omega
    · obtain rfl := List.mem_singleton.mp h
      dsimp only
      omega

/-- What holds of a type if it holds of its parts holds of every type. -/
theorem TypeExpr.induction_on_parts {motive : TypeExpr → Prop}
    (step : ∀ type : TypeExpr, (∀ part ∈ type.shape.parts, motive part.type) → motive type)
    (type : TypeExpr) : motive type :=
  step type fun part mem =>
    have smaller : sizeOf part.type < sizeOf type := by
      obtain ⟨shape, text⟩ := type
      have within : sizeOf part.type < sizeOf shape := TypeShape.sizeOf_lt_of_mem_parts mem
      simp only [TypeExpr.mk.sizeOf_spec]
      omega
    induction_on_parts step part.type
termination_by sizeOf type

/-! ### Replacing type parameters in parts -/

namespace Bindings

/-- Inside of a signature without type parameters the same names stand for types. -/
@[simp]
theorem without_nil (bindings : Bindings) : bindings.without [] = bindings := by
  simp [without]

/-- Within a signature there is no type for the names that it declares itself. -/
theorem find?_without (bindings : Bindings) (parameters : List TypeParameter) (name : String) :
    (bindings.without parameters).find? name =
      if parameters.any fun parameter => parameter.name == name then none
      else bindings.find? name := by
  unfold without find?
  induction bindings with
  | nil => simp
  | cons binding rest ih =>
    obtain ⟨bound, type⟩ := binding
    rw [List.filter_cons]
    by_cases same : name = bound
    · subst same
      by_cases own : parameters.any fun parameter => parameter.name == name
      · simp only [own, Bool.not_true, Bool.false_eq_true, if_false, if_true, ih]
      · simp only [own, Bool.not_false, if_true, List.lookup_cons, beq_self_eq_true]
        simp
    · have skip (list : Bindings) :
          List.lookup name ((bound, type) :: list) = list.lookup name := by
        rw [List.lookup_cons, beq_false_of_ne same]
      rw [skip, ← ih]
      split_ifs
      · exact skip _
      · rfl

/-- How types are replaced where a signature declares type parameters. -/
def inside (bindings : Bindings) (parameters : List TypeParameter) (type : TypeExpr) : TypeExpr :=
  type.substitute (bindings.without parameters)

/-- Where no type parameters are declared, types are replaced as they are outside. -/
@[simp]
theorem inside_nil (bindings : Bindings) : bindings.inside [] = TypeExpr.substitute bindings := by
  funext type
  simp [inside]

end Bindings

section replaced

variable (bindings : Bindings)

/-- A type, replaced if there is anything to replace, is the type after substitution. -/
theorem orElse_replacedType? (type : Option TypeExpr) :
    (replacedType? bindings type <|> type) = type.map (·.substitute bindings) := by
  cases type with
  | none => rfl
  | some type =>
    rw [replacedType?, Option.map_some, TypeExpr.substitute]
    cases type.replaced? bindings <;> rfl

/-- Types, replaced if there is anything to replace, are the types after substitution. -/
theorem getD_replacedTypes? (types : List TypeExpr) :
    (replacedTypes? bindings types).getD types = types.map (·.substitute bindings) := by
  induction types with
  | nil => rfl
  | cons type rest ih =>
    rw [List.map_cons, ← ih, TypeExpr.substitute, replacedTypes?]
    cases type.replaced? bindings <;> cases replacedTypes? bindings rest <;> rfl

/-- Parameters, replaced if there is anything to replace, have their types after substitution. -/
theorem getD_replacedParameters? (parameters : List Parameter) :
    (replacedParameters? bindings parameters).getD parameters =
      parameters.map (·.mapType (·.substitute bindings)) := by
  induction parameters with
  | nil => rfl
  | cons parameter rest ih =>
    obtain ⟨name, optional, isRest, type⟩ := parameter
    rw [List.map_cons, ← ih, Parameter.mapType, ← orElse_replacedType?, replacedParameters?]
    cases replacedType? bindings type <;> cases replacedParameters? bindings rest <;> rfl

/-- A signature, replaced if there is anything to replace, has all its types after substitution,
with its own type parameters left alone. -/
theorem Signature.getD_replaced? (signature : Signature) :
    (signature.replaced? bindings).getD signature = signature.mapTypes bindings.inside := by
  obtain ⟨typeParameters, parameters, returnType, hasBody, ofMember⟩ := signature
  have inside : bindings.inside typeParameters =
      (·.substitute (bindings.without typeParameters)) := rfl
  simp only [mapTypes, inside]
  rw [← getD_replacedParameters?, ← orElse_replacedType?, replaced?]
  cases replacedParameters? (bindings.without typeParameters) parameters <;>
    cases replacedType? (bindings.without typeParameters) returnType <;> rfl

/-- Signatures, replaced if there is anything to replace, have all their types after
substitution. -/
theorem getD_replacedSignatures? (signatures : List Signature) :
    (replacedSignatures? bindings signatures).getD signatures =
      signatures.map (·.mapTypes bindings.inside) := by
  induction signatures with
  | nil => rfl
  | cons signature rest ih =>
    rw [List.map_cons, ← ih, ← Signature.getD_replaced?, replacedSignatures?]
    cases signature.replaced? bindings <;> cases replacedSignatures? bindings rest <;> rfl

/-- A replacement by the type itself need not be told from none. -/
theorem TypeExpr.getD_unlessSame (type : TypeExpr) :
    (type.unlessSame (type.replaced? bindings)).getD type = type.substitute bindings := by
  unfold unlessSame substitute
  cases type.replaced? bindings with
  | none => rfl
  | some new =>
    rw [Option.filter_some]
    split_ifs with differs
    · rfl
    · have same : new = type := by simpa [TypeExpr.same_iff] using differs
      exact same.symm

/-- Substitution in a member is one in each of its types, with the type parameters of its signatures
left alone. -/
theorem Member.substitute_eq (member : Member) :
    member.substitute bindings = member.mapTypes bindings.inside := by
  obtain ⟨name, optional, readonly, form, span, origin⟩ := member
  cases form with
  | property type | getter type =>
    cases type with
    | none => rfl
    | some type =>
      simp only [substitute, replaced?, mapTypes, MemberForm.mapTypes, Option.map_some,
        Bindings.inside_nil, ← TypeExpr.getD_unlessSame]
      cases type.unlessSame (type.replaced? bindings) <;> rfl
  | setter parameter =>
    rcases parameter with _ | ⟨left, isOptional, rest, _ | type⟩
    · rfl
    · rfl
    · simp only [substitute, replaced?, mapTypes, MemberForm.mapTypes, Parameter.mapType,
        Option.map_some, Bindings.inside_nil, ← TypeExpr.getD_unlessSame]
      cases type.unlessSame (type.replaced? bindings) <;> rfl
  | method signatures =>
    simp only [substitute, replaced?, mapTypes, MemberForm.mapTypes, ← getD_replacedSignatures?]
    cases replacedSignatures? bindings signatures <;> rfl

/-- Members, replaced if there is anything to replace, have all their types after substitution. -/
theorem getD_replacedMembers? (members : List Member) :
    (replacedMembers? bindings members).getD members =
      members.map (·.mapTypes bindings.inside) := by
  induction members with
  | nil => rfl
  | cons member rest ih =>
    rw [List.map_cons, ← ih, ← Member.substitute_eq, Member.substitute, replacedMembers?]
    cases member.replaced? bindings <;> cases replacedMembers? bindings rest <;> rfl

/-- A type that is a type parameter itself is replaced as a whole. -/
theorem TypeExpr.substitute_parameter (name text : String) :
    substitute bindings ⟨.reference name [], text⟩ =
      (bindings.find? name).getD ⟨.reference name [], text⟩ := by
  rw [substitute, replaced?]

/-- In every other type its parts are replaced. -/
theorem TypeExpr.shape_substitute {type : TypeExpr}
    (other : ∀ name, type.shape ≠ .reference name []) :
    (type.substitute bindings).shape = type.shape.mapTypes bindings.inside := by
  obtain ⟨shape, text⟩ := type
  unfold substitute
  cases shape with
  | reference name arguments =>
    rcases arguments with _ | ⟨first, rest⟩
    · exact absurd rfl (other name)
    · simp only [TypeShape.mapTypes, Bindings.inside_nil, ← getD_replacedTypes?, replaced?]
      cases replacedTypes? bindings (first :: rest) <;> rfl
  | array element =>
    simp only [TypeShape.mapTypes, Bindings.inside_nil, replaced?, substitute]
    cases element.replaced? bindings <;> rfl
  | tuple items | union items | intersection items =>
    simp only [TypeShape.mapTypes, Bindings.inside_nil, ← getD_replacedTypes?, replaced?]
    cases replacedTypes? bindings items <;> rfl
  | function signature =>
    simp only [TypeShape.mapTypes, ← Signature.getD_replaced?, replaced?]
    cases signature.replaced? bindings <;> rfl
  | object members signatures =>
    simp only [TypeShape.mapTypes, ← getD_replacedMembers?, ← getD_replacedSignatures?, replaced?]
    cases replacedMembers? bindings members <;>
      cases replacedSignatures? bindings signatures <;> rfl
  | indexedAccess object index =>
    simp only [TypeShape.mapTypes, Bindings.inside_nil, replaced?, substitute]
    cases object.replaced? bindings <;> cases index.replaced? bindings <;> rfl
  | _ => rfl

end replaced

end TypeAtlas
