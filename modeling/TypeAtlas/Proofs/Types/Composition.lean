import TypeAtlas.Proofs.Types.Parts

/-!
# Two replacements after each other are one

Where type parameters are replaced in a type and others in what has come of it, one replacement has
the same result, if it replaces each name by what the two make of it
(`TypeExpr.textless_substitute_substitute`). This needs that no signature in the type declares a
type parameter with a name that the first replacement brings in, for such a name would mean
something else there. `Bindings.andThen` writes the one replacement down, so that two replacements
compose (`TypeExpr.textless_substitute_andThen`).

The results are equal but for texts. A type loses its text when something in it is replaced, and it
may come to be what it was again. `TypeExpr.textless` is the type without texts, except for the
forms of which only the text is known.
-/

set_option autoImplicit false

namespace TypeAtlas

/-! ### Types without texts -/

mutual

/-- The type without the texts that it was written as. Where only the text is known, it stays. -/
def TypeExpr.textless : TypeExpr → TypeExpr
  | ⟨.keyword word, _⟩ => .unwritten (.keyword word)
  | ⟨.literal spelling, _⟩ => .unwritten (.literal spelling)
  | ⟨.reference name arguments, _⟩ => .unwritten (.reference name (textlessTypes arguments))
  | ⟨.array element, _⟩ => .unwritten (.array element.textless)
  | ⟨.tuple items, _⟩ => .unwritten (.tuple (textlessTypes items))
  | ⟨.union items, _⟩ => .unwritten (.union (textlessTypes items))
  | ⟨.intersection items, _⟩ => .unwritten (.intersection (textlessTypes items))
  | ⟨.function signature, _⟩ => .unwritten (.function signature.textless)
  | ⟨.object members signatures, _⟩ =>
    .unwritten (.object (textlessMembers members) (textlessSignatures signatures))
  | ⟨.indexedAccess object index, _⟩ => .unwritten (.indexedAccess object.textless index.textless)
  | ⟨.this, _⟩ => .unwritten .this
  | ⟨.unsupported, text⟩ => ⟨.unsupported, text⟩

def textlessType? : Option TypeExpr → Option TypeExpr
  | none => none
  | some type => some type.textless

def textlessTypes : List TypeExpr → List TypeExpr
  | [] => []
  | type :: types => type.textless :: textlessTypes types

def Parameter.textless : Parameter → Parameter
  | ⟨name, optional, rest, type⟩ => ⟨name, optional, rest, textlessType? type⟩

def textlessParameters : List Parameter → List Parameter
  | [] => []
  | parameter :: parameters => parameter.textless :: textlessParameters parameters

/-- A signature without texts in the types of what is passed and returned. -/
def Signature.textless : Signature → Signature
  | ⟨typeParameters, parameters, returnType, hasBody, ofMember⟩ =>
    ⟨typeParameters, textlessParameters parameters, textlessType? returnType, hasBody, ofMember⟩

def textlessSignatures : List Signature → List Signature
  | [] => []
  | signature :: signatures => signature.textless :: textlessSignatures signatures

def MemberForm.textless : MemberForm → MemberForm
  | .property type => .property (textlessType? type)
  | .method signatures => .method (textlessSignatures signatures)
  | .getter type => .getter (textlessType? type)
  | .setter none => .setter none
  | .setter (some parameter) => .setter (some parameter.textless)

/-- A member without texts in its types. -/
def Member.textless : Member → Member
  | ⟨name, optional, readonly, form, span, origin⟩ =>
    ⟨name, optional, readonly, form.textless, span, origin⟩

def textlessMembers : List Member → List Member
  | [] => []
  | member :: members => member.textless :: textlessMembers members

end

/-- The change that takes the text from a part. -/
def withoutText (_ : List TypeParameter) (type : TypeExpr) : TypeExpr := type.textless

section textless

/-- A type, if there is one, loses its text. -/
theorem textlessType?_eq (type : Option TypeExpr) :
    textlessType? type = type.map TypeExpr.textless := by
  cases type <;> rfl

/-- Each of several types loses its text. -/
theorem textlessTypes_eq (types : List TypeExpr) :
    textlessTypes types = types.map TypeExpr.textless := by
  induction types with
  | nil => rfl
  | cons type rest ih => rw [textlessTypes, ih, List.map_cons]

/-- A parameter without text is one whose type has none. -/
theorem Parameter.textless_eq (parameter : Parameter) :
    parameter.textless = parameter.mapType TypeExpr.textless := by
  obtain ⟨name, optional, rest, type⟩ := parameter
  rw [textless, textlessType?_eq, mapType]

/-- Each of several parameters loses the text of its type. -/
theorem textlessParameters_eq (parameters : List Parameter) :
    textlessParameters parameters = parameters.map (·.mapType TypeExpr.textless) := by
  induction parameters with
  | nil => rfl
  | cons parameter rest ih => rw [textlessParameters, ih, List.map_cons, Parameter.textless_eq]

/-- A signature without texts is one whose types are changed to have none. -/
theorem Signature.textless_eq (signature : Signature) :
    signature.textless = signature.mapTypes withoutText := by
  obtain ⟨typeParameters, parameters, returnType, hasBody, ofMember⟩ := signature
  rw [textless, textlessType?_eq, textlessParameters_eq]
  rfl

/-- Each of several signatures loses the texts of its types. -/
theorem textlessSignatures_eq (signatures : List Signature) :
    textlessSignatures signatures = signatures.map (·.mapTypes withoutText) := by
  induction signatures with
  | nil => rfl
  | cons signature rest ih => rw [textlessSignatures, ih, List.map_cons, Signature.textless_eq]

/-- Taking the texts from a member takes them from its parts. -/
theorem Member.textless_eq (member : Member) :
    member.textless = member.mapTypes withoutText := by
  obtain ⟨name, optional, readonly, form, span, origin⟩ := member
  rw [textless]
  refine congrArg (Member.mk name optional readonly · span origin) ?_
  rcases form with type | signatures | type | (_ | parameter)
  · exact congrArg MemberForm.property (textlessType?_eq type)
  · exact congrArg MemberForm.method (textlessSignatures_eq signatures)
  · exact congrArg MemberForm.getter (textlessType?_eq type)
  · rfl
  · exact congrArg (MemberForm.setter ∘ some) parameter.textless_eq

/-- Each of several members loses the texts of its types. -/
theorem textlessMembers_eq (members : List Member) :
    textlessMembers members = members.map (·.mapTypes withoutText) := by
  induction members with
  | nil => rfl
  | cons member rest ih => rw [textlessMembers, ih, List.map_cons, Member.textless_eq]

/-- Taking the texts from a type takes them from its parts. -/
theorem TypeExpr.shape_textless (type : TypeExpr) :
    type.textless.shape = type.shape.mapTypes withoutText := by
  obtain ⟨shape, text⟩ := type
  cases shape with
  | function signature => exact congrArg TypeShape.function signature.textless_eq
  | object members signatures =>
    exact congrArg₂ TypeShape.object (textlessMembers_eq members) (textlessSignatures_eq signatures)
  | reference _ items | tuple items | union items | intersection items =>
    simp only [textless, unwritten, textlessTypes_eq]
    rfl
  | _ => rfl

/-- If there is nothing but the text to a type, it stays, and else no text is left. -/
theorem TypeExpr.text_textless (type : TypeExpr) :
    type.textless.text = if type.shape matches .unsupported then type.text else "" := by
  obtain ⟨shape, text⟩ := type
  cases shape <;> rfl

/-- Types are equal without their texts if they are alike but for parts that are. -/
theorem TypeExpr.textless_congr {type other : TypeExpr}
    (shape : type.shape.mapTypes withoutText = other.shape.mapTypes withoutText)
    (text : type.shape = .unsupported → type.text = other.text) :
    type.textless = other.textless := by
  have shapes : type.textless.shape = other.textless.shape := by
    rw [shape_textless, shape_textless, shape]
  have texts : type.textless.text = other.textless.text := by
    rw [text_textless, text_textless]
    cases written : type.shape <;> cases also : other.shape <;>
      simp_all [TypeShape.mapTypes]
  generalize type.textless = bare at shapes texts ⊢
  generalize other.textless = otherBare at shapes texts ⊢
  obtain ⟨shape, text⟩ := bare
  obtain ⟨otherShape, otherText⟩ := otherBare
  simp_all only

end textless

/-! ### Names in types -/

/-- A type mentions a name if the name, without arguments, is the type or occurs in it where no
signature around it declares a type parameter of that name. -/
inductive TypeExpr.Mentions (name : String) : TypeExpr → Prop
  | here {type : TypeExpr} (shape : type.shape = .reference name []) : Mentions name type
  | part {type : TypeExpr} {part : TypePart} (mem : part ∈ type.shape.parts)
      (free : ∀ parameter ∈ part.parameters, parameter.name ≠ name)
      (mentions : Mentions name part.type) : Mentions name type

/-- A type rebinds a name if a signature in it declares a type parameter of that name. -/
inductive TypeExpr.Rebinds (name : String) : TypeExpr → Prop
  | here {type : TypeExpr} {part : TypePart} {parameter : TypeParameter}
      (mem : part ∈ type.shape.parts) (declared : parameter ∈ part.parameters)
      (named : parameter.name = name) : Rebinds name type
  | part {type : TypeExpr} {part : TypePart} (mem : part ∈ type.shape.parts)
      (rebinds : Rebinds name part.type) : Rebinds name type

namespace Bindings

/-- What stands for a name: its type, or the name itself. -/
def value (bindings : Bindings) (name : String) : TypeExpr :=
  (bindings.find? name).getD (.reference name [])

/-- A signature's own type parameters stand for themselves. -/
theorem value_without_of_mem {bindings : Bindings} {parameters : List TypeParameter}
    {parameter : TypeParameter} (h : parameter ∈ parameters) :
    (bindings.without parameters).value parameter.name = .reference parameter.name [] := by
  have own : parameters.any fun other => other.name == parameter.name :=
    List.any_eq_true.mpr ⟨parameter, h, beq_self_eq_true _⟩
  rw [value, find?_without, if_pos own]
  rfl

/-- What stands for a name that is no type parameter of a signature stands for it inside of the
signature. -/
theorem find?_without_of_free {bindings : Bindings} {parameters : List TypeParameter}
    {name : String} (free : ∀ parameter ∈ parameters, parameter.name ≠ name) :
    (bindings.without parameters).find? name = bindings.find? name := by
  rw [find?_without, if_neg]
  simpa using free

/-- What stands for any other name is not affected by a signature. -/
theorem value_without_of_free {bindings : Bindings} {parameters : List TypeParameter}
    {name : String} (free : ∀ parameter ∈ parameters, parameter.name ≠ name) :
    (bindings.without parameters).value name = bindings.value name := by
  rw [value, find?_without_of_free free, value]

/-- The first replacement and then the second as one: for each name that the first has a type for,
this type with the second made in it, and for every other name what the second has. -/
def andThen (first second : Bindings) : Bindings :=
  first.map (fun binding => (binding.1, binding.2.substitute second)) ++ second

/-- Two replacements as one find what the first has, with the second made in it, and else what the
second has. -/
theorem find?_andThen (first second : Bindings) (name : String) :
    (first.andThen second).find? name =
      ((first.find? name).map (·.substitute second) <|> second.find? name) := by
  unfold andThen find?
  induction first with
  | nil => rfl
  | cons binding rest ih =>
    obtain ⟨bound, type⟩ := binding
    rw [List.map_cons, List.cons_append, List.lookup_cons, List.lookup_cons]
    cases name == bound with
    | true => rfl
    | false => exact ih

end Bindings

/-! ### Replacing names -/

namespace TypeExpr

/-- A type that is a name without arguments becomes what stands for the name. -/
theorem textless_substitute_of_shape {type : TypeExpr} {name : String}
    (shape : type.shape = .reference name []) (bindings : Bindings) :
    (type.substitute bindings).textless = (bindings.value name).textless := by
  obtain ⟨_, text⟩ := type
  obtain rfl := shape
  rw [substitute_parameter, Bindings.value]
  cases bindings.find? name <;> rfl

/-- What is no name without arguments becomes none by replacing names in it. -/
theorem shape_substitute_ne {type : TypeExpr} (other : ∀ name, type.shape ≠ .reference name [])
    (bindings : Bindings) (name : String) :
    (type.substitute bindings).shape ≠ .reference name [] := by
  rw [shape_substitute bindings other]
  exact TypeShape.mapTypes_ne_reference other _ name

/-- A type of which only the text is known stays as it is. -/
theorem substitute_of_unsupported {type : TypeExpr} (unknown : type.shape = .unsupported)
    (bindings : Bindings) : type.substitute bindings = type := by
  obtain ⟨shape, text⟩ := type
  obtain rfl := unknown
  rfl

/-- Unless a name is replaced, no such type comes from another one. -/
theorem shape_eq_unsupported_of_substitute {type : TypeExpr} {bindings : Bindings}
    (other : ∀ name, type.shape ≠ .reference name [])
    (unknown : (type.substitute bindings).shape = .unsupported) : type.shape = .unsupported := by
  rw [shape_substitute bindings other] at unknown
  exact TypeShape.mapTypes_eq_unsupported.mp unknown

/-- What becomes of a type depends on what stands for the names that it mentions. -/
theorem textless_substitute_congr {type : TypeExpr} {bindings more : Bindings}
    (same : ∀ name, type.Mentions name →
      (bindings.value name).textless = (more.value name).textless) :
    (type.substitute bindings).textless = (type.substitute more).textless := by
  induction type using TypeExpr.induction_on_parts generalizing bindings more with
  | step type ih =>
    by_cases whole : ∃ name, type.shape = .reference name []
    · obtain ⟨name, shape⟩ := whole
      rw [textless_substitute_of_shape shape, textless_substitute_of_shape shape]
      exact same name (.here shape)
    · rw [not_exists] at whole
      refine textless_congr ?_ fun unknown => ?_
      · rw [shape_substitute bindings whole, shape_substitute more whole,
          TypeShape.mapTypes_mapTypes, TypeShape.mapTypes_mapTypes]
        refine TypeShape.mapTypes_congr fun part mem => ih part mem fun name mentions => ?_
        by_cases own : ∃ parameter ∈ part.parameters, parameter.name = name
        · obtain ⟨parameter, declared, rfl⟩ := own
          rw [Bindings.value_without_of_mem declared, Bindings.value_without_of_mem declared]
        · have free : ∀ parameter ∈ part.parameters, parameter.name ≠ name := by simpa using own
          rw [Bindings.value_without_of_free free, Bindings.value_without_of_free free]
          exact same name (.part mem free mentions)
      · have known := shape_eq_unsupported_of_substitute whole unknown
        rw [substitute_of_unsupported known, substitute_of_unsupported known]

/-- In what stands for a name, a signature around the name keeps nothing back from a replacement, if
it declares neither the name nor anything that stands there. -/
theorem textless_substitute_value_without {first : Bindings} {parameters : List TypeParameter}
    {name : String} (free : ∀ parameter ∈ parameters, parameter.name ≠ name)
    (apart : ∀ parameter ∈ parameters, ∀ new, first.find? name = some new →
      ¬ new.Mentions parameter.name) (second : Bindings) :
    ((first.value name).substitute (second.without parameters)).textless =
      ((first.value name).substitute second).textless := by
  refine textless_substitute_congr fun inner inside => ?_
  rw [Bindings.value_without_of_free]
  intro parameter declared named
  cases found : first.find? name with
  | none =>
    rw [Bindings.value, found] at inside
    obtain rfl : inner = name := by
      cases inside with
      | here shape => cases shape; rfl
      | part mem => cases mem
    exact free parameter declared named
  | some new =>
    rw [Bindings.value, found, ← named] at inside
    exact apart parameter declared new found inside

/-- Two replacements are one that replaces each name by what the two make of it, unless a signature
rebinds a name that the first one brings in. -/
theorem textless_substitute_substitute {type : TypeExpr} {first second both : Bindings}
    (makes : ∀ name, type.Mentions name →
      ((first.value name).substitute second).textless = (both.value name).textless)
    (apart : ∀ name, type.Rebinds name →
      ∀ bound new, first.find? bound = some new → ¬ new.Mentions name) :
    ((type.substitute first).substitute second).textless = (type.substitute both).textless := by
  induction type using TypeExpr.induction_on_parts generalizing first second both with
  | step type ih =>
    by_cases whole : ∃ name, type.shape = .reference name []
    · obtain ⟨name, shape⟩ := whole
      rw [textless_substitute_of_shape shape, ← makes name (.here shape)]
      obtain ⟨_, text⟩ := type
      obtain rfl := shape
      rw [substitute_parameter, Bindings.value]
      cases first.find? name with
      | some new => rfl
      | none =>
        rw [Option.getD_none, Option.getD_none, textless_substitute_of_shape rfl,
          textless_substitute_of_shape rfl]
    · rw [not_exists] at whole
      refine textless_congr ?_ fun unknown => ?_
      · rw [shape_substitute second (shape_substitute_ne whole first), shape_substitute first whole,
          shape_substitute both whole, TypeShape.mapTypes_mapTypes, TypeShape.mapTypes_mapTypes,
          TypeShape.mapTypes_mapTypes]
        refine TypeShape.mapTypes_congr fun part mem => ih part mem (fun name mentions => ?_) ?_
        · by_cases own : ∃ parameter ∈ part.parameters, parameter.name = name
          · -- a name that the signature declares stands for itself, before and after
            obtain ⟨parameter, declared, rfl⟩ := own
            rw [Bindings.value_without_of_mem declared, Bindings.value_without_of_mem declared,
              textless_substitute_of_shape rfl, Bindings.value_without_of_mem declared]
          · have free : ∀ parameter ∈ part.parameters, parameter.name ≠ name := by simpa using own
            rw [Bindings.value_without_of_free free, Bindings.value_without_of_free free,
              ← makes name (.part mem free mentions)]
            exact textless_substitute_value_without free
              (fun parameter declared => apart parameter.name (.here mem declared rfl) name) second
        · intro name rebinds bound new found
          rw [Bindings.find?_without] at found
          split_ifs at found
          exact apart name (.part mem rebinds) bound new found
      · have known := shape_eq_unsupported_of_substitute whole
          (shape_eq_unsupported_of_substitute (shape_substitute_ne whole first) unknown)
        rw [substitute_of_unsupported known, substitute_of_unsupported known,
          substitute_of_unsupported known]

/-- Texts do not matter to a replacement. -/
theorem textless_substitute_textless (type : TypeExpr) (bindings : Bindings) :
    (type.textless.substitute bindings).textless = (type.substitute bindings).textless := by
  induction type using TypeExpr.induction_on_parts generalizing bindings with
  | step type ih =>
    by_cases whole : ∃ name, type.shape = .reference name []
    · obtain ⟨name, shape⟩ := whole
      have bare : type.textless.shape = .reference name [] := by
        rw [shape_textless, shape]
        rfl
      rw [textless_substitute_of_shape shape, textless_substitute_of_shape bare]
    · rw [not_exists] at whole
      have bare : ∀ name, type.textless.shape ≠ .reference name [] := by
        rw [shape_textless]
        exact TypeShape.mapTypes_ne_reference whole _
      refine textless_congr ?_ fun unknown => ?_
      · rw [shape_substitute bindings bare, shape_substitute bindings whole, shape_textless,
          TypeShape.mapTypes_mapTypes, TypeShape.mapTypes_mapTypes, TypeShape.mapTypes_mapTypes]
        exact TypeShape.mapTypes_congr fun part mem =>
          ih part mem (bindings.without part.parameters)
      · have bareKnown := shape_eq_unsupported_of_substitute bare unknown
        have known : type.shape = .unsupported := by
          rw [shape_textless] at bareKnown
          exact TypeShape.mapTypes_eq_unsupported.mp bareKnown
        rw [substitute_of_unsupported bareKnown, substitute_of_unsupported known, text_textless,
          known]
        rfl

/-! ### One replacement for two -/

/-- What the second replacement makes of what the first one has for a name is what the one has. -/
theorem textless_substitute_value (first second : Bindings) (name : String) :
    ((first.value name).substitute second).textless =
      ((first.andThen second).value name).textless := by
  rw [Bindings.value, Bindings.value, Bindings.find?_andThen]
  cases first.find? name with
  | some new => rfl
  | none => exact textless_substitute_of_shape rfl second

/-- Two replacements after each other are one, unless a signature in the type declares a type
parameter of a name that the first brings in. -/
theorem textless_substitute_andThen {type : TypeExpr} {first second : Bindings}
    (apart : ∀ name, type.Rebinds name →
      ∀ bound new, first.find? bound = some new → ¬ new.Mentions name) :
    ((type.substitute first).substitute second).textless =
      (type.substitute (first.andThen second)).textless := by
  apply textless_substitute_substitute
  · intro name _
    exact textless_substitute_value first second name
  · exact apart

/-- In `<K>(value: T) => K`, the `K` that is put in place of `T` is taken for that of the signature,
and no second replacement finds it any more. -/
example :
    let type : TypeExpr := .unwritten (.function ⟨[⟨"K", none, none⟩],
      [⟨"value", false, false, some (.reference "T" [])⟩], some (.reference "K" []), false, false⟩)
    let first : Bindings := [("T", .reference "K" [])]
    let second : Bindings := [("K", .keyword "string")]
    ((type.substitute first).substitute second).textless ≠
      (type.substitute (first.andThen second)).textless := by
  decide +kernel

/-- The type `<U>(value: T, key: K) => U`. -/
def converter : TypeExpr :=
  .unwritten (.function ⟨[⟨"U", none, none⟩],
    [⟨"value", false, false, some (.reference "T" [])⟩,
      ⟨"key", false, false, some (.reference "K" [])⟩],
    some (.reference "U" []), false, false⟩)

/-- The types in the example are under its type parameter and have no types in them. -/
theorem parts_converter : ∀ part ∈ converter.shape.parts,
    part.parameters = [⟨"U", none, none⟩] ∧ part.type.shape.parts = [] := by
  intro part mem
  have listed : converter.shape.parts = [⟨[⟨"U", none, none⟩], .reference "T" []⟩,
      ⟨[⟨"U", none, none⟩], .reference "K" []⟩, ⟨[⟨"U", none, none⟩], .reference "U" []⟩] := rfl
  rw [listed] at mem
  rcases List.mem_cons.mp mem with rfl | mem
  · exact ⟨rfl, rfl⟩
  rcases List.mem_cons.mp mem with rfl | mem
  · exact ⟨rfl, rfl⟩
  · obtain rfl := List.mem_singleton.mp mem
    exact ⟨rfl, rfl⟩

/-- Lists of `K` in place of `T`, and then words in place of `K` and numbers in place of `U`: this
makes `<U>(value: string[], key: string) => U`. -/
theorem textless_substitute_andThen_converter :
    (∀ name, converter.Rebinds name →
      ∀ bound new, Bindings.find? [("T", .unwritten (.array (.reference "K" [])))] bound = some new →
        ¬ new.Mentions name) ∧
      ((converter.substitute [("T", .unwritten (.array (.reference "K" [])))]).substitute
          [("K", .keyword "string"), ("U", .keyword "number")]).textless =
        (converter.substitute [("T", .unwritten (.array (.keyword "string"))),
          ("K", .keyword "string"), ("U", .keyword "number")]).textless := by
  have apart : ∀ name, converter.Rebinds name →
      ∀ bound new, Bindings.find? [("T", .unwritten (.array (.reference "K" [])))] bound = some new →
        ¬ new.Mentions name := by
    intro name rebinds bound new found mentions
    -- the signature declares nothing but `U`, and what is brought in mentions nothing but `K`
    have own : name = "U" := by
      cases rebinds with
      | here mem declared named =>
        have only := (parts_converter _ mem).1
        rw [only] at declared
        rw [← named, List.mem_singleton.mp declared]
      | part mem inner =>
        have whole := (parts_converter _ mem).2
        cases inner with
        | here inside => simp [whole] at inside
        | part inside => simp [whole] at inside
    have brought : new = .unwritten (.array (.reference "K" [])) := by
      rw [Bindings.find?, List.lookup_cons] at found
      split at found
      · exact (Option.some.inj found).symm
      · cases found
    subst own brought
    cases mentions with
    | here shape => cases shape
    | part mem free inner =>
      obtain rfl := List.mem_singleton.mp mem
      cases inner with
      | here shape => simp [reference, unwritten] at shape
      | part inside => cases inside
  exact ⟨apart, textless_substitute_andThen apart⟩

end TypeExpr

/-! ### Replacing names in members -/

namespace Member

/-- The object type with this member alone. What is said of types is said of members through it. -/
def alone (member : Member) : TypeExpr := .unwritten (.object [member] [])

/-- A member mentions a name if a type in it does, outside of signatures that declare it. -/
def Mentions (member : Member) (name : String) : Prop := member.alone.Mentions name

/-- A member rebinds a name if a signature in it declares a type parameter of that name. -/
def Rebinds (member : Member) (name : String) : Prop := member.alone.Rebinds name

/-- An object type with one member loses the texts that the member does. -/
theorem textless_alone (member : Member) : member.alone.textless = member.textless.alone := rfl

/-- Object types with one member are equal exactly if their members are. -/
theorem alone_inj {member other : Member} : member.alone = other.alone ↔ member = other := by
  simp [alone, TypeExpr.unwritten]

/-- Names are replaced in a member as they are in the object type with it. -/
theorem textless_substitute_alone (member : Member) (bindings : Bindings) :
    (member.alone.substitute bindings).textless = (member.substitute bindings).textless.alone := by
  have other : ∀ name, member.alone.shape ≠ .reference name [] := fun name same => by cases same
  have shape : (member.alone.substitute bindings).shape =
      (member.substitute bindings).alone.shape := by
    rw [TypeExpr.shape_substitute bindings other, Member.substitute_eq]
    rfl
  rw [← textless_alone]
  refine TypeExpr.textless_congr (by rw [shape]) fun unknown => ?_
  rw [shape] at unknown
  cases unknown

/-- Texts do not matter to a replacement. -/
theorem textless_substitute_congr {member other : Member} (same : member.textless = other.textless)
    (bindings : Bindings) :
    (member.substitute bindings).textless = (other.substitute bindings).textless := by
  rw [← alone_inj, ← textless_substitute_alone, ← textless_substitute_alone,
    ← TypeExpr.textless_substitute_textless, textless_alone, same, ← textless_alone,
    TypeExpr.textless_substitute_textless]

/-- In a member, too, two replacements are one. -/
theorem textless_substitute_substitute {member : Member} {first second both : Bindings}
    (makes : ∀ name, member.Mentions name →
      ((first.value name).substitute second).textless = (both.value name).textless)
    (apart : ∀ name, member.Rebinds name →
      ∀ bound new, first.find? bound = some new → ¬ new.Mentions name) :
    ((member.substitute first).substitute second).textless =
      (member.substitute both).textless := by
  rw [← alone_inj]
  calc ((member.substitute first).substitute second).textless.alone
      = ((member.substitute first).alone.substitute second).textless :=
        (textless_substitute_alone _ second).symm
    _ = ((member.substitute first).alone.textless.substitute second).textless :=
        (TypeExpr.textless_substitute_textless _ second).symm
    _ = ((member.alone.substitute first).textless.substitute second).textless := by
        rw [textless_substitute_alone member first, textless_alone]
    _ = ((member.alone.substitute first).substitute second).textless :=
        TypeExpr.textless_substitute_textless _ second
    _ = (member.alone.substitute both).textless :=
        TypeExpr.textless_substitute_substitute makes apart
    _ = (member.substitute both).textless.alone := textless_substitute_alone member both

end Member

end TypeAtlas
