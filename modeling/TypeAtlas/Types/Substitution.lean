import TypeAtlas.Types.Equality

/-!
Types in place of type parameters.

A replacement answers `none` if nothing in the type is replaced, so that a type that stays as it
is keeps its text, and every type around a replaced one loses the text it was written as.
-/

set_option autoImplicit false

namespace TypeAtlas

/-- Types for the names of type parameters. -/
abbrev Bindings := List (String × TypeExpr)

namespace Bindings

/-- The type for a name. -/
def find? (bindings : Bindings) (name : String) : Option TypeExpr := bindings.lookup name

/-- Whether there is a type for a name. -/
def binds (bindings : Bindings) (name : String) : Bool := (bindings.find? name).isSome

/-- The bindings that do not concern any of the type parameters. -/
def without (bindings : Bindings) (parameters : List TypeParameter) : Bindings :=
  bindings.filter fun binding => !parameters.any fun parameter => parameter.name == binding.1

/-- Each type parameter with its argument, else with its default, else with `unknown`. Of two
parameters with one name the later one counts. -/
def ofArguments : List TypeParameter → List TypeExpr → Bindings
  | [], _ => []
  | parameter :: parameters, arguments =>
    let rest := ofArguments parameters arguments.tail
    if rest.binds parameter.name then rest
    else
      let type := arguments.head? <|> parameter.fallback
      (parameter.name, type.getD (.keyword "unknown")) :: rest

end Bindings

/-- What a type became, unless it became itself again. -/
def TypeExpr.unlessSame (type : TypeExpr) (new : Option TypeExpr) : Option TypeExpr :=
  new.filter fun new => !new.same type

mutual

/-- The type with its parameters replaced, or `none` if it has none of them. -/
def TypeExpr.replaced? (bindings : Bindings) : TypeExpr → Option TypeExpr
  | ⟨.reference name arguments, _⟩ =>
    match arguments with
    | [] => bindings.find? name
    | _ :: _ => (replacedTypes? bindings arguments).map fun new => .unwritten (.reference name new)
  | ⟨.array element, _⟩ => (element.replaced? bindings).map fun new => .unwritten (.array new)
  | ⟨.tuple items, _⟩ => (replacedTypes? bindings items).map fun new => .unwritten (.tuple new)
  | ⟨.union items, _⟩ => (replacedTypes? bindings items).map fun new => .unwritten (.union new)
  | ⟨.intersection items, _⟩ =>
    (replacedTypes? bindings items).map fun new => .unwritten (.intersection new)
  | ⟨.function signature, _⟩ =>
    (signature.replaced? bindings).map fun new => .unwritten (.function new)
  | ⟨.object members signatures, _⟩ =>
    match replacedMembers? bindings members, replacedSignatures? bindings signatures with
    | none, none => none
    | newMembers, newSignatures =>
      some (.unwritten (.object (newMembers.getD members) (newSignatures.getD signatures)))
  | ⟨.indexedAccess object index, _⟩ =>
    match object.replaced? bindings, index.replaced? bindings with
    | none, none => none
    | newObject, newIndex =>
      some (.unwritten (.indexedAccess (newObject.getD object) (newIndex.getD index)))
  | ⟨.keyword _, _⟩ | ⟨.literal _, _⟩ | ⟨.this, _⟩ | ⟨.unsupported, _⟩ => none

def replacedType? (bindings : Bindings) : Option TypeExpr → Option TypeExpr
  | none => none
  | some type => type.replaced? bindings

def replacedTypes? (bindings : Bindings) : List TypeExpr → Option (List TypeExpr)
  | [] => none
  | type :: types =>
    match type.replaced? bindings, replacedTypes? bindings types with
    | none, none => none
    | newType, newTypes => some (newType.getD type :: newTypes.getD types)

def replacedParameters? (bindings : Bindings) : List Parameter → Option (List Parameter)
  | [] => none
  | ⟨name, optional, rest, type⟩ :: parameters =>
    match replacedType? bindings type, replacedParameters? bindings parameters with
    | none, none => none
    | newType, newParameters =>
      some (⟨name, optional, rest, newType <|> type⟩ :: newParameters.getD parameters)

/-- A signature with its free type parameters replaced. The ones it declares itself are its
own. -/
def Signature.replaced? (bindings : Bindings) : Signature → Option Signature
  | ⟨typeParameters, parameters, returnType, hasBody, ofMember⟩ =>
    let free := bindings.without typeParameters
    match replacedParameters? free parameters, replacedType? free returnType with
    | none, none => none
    | newParameters, newReturnType =>
      some ⟨typeParameters, newParameters.getD parameters, newReturnType <|> returnType, hasBody,
        ofMember⟩

def replacedSignatures? (bindings : Bindings) : List Signature → Option (List Signature)
  | [] => none
  | signature :: signatures =>
    match signature.replaced? bindings, replacedSignatures? bindings signatures with
    | none, none => none
    | newSignature, newSignatures =>
      some (newSignature.getD signature :: newSignatures.getD signatures)

/-- A member with type parameters replaced. A replacement by an equal type does not count. -/
def Member.replaced? (bindings : Bindings) : Member → Option Member
  | ⟨name, optional, readonly, form, span, origin⟩ =>
    let newForm : Option MemberForm := match form with
      | .property none | .getter none | .setter none | .setter (some ⟨_, _, _, none⟩) => none
      | .property (some type) =>
        (type.unlessSame (type.replaced? bindings)).map fun new => .property (some new)
      | .getter (some type) =>
        (type.unlessSame (type.replaced? bindings)).map fun new => .getter (some new)
      | .setter (some ⟨parameter, left, rest, some type⟩) =>
        (type.unlessSame (type.replaced? bindings)).map fun new =>
          .setter (some ⟨parameter, left, rest, some new⟩)
      | .method signatures => (replacedSignatures? bindings signatures).map .method
    newForm.map fun form => ⟨name, optional, readonly, form, span, origin⟩

def replacedMembers? (bindings : Bindings) : List Member → Option (List Member)
  | [] => none
  | member :: members =>
    match member.replaced? bindings, replacedMembers? bindings members with
    | none, none => none
    | newMember, newMembers => some (newMember.getD member :: newMembers.getD members)

end

/-- The type with its parameters replaced. -/
def TypeExpr.substitute (bindings : Bindings) (type : TypeExpr) : TypeExpr :=
  (type.replaced? bindings).getD type

/-- The member with type parameters replaced. -/
def Member.substitute (bindings : Bindings) (member : Member) : Member :=
  (member.replaced? bindings).getD member

end TypeAtlas
