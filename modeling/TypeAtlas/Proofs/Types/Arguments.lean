import Mathlib.Data.List.Basic
import TypeAtlas.Types.Substitution

/-!
# Arguments in place of type parameters

What stands for the name of a type parameter is its argument, else its default, else `unknown`, and
of two type parameters with one name the last one counts (`Bindings.find?_ofArguments_cons`).
-/

set_option autoImplicit false

namespace TypeAtlas

namespace Bindings

/-- Of the type parameters with a name the last one counts. -/
theorem find?_ofArguments_cons (parameter : TypeParameter) (rest : List TypeParameter)
    (arguments : List TypeExpr) (name : String) :
    (ofArguments (parameter :: rest) arguments).find? name =
      ((ofArguments rest arguments.tail).find? name <|>
        if name = parameter.name then
          some ((arguments.head? <|> parameter.fallback).getD (.keyword "unknown"))
        else none) := by
  have cons (bindings : Bindings) (type : TypeExpr) :
      find? ((parameter.name, type) :: bindings) name =
        if name = parameter.name then some type else bindings.find? name := by
    rw [find?, List.lookup_cons]
    by_cases same : name = parameter.name
    · simp [same]
    · rw [beq_false_of_ne same, if_neg same, find?]
  rw [ofArguments]
  by_cases bound : (ofArguments rest arguments.tail).binds parameter.name
  · obtain ⟨type, found⟩ := Option.isSome_iff_exists.mp bound
    rw [if_pos bound]
    by_cases same : name = parameter.name
    · simp [same, found]
    · simp [same]
  · have unbound := Option.not_isSome_iff_eq_none.mp bound
    rw [if_neg bound, cons]
    by_cases same : name = parameter.name
    · simp [same, unbound]
    · simp [same]

/-- Where there is an argument for every type parameter, changing the arguments changes what stands
for the type parameters. -/
theorem find?_ofArguments_map (change : TypeExpr → TypeExpr) (name : String) :
    {parameters : List TypeParameter} → {arguments : List TypeExpr} →
      parameters.length ≤ arguments.length →
        (ofArguments parameters (arguments.map change)).find? name =
          ((ofArguments parameters arguments).find? name).map change
  | [], _, _ => rfl
  | parameter :: rest, argument :: arguments, enough => by
      have tail : (ofArguments rest (arguments.map change)).find? name =
          ((ofArguments rest arguments).find? name).map change :=
        find?_ofArguments_map change name (by simpa using enough)
      rw [find?_ofArguments_cons, find?_ofArguments_cons, List.map_cons, List.tail_cons,
        List.tail_cons, tail]
      cases (ofArguments rest arguments).find? name with
      | some type => rfl
      | none => by_cases same : name = parameter.name <;> simp [same]

/-- Something stands for every type parameter. -/
theorem isSome_find?_ofArguments {parameter : TypeParameter} :
    {parameters : List TypeParameter} → parameter ∈ parameters → ∀ arguments,
      ((ofArguments parameters arguments).find? parameter.name).isSome
  | first :: rest, mem, arguments => by
      rw [find?_ofArguments_cons]
      rcases List.mem_cons.mp mem with rfl | later
      · simp
      · have tail := isSome_find?_ofArguments later arguments.tail
        simp [tail]

/-- What stands for a type parameter is the argument at its place, else its default, else
`unknown`. -/
theorem exists_of_find?_ofArguments {name : String} {type : TypeExpr} :
    {parameters : List TypeParameter} → {arguments : List TypeExpr} →
      (ofArguments parameters arguments).find? name = some type →
        ∃ (place : Nat) (parameter : TypeParameter), parameters[place]? = some parameter ∧
          parameter.name = name ∧
            (arguments[place]? <|> parameter.fallback).getD (.keyword "unknown") = type
  | [], _, found => by cases found
  | parameter :: rest, arguments, found => by
      rw [find?_ofArguments_cons] at found
      cases later : (ofArguments rest arguments.tail).find? name with
      | some new =>
        obtain rfl : new = type := by simpa [later] using found
        obtain ⟨place, other, listed, named, stands⟩ := exists_of_find?_ofArguments later
        exact ⟨place + 1, other, by simpa using listed, named, by simpa using stands⟩
      | none =>
        obtain ⟨rfl, stands⟩ : name = parameter.name ∧
            (arguments.head? <|> parameter.fallback).getD (.keyword "unknown") = type := by
          simpa [later] using found
        exact ⟨0, parameter, rfl, rfl, by rwa [← List.head?_eq_getElem?]⟩

/-- What stands for a type parameter is one of the arguments. -/
theorem mem_of_find?_ofArguments {name : String} {type : TypeExpr}
    {parameters : List TypeParameter} {arguments : List TypeExpr}
    (enough : parameters.length ≤ arguments.length)
    (found : (ofArguments parameters arguments).find? name = some type) : type ∈ arguments := by
  obtain ⟨place, parameter, listed, _, rfl⟩ := exists_of_find?_ofArguments found
  have short : place < arguments.length :=
    Nat.lt_of_lt_of_le (List.getElem?_eq_some_iff.mp listed).1 enough
  rw [List.getElem?_eq_getElem short]
  exact List.getElem_mem short

/-- What stands for a type parameter is an argument, a default or `unknown`. -/
theorem forall_find?_ofArguments {holds : TypeExpr → Prop} (unknown : holds (.keyword "unknown"))
    {name : String} {type : TypeExpr} {parameters : List TypeParameter} {arguments : List TypeExpr}
    (fallbacks : ∀ parameter ∈ parameters, ∀ fallback ∈ parameter.fallback, holds fallback)
    (given : ∀ argument ∈ arguments, holds argument)
    (found : (ofArguments parameters arguments).find? name = some type) : holds type := by
  obtain ⟨place, parameter, listed, _, rfl⟩ := exists_of_find?_ofArguments found
  cases argument : arguments[place]? with
  | some argument => exact given _ (List.mem_of_getElem? (by assumption))
  | none =>
    cases written : parameter.fallback with
    | some fallback => exact fallbacks parameter (List.mem_of_getElem? listed) fallback written
    | none => exact unknown

end Bindings

end TypeAtlas
