import TypeAtlas.Proofs.Tree.Rounds
import TypeAtlas.Types.OfTree

/-!
# What is returned without an annotation

A method with a body and no annotated type is read as one that returns `any` or `void`, and a
promise of this if it is asynchronous. It is `any` exactly if a `return` with a value can be reached
from the body: through named nodes that are no comments, and without entering a node of a function
or a class (`Node.Returns`). A loop looks for it with a stack of nodes and stops at the first one
that it finds. Whether there is one at or below the nodes on the stack stays the same in every round
(`Node.endsWith_searchRound`).

Main statement: `Node.infersReturns`. The kinds of nodes that are not entered do not contain that of
abstract classes. If there is none in the body, no function, method or class is entered
(`Node.WithoutAbstract.returns_iff`). But a `return` in the static block of an abstract class counts
as one of the method around it (`Node.returnsValue_aroundAbstract`).
-/

set_option autoImplicit false

namespace TypeAtlas

namespace Node

/-! ### Values that are returned -/

/-- A `return` with something named in it that is no comment. -/
def IsValueReturn (node : Node) : Prop :=
  node.kind = .returnStatement ∧
    ∃ child ∈ node.children, child.kind.isNamed = true ∧ child.kind ≠ .comment

/-- A node leads to another one through named nodes that are no comments and not of the barred
kinds. Its own kind does not matter. -/
inductive Reaches (barred : List Kind) : Node → Node → Prop
  | here (node : Node) : Reaches barred node node
  | child {node child last : Node} (mem : child ∈ node.children) (isNamed : child.kind.isNamed = true)
      (noComment : child.kind ≠ .comment) (free : child.kind ∉ barred)
      (later : Reaches barred child last) : Reaches barred node last

/-- In the body a value is returned, not counting what is in nodes of the barred kinds. -/
def Returns (barred : List Kind) (body : Node) : Prop :=
  ∃ node, body.Reaches barred node ∧ node.IsValueReturn

/-- The kinds of nodes that are functions, methods or classes of their own. -/
def closedKinds : List Kind := .abstractClassDeclaration :: functionKinds

/-- Nowhere in the body is there an abstract class that could be entered. -/
def WithoutAbstract (body : Node) : Prop :=
  ∀ node, body.Reaches functionKinds node →
    ∀ child ∈ node.children, child.kind ≠ .abstractClassDeclaration

/-- With fewer kinds barred a node leads to all that it led to. -/
theorem Reaches.mono {barred fewer : List Kind} (subset : fewer ⊆ barred) {node last : Node}
    (h : Reaches barred node last) : Reaches fewer node last := by
  induction h with
  | here => exact .here _
  | child mem isNamed noComment free _ ih =>
    exact .child mem isNamed noComment (fun kept => free (subset kept)) ih

/-- Where there is no abstract class, it does not matter whether abstract classes are entered. -/
theorem WithoutAbstract.reaches_closedKinds {body node : Node} (none : body.WithoutAbstract)
    (h : body.Reaches functionKinds node) : body.Reaches closedKinds node := by
  induction h with
  | here => exact .here _
  | child mem isNamed noComment free _ ih =>
    refine .child mem isNamed noComment ?_ (ih fun inner reached => ?_)
    · exact List.not_mem_cons_of_ne_of_not_mem (none _ (.here _) _ mem) free
    · exact none inner (.child mem isNamed noComment free reached)

/-- Without abstract classes to enter, it makes no difference whether these are barred. -/
theorem WithoutAbstract.returns_iff {body : Node} (none : body.WithoutAbstract) :
    body.Returns functionKinds ↔ body.Returns closedKinds :=
  exists_congr fun _ => and_congr_left' ⟨none.reaches_closedKinds, .mono (List.subset_cons_self _ _)⟩

/-- There is a first named node exactly if some child is named and no comment. -/
theorem isSome_firstNamed? (node : Node) :
    node.firstNamed?.isSome = true ↔
      ∃ child ∈ node.children, child.kind.isNamed = true ∧ child.kind ≠ .comment := by
  have listed : node.firstNamed?.isSome = node.namedNodes.head?.isSome := by
    rw [firstNamed?, namedNodes, List.head?_map, Option.isSome_map]
  simp only [← mem_namedNodes, listed, List.isSome_head?]
  exact ⟨List.exists_mem_of_ne_nil _, fun ⟨_, mem⟩ => List.ne_nil_of_mem mem⟩

/-- The nodes at which the search goes on: the named children that are no functions and no
classes. -/
def searched (node : Node) : List Node :=
  node.namedNodes.filter fun child => !functionKinds.contains child.kind

/-- The search goes on at a child exactly if it is named, no comment, no function and no class. -/
theorem mem_searched {node child : Node} :
    child ∈ node.searched ↔ child ∈ node.children ∧ child.kind.isNamed = true ∧
      child.kind ≠ .comment ∧ child.kind ∉ functionKinds := by
  simp [searched, mem_namedNodes, and_assoc]

/-- A value is returned by the node itself or from one at which the search goes on. -/
theorem returnsValue_eq (node : Node) :
    node.returnsValue =
      ((node.kind == .returnStatement && node.firstNamed?.isSome) ||
        node.searched.any returnsValue) := by
  rw [returnsValue, searched, namedNodes, List.any_filter, List.any_map]
  rfl

/-- The search finds whether a value is returned in a body outside of nested functions and the
classes that are barred. -/
theorem returnsValue_iff (body : Node) :
    body.returnsValue = true ↔ body.Returns functionKinds := by
  rw [returnsValue_eq, Bool.or_eq_true, Bool.and_eq_true, beq_iff_eq, isSome_firstNamed?, List.any_eq_true]
  constructor
  · rintro (own | ⟨child, mem, returned⟩)
    · exact ⟨body, .here body, own⟩
    · obtain ⟨inside, isNamed, noComment, free⟩ := mem_searched.mp mem
      have := sizeOf_lt_of_mem inside
      obtain ⟨node, reached, value⟩ := (returnsValue_iff child).mp returned
      exact ⟨node, .child inside isNamed noComment free reached, value⟩
  · rintro ⟨node, reached, value⟩
    cases reached with
    | here => exact .inl value
    | @child _ child _ mem isNamed noComment free later =>
      have := sizeOf_lt_of_mem mem
      exact .inr ⟨child, mem_searched.mpr ⟨mem, isNamed, noComment, free⟩,
        (returnsValue_iff child).mpr ⟨node, later, value⟩⟩
termination_by sizeOf body

/-! ### The loop -/

/-- Takes a node from the stack. The search is over if it returns a value, and else goes on below
it. -/
def searchRound : List Node → Round (List Node) Bool
  | [] => .stop false
  | node :: rest =>
    if node.kind == .returnStatement && node.firstNamed?.isSome then .stop true
    else .next (push rest node.searched)

/-- The loop ends, and tells whether a value is returned at or below the nodes on the stack. -/
theorem endsWith_searchRound (pending : List Node) :
    EndsWith searchRound pending (pending.any returnsValue) := by
  refine endsWith_of_invariant (fun pending => pending.any returnsValue) load ?stops ?keeps ?shrinks pending
  case stops =>
    rintro (_ | ⟨node, rest⟩) answer stopped
    · cases stopped
      rfl
    · rw [searchRound] at stopped
      split_ifs at stopped with value
      cases stopped
      rw [List.any_cons, returnsValue_eq, value, Bool.true_or, Bool.true_or]
  case keeps =>
    rintro (_ | ⟨node, rest⟩) after continued
    · cases continued
    · rw [searchRound] at continued
      split_ifs at continued with value
      cases continued
      rw [push_eq, List.any_append, List.any_reverse, List.any_cons, returnsValue_eq node,
        Bool.eq_false_of_not_eq_true value, Bool.false_or]
  case shrinks =>
    rintro (_ | ⟨node, rest⟩) after continued
    · cases continued
    · rw [searchRound] at continued
      split_ifs at continued
      cases continued
      exact load_push_lt List.filter_sublist.subperm rest

/-! ### Methods -/

/-- The type, or a promise of it. -/
def promised (isAsync : Bool) (type : TypeExpr) : TypeExpr :=
  if isAsync then .reference "Promise" [type] else type

/-- The type is what a function with the body returns: `any` if a value is returned in it, `void` if
none is, and a promise of this if the function is asynchronous. What is in nodes of the barred kinds
does not count. -/
structure IsReturned (barred : List Kind) (body : Node) (isAsync : Bool) (type : TypeExpr) : Prop where
  any : body.Returns barred → type = promised isAsync (.keyword "any")
  void : ¬ body.Returns barred → type = promised isAsync (.keyword "void")

/-- What is inferred for a function is what one with its body returns. -/
theorem isReturned_inferredReturn (body : Node) (isAsync : Bool) :
    body.IsReturned functionKinds isAsync (promised isAsync (inferredReturn body)) where
  any returned := by rw [inferredReturn, if_pos (body.returnsValue_iff.mpr returned)]
  void none := by rw [inferredReturn, if_neg (mt body.returnsValue_iff.mp none)]

/-- Without abstract classes to enter, what is returned is the same if these are barred. -/
theorem WithoutAbstract.isReturned {body : Node} (none : body.WithoutAbstract) {isAsync : Bool}
    {type : TypeExpr} (h : body.IsReturned functionKinds isAsync type) :
    body.IsReturned closedKinds isAsync type where
  any returned := h.any (none.returns_iff.mpr returned)
  void silent := h.void (mt none.returns_iff.mp silent)

/-- The form of a method with a signature, given what it returns. -/
def methodForm (modifiers : Modifiers) (signature : Signature) (type : TypeExpr) : MemberForm :=
  if modifiers.isSetter then .setter signature.parameters.head?
  else if modifiers.isGetter then .getter (some type)
  else .method [{ signature with returnType := some type, ofMember := true }]

/-- Without an annotation, what the body returns is promised exactly if the method is
asynchronous. -/
theorem toMethod?_of_unannotated {node : Node} {signature : Signature}
    {body : { child : Node // child ∈ node.children }} (unannotated : signature.returnType = none)
    (bodied : node.part? .body = some body) :
    node.toMethod? signature = node.toMember?
      (methodForm node.modifiers signature (promised node.modifiers.isAsync (inferredReturn body.1))) := by
  rw [toMethod?, unannotated, bodied]
  cases node.modifiers.isAsync <;> rfl

/-- The search for a `return` in a body ends. It finds one exactly if there is one outside of the
functions and the classes in the body, as long as no class is abstract. So a method with this body
and without an annotation is read as one that returns what the body tells. -/
theorem infersReturns (body : Node) :
    EndsWith searchRound [body] body.returnsValue ∧
      (body.returnsValue = true ↔ body.Returns functionKinds) ∧
        (body.WithoutAbstract → (body.returnsValue = true ↔ body.Returns closedKinds)) ∧
          ∀ (node : Node) (inside : body ∈ node.children) (signature : Signature),
            signature.returnType = none → node.part? .body = some ⟨body, inside⟩ →
              ∃ type, body.IsReturned functionKinds node.modifiers.isAsync type ∧
                (body.WithoutAbstract → body.IsReturned closedKinds node.modifiers.isAsync type) ∧
                  node.toMethod? signature =
                    node.toMember? (methodForm node.modifiers signature type) := by
  refine ⟨?_, body.returnsValue_iff, fun none => ?_, fun node inside signature unannotated bodied => ?_⟩
  · have ends := endsWith_searchRound [body]
    rwa [List.any_cons, List.any_nil, Bool.or_false] at ends
  · rw [returnsValue_iff, none.returns_iff]
  · have returned := body.isReturned_inferredReturn node.modifiers.isAsync
    exact ⟨_, returned, fun none => none.isReturned returned, toMethod?_of_unannotated unannotated bodied⟩

/-! ### Methods around a `return` -/

/-- A node of which only the kind, the role and the children matter. -/
def sketch (kind : Kind) (role : Option Role) (children : List Node) : Node :=
  ⟨kind, role, default, "", false, children⟩

/-- The statements between braces. -/
def block (statements : List Node) : Node :=
  sketch .statementBlock (some .body)
    (sketch (.token "\x7b") none [] :: (statements ++ [sketch (.token "\x7d") none []]))

/-- The statement `return 1;`. -/
def returnOne : Node :=
  sketch .returnStatement none
    [sketch (.token "return") none [], sketch .number none [], sketch (.token ";") none []]

/-- The method `m()`, after the word `async` or without it. -/
def methodNamedM (isAsync : Bool) (body : Node) : Node :=
  sketch .methodDefinition none
    ((if isAsync then [sketch (.token "async") none []] else []) ++
      [⟨.propertyIdentifier, some .name, ⟨⟨1, 6, 6⟩, ⟨1, 7, 7⟩⟩, "m", false, []⟩,
        sketch .formalParameters (some .parameters) [], body])

/-- A property named `m` that is a method and returns the type. -/
def memberNamedM (type : TypeExpr) : Member :=
  ⟨"m", false, false, .method [⟨[], [], some type, true, true⟩], default, .own⟩

/-- In the block of the example there is no abstract class. -/
theorem withoutAbstract_block : (block [returnOne]).WithoutAbstract := by
  intro node reached
  have met : node = block [returnOne] ∨ node = returnOne ∨ node = sketch .number none [] := by
    cases reached with
    | here => exact .inl rfl
    | child mem isNamed _ _ later =>
      obtain rfl | rfl | rfl := by simpa [block, sketch] using mem
      · exact absurd isNamed (by decide)
      · cases later with
        | here => exact .inr (.inl rfl)
        | child mem isNamed _ _ later =>
          obtain rfl | rfl | rfl := by simpa [returnOne, sketch] using mem
          · exact absurd isNamed (by decide)
          · cases later with
            | here => exact .inr (.inr rfl)
            | child mem => cases mem
          · exact absurd isNamed (by decide)
      · exact absurd isNamed (by decide)
  rcases met with rfl | rfl | rfl <;> decide

/-- The method `async m() { return 1; }` is read as one that returns a promise of anything. -/
theorem infersReturns_async :
    (block [returnOne]).WithoutAbstract ∧ (block [returnOne]).Returns closedKinds ∧
      ((methodNamedM true (block [returnOne])).toSignature true).returnType = none ∧
        ((methodNamedM true (block [returnOne])).part? .body).map (·.1) = some (block [returnOne]) ∧
          (methodNamedM true (block [returnOne])).toMethod?
              ((methodNamedM true (block [returnOne])).toSignature true) =
            some (memberNamedM (.reference "Promise" [.keyword "any"])) := by
  have unannotated : ((methodNamedM true (block [returnOne])).toSignature true).returnType = none := by
    cbv
  have bodied : ((methodNamedM true (block [returnOne])).part? .body).map (·.1) =
      some (block [returnOne]) := by cbv
  have isReturn : returnOne.IsValueReturn :=
    ⟨rfl, sketch .number none [], by simp [returnOne, sketch], rfl, by decide⟩
  have returns : (block [returnOne]).Returns closedKinds :=
    ⟨returnOne, .child (by simp [block, sketch]) rfl (by decide) (by decide) (.here _), isReturn⟩
  obtain ⟨-, -, -, method⟩ := infersReturns (block [returnOne])
  obtain ⟨⟨_, inside⟩, found, rfl⟩ := Option.map_eq_some_iff.mp bodied
  obtain ⟨type, -, returned, read⟩ := method _ inside _ unannotated found
  rw [(returned withoutAbstract_block).any returns] at read
  refine ⟨withoutAbstract_block, returns, unannotated, bodied, read.trans ?_⟩
  cbv

/-- The body `{ abstract class { static { return 1; } } }`. -/
def aroundAbstract : Node :=
  block [sketch .abstractClassDeclaration none
    [sketch .classBody (some .body) [sketch .classStaticBlock none [block [returnOne]]]]]

/-- Nothing is returned in this body outside of the class, and yet the method is read as one that
returns anything: abstract classes are entered. -/
theorem returnsValue_aroundAbstract :
    ¬ aroundAbstract.Returns closedKinds ∧
      aroundAbstract.returnsValue = true ∧
        (methodNamedM false aroundAbstract).toMethod?
            ((methodNamedM false aroundAbstract).toSignature true) =
          some (memberNamedM (.keyword "any")) := by
  refine ⟨?_, by cbv, by cbv⟩
  rintro ⟨node, reached, value⟩
  cases reached with
  | here => exact absurd value.1 (by decide)
  | child mem isNamed noComment free later =>
    simp only [aroundAbstract, block, sketch, List.mem_cons, List.mem_append, List.not_mem_nil,
      or_false] at mem
    rcases mem with rfl | rfl | rfl
    · exact absurd isNamed (by decide)
    · exact free List.mem_cons_self
    · exact absurd isNamed (by decide)

end Node

end TypeAtlas
