import Mathlib.Logic.Relation
import Mathlib.Order.WellFounded
import TypeAtlas.Proofs.Declarations.Fuel

/-!
# Which questions about types have an answer

What a type stands for, what a property is and what an indexed access yields are asked of a scope
in turn: answering one question asks others (`Scope.Asks`). Each question starts to count its hops
anew, so the limit on hops does not bound how deeply questions are nested.

A question has an answer exactly if there is no endless chain of questions, starting with it, each
of which is asked in answering the one before (`Scope.answered_iff_no_endless_chain`). An alias that
is indexed in its own definition makes such a chain once the limit allows for two hops, however high
it is (`Scope.not_answered_indexedItself`).
-/

set_option autoImplicit false

namespace TypeAtlas

/-- A question about types. -/
inductive Question where
  /-- What does the type stand for? -/
  | apparent (type : TypeExpr)
  /-- What is the type of the property? -/
  | property (type : TypeExpr) (name : String)
  /-- What does the indexed access yield? -/
  | access (object index : TypeExpr)

namespace Scope

variable (scope : Scope)

/-! ### Answers -/

/-- What is asked of each item for a property of a union or an intersection. -/
def propertyOf (name : String) (fuel : Nat) (type : TypeExpr) :
    Except Unanswered (Option TypeExpr) :=
  scope.propertyWithin fuel type name

/-- What a type is replaced by. -/
def hopWithin (fuel : Nat) (type : TypeExpr) : Except Unanswered (Option TypeExpr) :=
  scope.hop (scope.accessWithin fuel) type

/-- What a key selects. -/
def selectWithin (object : TypeExpr) (fuel : Nat) (key : TypeExpr) :
    Except Unanswered (Option TypeExpr) :=
  select (scope.propertyWithin fuel) (scope.apparentWithin fuel) object key

/-- The question has an answer with this fuel. -/
def AnsweredWithin (fuel : Nat) : Question → Prop
  | .apparent type => ∃ answer, scope.apparentWithin fuel type = .ok answer
  | .property type name => ∃ answer, scope.propertyWithin fuel type name = .ok answer
  | .access object index => ∃ answer, scope.accessWithin fuel object index = .ok answer

/-- The question has an answer: it is answered after finitely many questions. -/
def Answered (question : Question) : Prop := ∃ fuel, scope.AnsweredWithin fuel question

/-- The questions that are asked in answering a question. -/
inductive Asks : Question → Question → Prop
  /-- An indexed access that a type comes to stand for before the limit is reached. -/
  | hop {type here object index : TypeExpr} {taken : Nat} (few : taken < scope.hops)
      (steps : Steps scope.hopWithin taken type here)
      (shape : here.shape = .indexedAccess object index) :
      Asks (.apparent type) (.access object index)
  | subject (type : TypeExpr) (name : String) : Asks (.property type name) (.apparent type)
  | operand {type apparent item : TypeExpr} {name : String} {items : List TypeExpr}
      (standsFor : Ever scope.apparentWithin type apparent) (shape : apparent.shape = .union items)
      (reached : Reached (scope.propertyOf name) (fun _ => True) items item) :
      Asks (.property type name) (.property item name)
  | part {type apparent item : TypeExpr} {name : String} {items : List TypeExpr}
      (standsFor : Ever scope.apparentWithin type apparent)
      (shape : apparent.shape = .intersection items)
      (reached : Reached (scope.propertyOf name) (· = none) items item) :
      Asks (.property type name) (.property item name)
  | index (object index : TypeExpr) : Asks (.access object index) (.apparent index)
  | key {object index apparent key : TypeExpr} {spelling : String}
      (standsFor : Ever scope.apparentWithin index apparent)
      (reached : Reached (scope.selectWithin object) (·.isSome)
        (apparent.operands?.getD [apparent]) key)
      (shape : key.shape = .literal spelling) :
      Asks (.access object index) (.property object (Text.unquoted spelling))
  | elements {object index apparent key : TypeExpr}
      (standsFor : Ever scope.apparentWithin index apparent)
      (reached : Reached (scope.selectWithin object) (·.isSome)
        (apparent.operands?.getD [apparent]) key)
      (shape : key.shape = .keyword "number") : Asks (.access object index) (.apparent object)

/-! ### More fuel -/

/-- If answers to indexed accesses are extended, so is what replaces a type. -/
theorem hop_mono {more less : TypeExpr → TypeExpr → Except Unanswered (Option TypeExpr)}
    (h : ∀ object index, Extends (more object index) (less object index)) (type : TypeExpr) :
    Extends (scope.hop more type) (scope.hop less type) := by
  intro answer given
  unfold hop at given ⊢
  split at given
  · exact given
  · exact h _ _ _ given
  · exact given

/-- If answers about properties and about what types stand for are extended, so is what a key
selects. -/
theorem select_mono {more less : TypeExpr → String → Except Unanswered (Option TypeExpr)}
    {moreApparent lessApparent : TypeExpr → Except Unanswered TypeExpr}
    (hp : ∀ type name, Extends (more type name) (less type name))
    (ha : ∀ type, Extends (moreApparent type) (lessApparent type)) (object key : TypeExpr) :
    Extends (select more moreApparent object key) (select less lessApparent object key) := by
  intro answer given
  unfold select at given ⊢
  split at given
  · exact hp _ _ _ given
  · exact (ha object).map _ _ given
  · exact given

/-- The three functions with fuel answer the same with more fuel. -/
structure GrowsAt (fuel : Nat) : Prop where
  apparent : ∀ type, Extends (scope.apparentWithin (fuel + 1) type) (scope.apparentWithin fuel type)
  property : ∀ type name,
    Extends (scope.propertyWithin (fuel + 1) type name) (scope.propertyWithin fuel type name)
  access : ∀ object index,
    Extends (scope.accessWithin (fuel + 1) object index) (scope.accessWithin fuel object index)

/-- One more unit of fuel leaves every answer as it is, for all three questions: by induction on the
fuel, for each question asks the others with less. -/
theorem growsAt : (fuel : Nat) → scope.GrowsAt fuel
  | 0 =>
    { apparent := fun _ _ given => by cases given
      property := fun _ _ _ given => by cases given
      access := fun _ _ _ given => by cases given }
  | fuel + 1 => by
      have ih := growsAt fuel
      refine ⟨fun type answer given => ?_, fun type name answer given => ?_,
        fun object index answer given => ?_⟩
      · rw [apparentWithin] at given ⊢
        exact settle_mono (scope.hop_mono ih.access) _ _ _ given
      · rw [propertyWithin] at given ⊢
        cases stands : scope.apparentWithin fuel type with
        | error why => simp [stands] at given
        | ok apparent =>
          simp only [stands] at given
          simp only [ih.apparent type apparent stands]
          cases shape : apparent.shape <;> simp only [shape] at given ⊢
          case union items =>
            have grown := collect_mono (fun item => ih.property item name) items
            exact grown.map _ _ given
          case intersection items =>
            exact firstAnswer_mono (fun item => ih.property item name) _ _ given
          all_goals exact given
      · rw [accessWithin] at given ⊢
        cases stands : scope.apparentWithin fuel index with
        | error why => simp [stands] at given
        | ok apparent =>
          simp only [stands] at given
          simp only [ih.apparent index apparent stands]
          have grown := collectAll_mono (select_mono ih.property ih.apparent object)
            (apparent.operands?.getD [apparent])
          exact grown.map _ _ given

/-- More fuel never changes what a type stands for. -/
theorem apparentWithin_growing : Growing scope.apparentWithin := fun fuel =>
  (scope.growsAt fuel).apparent

/-- More fuel never changes the property of an item. -/
theorem propertyOf_growing (name : String) : Growing (scope.propertyOf name) := fun fuel type =>
  (scope.growsAt fuel).property type name

/-- More fuel never changes what replaces a type. -/
theorem hopWithin_growing : Growing scope.hopWithin := fun fuel =>
  scope.hop_mono (scope.growsAt fuel).access

/-- More fuel never changes what a key selects. -/
theorem selectWithin_growing (object : TypeExpr) : Growing (scope.selectWithin object) :=
  fun fuel => select_mono (scope.growsAt fuel).property (scope.growsAt fuel).apparent object

variable {scope} in
/-- A question that is answered is answered with more fuel. -/
theorem AnsweredWithin.le {fuel more : Nat} {question : Question}
    (h : scope.AnsweredWithin fuel question) (enough : fuel ≤ more) :
    scope.AnsweredWithin more question := by
  induction enough with
  | refl => exact h
  | @step more _ ih =>
    have grows := scope.growsAt more
    cases question with
    | apparent type => exact ih.imp (grows.apparent type)
    | property type name => exact ih.imp (grows.property type name)
    | access object index => exact ih.imp (grows.access object index)

/-! ### Questions that are asked -/

variable {scope}

/-- Before a property is looked for, it is found what the type stands for. -/
theorem apparent_of_propertyWithin {fuel : Nat} {type : TypeExpr} {name : String}
    {answer : Option TypeExpr} (h : scope.propertyWithin (fuel + 1) type name = .ok answer) :
    ∃ apparent, scope.apparentWithin fuel type = .ok apparent := by
  rw [propertyWithin] at h
  cases stands : scope.apparentWithin fuel type with
  | error why => simp [stands] at h
  | ok apparent => exact ⟨apparent, rfl⟩

/-- Before an access is looked up, it is found what the index stands for. -/
theorem apparent_of_accessWithin {fuel : Nat} {object index : TypeExpr}
    {answer : Option TypeExpr} (h : scope.accessWithin (fuel + 1) object index = .ok answer) :
    ∃ apparent, scope.apparentWithin fuel index = .ok apparent := by
  rw [accessWithin] at h
  cases stands : scope.apparentWithin fuel index with
  | error why => simp [stands] at h
  | ok apparent => exact ⟨apparent, rfl⟩

/-- The keys that are got to select something with the fuel for the access, but one. -/
theorem selectWithin_of_accessWithin {fuel : Nat} {object index apparent key : TypeExpr}
    {answer : Option TypeExpr} (h : scope.accessWithin (fuel + 1) object index = .ok answer)
    (standsFor : Ever scope.apparentWithin index apparent)
    (reached : Reached (scope.selectWithin object) (·.isSome)
      (apparent.operands?.getD [apparent]) key) :
    ∃ found, scope.selectWithin object fuel key = .ok found := by
  obtain ⟨found, stands⟩ := apparent_of_accessWithin h
  obtain rfl : found = apparent := scope.apparentWithin_growing.unique ⟨fuel, stands⟩ standsFor
  rw [accessWithin] at h
  simp only [stands] at h
  obtain ⟨all, given⟩ := exists_of_map_ok h
  exact collectAll_asked (scope.selectWithin_growing object) given reached

/-- With the fuel for a question, but one, the questions are answered that it asks. -/
theorem AnsweredWithin.asked {fuel : Nat} {question asked : Question}
    (h : scope.AnsweredWithin (fuel + 1) question) (asks : scope.Asks question asked) :
    scope.AnsweredWithin fuel asked := by
  cases asks with
  | @hop type here object index taken few steps shape =>
    obtain ⟨answer, given⟩ := h
    rw [apparentWithin] at given
    obtain ⟨next, found⟩ := settle_asked scope.hopWithin_growing given steps few
    exact ⟨next, by simpa only [hopWithin, Scope.hop, shape] using found⟩
  | subject type name =>
    obtain ⟨answer, given⟩ := h
    exact apparent_of_propertyWithin given
  | @operand type apparent item name items standsFor shape reached =>
    obtain ⟨answer, given⟩ := h
    obtain ⟨found, stands⟩ := apparent_of_propertyWithin given
    -- what the type was found to stand for is what it stands for with any fuel
    obtain rfl := scope.apparentWithin_growing.unique ⟨fuel, stands⟩ standsFor
    rw [propertyWithin] at given
    simp only [stands, shape] at given
    obtain ⟨all, given⟩ := exists_of_map_ok given
    exact collect_asked given reached
  | @part type apparent item name items standsFor shape reached =>
    obtain ⟨answer, given⟩ := h
    obtain ⟨found, stands⟩ := apparent_of_propertyWithin given
    obtain rfl := scope.apparentWithin_growing.unique ⟨fuel, stands⟩ standsFor
    rw [propertyWithin] at given
    simp only [stands, shape] at given
    exact firstAnswer_asked (scope.propertyOf_growing name) given reached
  | index object index =>
    obtain ⟨answer, given⟩ := h
    exact apparent_of_accessWithin given
  | @key object index apparent key spelling standsFor reached shape =>
    obtain ⟨answer, given⟩ := h
    obtain ⟨found, selected⟩ := selectWithin_of_accessWithin given standsFor reached
    exact ⟨found, by simpa only [selectWithin, select, shape] using selected⟩
  | @elements object index apparent key standsFor reached shape =>
    obtain ⟨answer, given⟩ := h
    obtain ⟨found, selected⟩ := selectWithin_of_accessWithin given standsFor reached
    simp only [selectWithin, select, shape] at selected
    exact exists_of_map_ok selected

/-- A question is answered if all questions are that it asks. -/
theorem answered_of_asked {question : Question}
    (h : ∀ asked, scope.Asks question asked → scope.Answered asked) : scope.Answered question := by
  -- Each of the questions that are asked has fuel of its own. The greatest is enough for all, since
  -- more fuel changes no answer.
  cases question with
  | apparent type =>
    obtain ⟨fuel, answer, given⟩ : ∃ fuel answer,
        settle (scope.hopWithin fuel) scope.hops type = .ok answer := by
      -- only an indexed access asks for something on the way
      refine exists_settle scope.hopWithin_growing fun taken few here steps => ?_
      cases shape : here.shape
      case indexedAccess object index =>
        obtain ⟨fuel, next, given⟩ := h _ (.hop few steps shape)
        exact ⟨next, fuel, by simpa only [hopWithin, hop, shape] using given⟩
      case reference name arguments =>
        exact ⟨scope.aliasValue? name arguments, 0, by simp only [hopWithin, hop, shape]⟩
      all_goals exact ⟨none, 0, by simp only [hopWithin, hop, shape]⟩
    exact ⟨fuel + 1, answer, by rwa [apparentWithin]⟩
  | property type name =>
    obtain ⟨fuel, apparent, stands⟩ := h _ (.subject type name)
    cases shape : apparent.shape
    case union items =>
      obtain ⟨more, answers, given⟩ := exists_collect (scope.propertyOf_growing name)
        fun item reached => exists_comm.mp (h _ (.operand ⟨fuel, stands⟩ shape reached))
      refine ⟨max fuel more + 1, TypeExpr.join answers, ?_⟩
      have grown := (scope.propertyOf_growing name).extends_of_le (Nat.le_max_right fuel more)
      have all : collect (fun item => scope.propertyWithin (max fuel more) item name) items =
          .ok answers := collect_mono grown items answers given
      rw [propertyWithin]
      simp only [scope.apparentWithin_growing.le (Nat.le_max_left fuel more) stands, shape, all]
      rfl
    case intersection items =>
      obtain ⟨more, answer, given⟩ := exists_firstAnswer (scope.propertyOf_growing name)
        fun item reached => exists_comm.mp (h _ (.part ⟨fuel, stands⟩ shape reached))
      refine ⟨max fuel more + 1, answer, ?_⟩
      have grown := (scope.propertyOf_growing name).extends_of_le (Nat.le_max_right fuel more)
      rw [propertyWithin]
      simp only [scope.apparentWithin_growing.le (Nat.le_max_left fuel more) stands, shape]
      exact firstAnswer_mono grown items answer given
    -- of all other types a property is found, or not, without asking further
    all_goals
      refine ⟨fuel + 1, ?_⟩
      unfold AnsweredWithin propertyWithin
      simp only [stands, shape]
      exact ⟨_, rfl⟩
  | access object index =>
    obtain ⟨fuel, apparent, stands⟩ := h _ (.index object index)
    have standsFor : Ever scope.apparentWithin index apparent := ⟨fuel, stands⟩
    obtain ⟨more, answers, given⟩ : ∃ more answers,
        collectAll (scope.selectWithin object more) (apparent.operands?.getD [apparent]) =
          .ok answers := by
      refine exists_collectAll (scope.selectWithin_growing object) fun key reached => ?_
      cases shape : key.shape
      case literal spelling =>
        obtain ⟨enough, answer, found⟩ := h _ (.key standsFor reached shape)
        exact ⟨answer, enough, by simpa only [selectWithin, select, shape] using found⟩
      case keyword word =>
        by_cases number : word = "number"
        · subst number
          obtain ⟨enough, answer, found⟩ := h _ (.elements standsFor reached shape)
          refine ⟨answer.element?, enough, ?_⟩
          simp only [selectWithin, select, shape, found]
          rfl
        · exact ⟨none, 0, by simp [selectWithin, select, shape, number]⟩
      all_goals exact ⟨none, 0, by simp only [selectWithin, select, shape]⟩
    refine ⟨max fuel more + 1, answers.bind TypeExpr.join, ?_⟩
    have grown := (scope.selectWithin_growing object).extends_of_le (Nat.le_max_right fuel more)
    have all : collectAll (select (scope.propertyWithin (max fuel more))
        (scope.apparentWithin (max fuel more)) object) (apparent.operands?.getD [apparent]) =
        .ok answers := collectAll_mono grown _ answers given
    rw [accessWithin]
    simp only [scope.apparentWithin_growing.le (Nat.le_max_left fuel more) stands, all]
    rfl

/-! ### Endless questions -/

/-- A question has an answer exactly if the questions are well-founded below it. -/
theorem answered_iff_acc {question : Question} :
    scope.Answered question ↔ Acc (fun asked asking => scope.Asks asking asked) question := by
  constructor
  · -- by induction on the fuel: what is asked is answered with less
    rintro ⟨fuel, within⟩
    induction fuel generalizing question with
    | zero => cases question <;> obtain ⟨_, given⟩ := within <;> cases given
    | succ fuel ih => exact .intro _ fun asked asks => ih (within.asked asks)
  · intro acc
    induction acc with
    | intro question _ ih => exact answered_of_asked ih

/-- A question that comes to be asked again in answering it has no answer. -/
theorem not_answered_of_asks_itself {question : Question}
    (h : Relation.TransGen scope.Asks question question) : ¬ scope.Answered question := by
  rw [answered_iff_acc]
  intro acc
  induction acc with
  | intro question _ ih =>
    obtain ⟨asked, asks, back⟩ := Relation.TransGen.head'_iff.mp h
    exact ih asked asks (Relation.TransGen.tail' back asks)

variable (scope) in
/-- A question has an answer exactly if there is no endless chain of questions that starts with it
and in which each question is asked in answering the one before. -/
theorem answered_iff_no_endless_chain (question : Question) :
    scope.Answered question ↔
      ¬ ∃ chain : Nat → Question, chain 0 = question ∧
        ∀ n, scope.Asks (chain n) (chain (n + 1)) :=
  answered_iff_acc.trans (not_iff_comm.mp not_acc_iff_exists_descending_chain).symm

/-- What an alias stands for that is indexed in its own definition is never answered, if the limit
allows for two hops. The first leads to the definition, and the second indexes it again. -/
theorem not_answered_indexedItself {name spelling here there whole : String} {decl : AliasDecl}
    (found : scope.declarations.alias? name = some decl) (plain : decl.typeParameters = [])
    (declared : decl.declared =
      ⟨.indexedAccess ⟨.reference name [], here⟩ ⟨.literal spelling, there⟩, whole⟩)
    (limit : 2 ≤ scope.hops) : ¬ scope.Answered (.apparent decl.declared) := by
  let self : TypeExpr := ⟨.reference name [], here⟩
  let key : TypeExpr := ⟨.literal spelling, there⟩
  have value : scope.aliasValue? name [] = some decl.declared := by
    simp [aliasValue?, found, plain, declared, TypeExpr.substitute, TypeExpr.replaced?,
      Bindings.ofArguments, Bindings.find?]
  have again : scope.Asks (.apparent self) (.access self key) := by
    have leads : Ever scope.hopWithin self (some decl.declared) :=
      ⟨0, by simp only [hopWithin, hop, self, value]⟩
    exact .hop limit (.cons leads (.refl _)) (by rw [declared])
  have keyed : scope.Asks (.access self key) (.property self (Text.unquoted spelling)) := by
    have literal : Ever scope.apparentWithin key key := by
      refine ⟨1, ?_⟩
      obtain ⟨hops, enough⟩ : ∃ hops, scope.hops = hops + 1 := ⟨scope.hops - 1, by omega⟩
      rw [apparentWithin, enough]
      simp only [settle, hop, key]
    exact .key literal (.here key []) rfl
  have cycle : Relation.TransGen scope.Asks (.access self key) (.access self key) :=
    .head keyed (.head (.subject self _) (.single again))
  have first : scope.Asks (.apparent decl.declared) (.access self key) :=
    .hop (by omega) (.refl _) (by rw [declared])
  rintro ⟨fuel, within⟩
  exact not_answered_of_asks_itself cycle ⟨fuel, (within.le (Nat.le_succ fuel)).asked first⟩

/-- The alias `type A = A["x"];`. -/
def indexedItself : AliasDecl where
  name := "A"
  span := default
  typeParameters := []
  declared := ⟨.indexedAccess ⟨.reference "A" [], "A"⟩ ⟨.literal "\"x\"", "\"x\""⟩, "A[\"x\"]"⟩
  expanded := ⟨.indexedAccess ⟨.reference "A" [], "A"⟩ ⟨.literal "\"x\"", "\"x\""⟩, "A[\"x\"]"⟩

/-- With the limit that is set where none is given, it is not answered what this alias stands
for. -/
theorem not_answered_apparent_indexedItself :
    ¬ (Scope.mk (.ofList [.typeAlias indexedItself]) 32).Answered (.apparent indexedItself.declared) :=
  not_answered_indexedItself rfl rfl rfl (by decide)

end Scope

end TypeAtlas
