import TypeAtlas.Declarations.Scope

/-!
# More fuel, the same answers

A question that takes fuel is a family of functions, one for each amount of fuel. The family is
`Growing` if more fuel never changes an answer that has been given, and then each question has one
answer at most (`Growing.unique`).

`settle`, `collect`, `collectAll` and `firstAnswer` put the answers of a growing family together.
For each of them there are three facts: it answers more when the family does (`_mono`); if it has
an answer for some fuel, then with that fuel so has every question that it gets to (`_asked`); and
if every question that it gets to has an answer at all, so has it (`exists_…`). What it gets to is
told by `Steps` and by `Reached`.
-/

set_option autoImplicit false

namespace TypeAtlas

namespace Scope

variable {α β : Type}

/-- Whatever the one answers, the other answers the same. -/
def Extends (more less : Except Unanswered α) : Prop := ∀ a, less = .ok a → more = .ok a

/-- Answers that extend others still do when all of them are changed alike. -/
theorem Extends.map {more less : Except Unanswered α} (h : Extends more less) (change : α → β) :
    Extends (more.map change) (less.map change) := by
  intro b given
  cases answer : less with
  | error why => simp [answer, Except.map] at given
  | ok a =>
    rw [answer] at given
    rw [h a answer]
    exact given

/-- A changed answer is the change of an answer. -/
theorem exists_of_map_ok {given : Except Unanswered α} {change : α → β} {b : β}
    (h : given.map change = .ok b) : ∃ a, given = .ok a := by
  cases given with
  | error why => cases h
  | ok a => exact ⟨a, rfl⟩

/-- More fuel never changes an answer. -/
def Growing (ask : Nat → α → Except Unanswered β) : Prop :=
  ∀ fuel a, Extends (ask (fuel + 1) a) (ask fuel a)

/-- The answer that is given once there is fuel enough. -/
def Ever (ask : Nat → α → Except Unanswered β) (a : α) (answer : β) : Prop :=
  ∃ fuel, ask fuel a = .ok answer

namespace Growing

variable {ask : Nat → α → Except Unanswered β}

/-- An answer that is given with some fuel is given with all more. -/
theorem le (h : Growing ask) {fuel more : Nat} (enough : fuel ≤ more) {a : α} {answer : β}
    (given : ask fuel a = .ok answer) : ask more a = .ok answer := by
  induction enough with
  | refl => exact given
  | step _ ih => exact h _ _ _ ih

/-- More fuel extends what is answered with less. -/
theorem extends_of_le (h : Growing ask) {fuel more : Nat} (enough : fuel ≤ more) (a : α) :
    Extends (ask more a) (ask fuel a) := fun _ given => h.le enough given

/-- A question has one answer at most. -/
theorem unique (h : Growing ask) {a : α} {first second : β} (hf : Ever ask a first)
    (hs : Ever ask a second) : first = second := by
  obtain ⟨fuel, hf⟩ := hf
  obtain ⟨other, hs⟩ := hs
  have same := (h.le (Nat.le_max_left fuel other) hf).symm.trans
    (h.le (Nat.le_max_right fuel other) hs)
  exact Except.ok.inj same

end Growing

/-! ### Settling -/

/-- What is come to by a number of steps. -/
inductive Steps (step : Nat → α → Except Unanswered (Option α)) : Nat → α → α → Prop
  | refl (a : α) : Steps step 0 a a
  | cons {n : Nat} {a next b : α} (first : Ever step a (some next)) (rest : Steps step n next b) :
      Steps step (n + 1) a b

/-- If single steps are extended, so is what they settle at. -/
theorem settle_mono {more less : α → Except Unanswered (Option α)}
    (h : ∀ a, Extends (more a) (less a)) :
    (n : Nat) → ∀ a, Extends (settle more n a) (settle less n a)
  | 0, _, _, given => given
  | n + 1, a, answer, given => by
      unfold settle at given ⊢
      cases step : less a with
      | error why => simp [step] at given
      | ok next =>
        rw [step] at given
        rw [h a next step]
        cases next with
        | none => exact given
        | some next => exact settle_mono h n next answer given

variable {step : Nat → α → Except Unanswered (Option α)}

/-- If steps settle, each place that they come to has been asked for its next step. -/
theorem settle_asked (grows : Growing step) {fuel : Nat} {a b answer : α} {taken n : Nat}
    (given : settle (step fuel) n a = .ok answer) (steps : Steps step taken a b)
    (few : taken < n) : ∃ next, step fuel b = .ok next := by
  induction steps generalizing n with
  | refl a =>
    obtain ⟨n, rfl⟩ : ∃ m, n = m + 1 := ⟨n - 1, by omega⟩
    unfold settle at given
    cases here : step fuel a with
    | error why => simp [here] at given
    | ok next => exact ⟨next, rfl⟩
  | @cons taken a next b first rest ih =>
    obtain ⟨n, rfl⟩ : ∃ m, n = m + 1 := ⟨n - 1, by omega⟩
    unfold settle at given
    cases here : step fuel a with
    | error why => simp [here] at given
    | ok found =>
      obtain rfl : found = some next := grows.unique ⟨fuel, here⟩ first
      rw [here] at given
      exact ih given (by omega)

/-- If every place that can be come to has a next step with some fuel, then some fuel is enough to
settle. -/
theorem exists_settle (grows : Growing step) {n : Nat} {a : α}
    (h : ∀ taken < n, ∀ b, Steps step taken a b → ∃ next, Ever step b next) :
    ∃ fuel answer, settle (step fuel) n a = .ok answer := by
  induction n generalizing a with
  | zero => exact ⟨0, a, rfl⟩
  | succ n ih =>
    obtain ⟨next, fuel, here⟩ := h 0 (by omega) a (.refl a)
    cases next with
    | none => exact ⟨fuel, a, by simp [settle, here]⟩
    | some next =>
      obtain ⟨more, answer, later⟩ := ih fun taken few b steps =>
        h (taken + 1) (by omega) b (.cons ⟨fuel, here⟩ steps)
      have grown := grows.extends_of_le (Nat.le_max_right fuel more)
      -- the first step and the later ones each have fuel of their own
      refine ⟨max fuel more, answer, ?_⟩
      unfold settle
      rw [grows.le (Nat.le_max_left fuel more) here]
      exact settle_mono grown n next answer later

/-! ### Lists of questions -/

/-- The questions of a list that are got to by going on after answers of some kind. -/
inductive Reached (ask : Nat → α → Except Unanswered (Option β)) (goOn : Option β → Prop) :
    List α → α → Prop
  | here (a : α) (rest : List α) : Reached ask goOn (a :: rest) a
  | later {a b : α} {rest : List α} {answer : Option β} (first : Ever ask a answer)
      (passes : goOn answer) (reached : Reached ask goOn rest b) : Reached ask goOn (a :: rest) b

variable {more less : α → Except Unanswered (Option β)}

/-- If single questions are extended, so is the collection of their answers. -/
theorem collect_mono (h : ∀ a, Extends (more a) (less a)) :
    (list : List α) → Extends (collect more list) (collect less list)
  | [], _, given => given
  | a :: rest, answers, given => by
      unfold collect at given ⊢
      cases first : less a with
      | error why => simp [first] at given
      | ok answer =>
        rw [first] at given
        rw [h a answer first]
        cases others : collect less rest with
        | error why => simp [others, Except.map] at given
        | ok found =>
          rw [others] at given
          rw [collect_mono h rest found others]
          exact given

/-- If single questions are extended, so is the collection of all of their answers. -/
theorem collectAll_mono (h : ∀ a, Extends (more a) (less a)) :
    (list : List α) → Extends (collectAll more list) (collectAll less list)
  | [], _, given => given
  | a :: rest, answers, given => by
      unfold collectAll at given ⊢
      cases first : less a with
      | error why => simp [first] at given
      | ok answer =>
        rw [first] at given
        rw [h a answer first]
        cases answer with
        | none => exact given
        | some answer =>
          cases others : collectAll less rest with
          | error why => simp [others, Except.map] at given
          | ok found =>
            simp only [others] at given
            simp only [collectAll_mono h rest found others]
            exact given

/-- If single questions are extended, so is the first answer to one of them. -/
theorem firstAnswer_mono (h : ∀ a, Extends (more a) (less a)) :
    (list : List α) → Extends (firstAnswer more list) (firstAnswer less list)
  | [], _, given => given
  | a :: rest, answer, given => by
      unfold firstAnswer at given ⊢
      cases first : less a with
      | error why => simp [first] at given
      | ok found =>
        rw [first] at given
        rw [h a found first]
        cases found with
        | none => exact firstAnswer_mono h rest answer given
        | some found => exact given

section lists

variable {ask : Nat → α → Except Unanswered (Option β)}

/-- If answers were collected, every question of the list had one. -/
theorem collect_asked {fuel : Nat} {list : List α} {a : α}
    {answers : List β} (given : collect (ask fuel) list = .ok answers)
    (reached : Reached ask (fun _ => True) list a) : ∃ answer, ask fuel a = .ok answer := by
  induction reached generalizing answers with
  | here a rest =>
    unfold collect at given
    cases first : ask fuel a with
    | error why => simp [first] at given
    | ok answer => exact ⟨answer, rfl⟩
  | @later a b rest _ _ _ _ ih =>
    unfold collect at given
    cases first : ask fuel a with
    | error why => simp [first] at given
    | ok answer =>
      cases others : collect (ask fuel) rest with
      | error why => simp [first, others, Except.map] at given
      | ok found => exact ih others

/-- If every question of a list has an answer with some fuel, one fuel is enough to collect them. -/
theorem exists_collect (grows : Growing ask) {list : List α}
    (h : ∀ a, Reached ask (fun _ => True) list a → ∃ answer, Ever ask a answer) :
    ∃ fuel answers, collect (ask fuel) list = .ok answers := by
  induction list with
  | nil => exact ⟨0, [], rfl⟩
  | cons a rest ih =>
    obtain ⟨answer, fuel, first⟩ := h a (.here a rest)
    obtain ⟨more, answers, others⟩ := ih fun b reached => h b (.later ⟨fuel, first⟩ trivial reached)
    have grown := grows.extends_of_le (Nat.le_max_right fuel more)
    refine ⟨max fuel more, answer.toList ++ answers, ?_⟩
    simp only [collect, grows.le (Nat.le_max_left fuel more) first,
      collect_mono grown rest answers others, Except.map]

/-- If a collection of all answers ended, every question that it got to had an answer. -/
theorem collectAll_asked (grows : Growing ask) {fuel : Nat} {list : List α} {a : α}
    {answers : Option (List β)} (given : collectAll (ask fuel) list = .ok answers)
    (reached : Reached ask (·.isSome) list a) : ∃ answer, ask fuel a = .ok answer := by
  induction reached generalizing answers with
  | here a rest =>
    unfold collectAll at given
    cases first : ask fuel a with
    | error why => simp [first] at given
    | ok answer => exact ⟨answer, rfl⟩
  | @later a b rest answer ever passes _ ih =>
    unfold collectAll at given
    cases first : ask fuel a with
    | error why => simp [first] at given
    | ok found =>
      obtain rfl : found = answer := grows.unique ⟨fuel, first⟩ ever
      obtain ⟨value, rfl⟩ := Option.isSome_iff_exists.mp passes
      cases others : collectAll (ask fuel) rest with
      | error why => simp [first, others, Except.map] at given
      | ok found => exact ih others

/-- If every question that a collection of all answers gets to has an answer, one fuel is enough for
the collection. -/
theorem exists_collectAll (grows : Growing ask) {list : List α}
    (h : ∀ a, Reached ask (·.isSome) list a → ∃ answer, Ever ask a answer) :
    ∃ fuel answers, collectAll (ask fuel) list = .ok answers := by
  induction list with
  | nil => exact ⟨0, some [], rfl⟩
  | cons a rest ih =>
    obtain ⟨answer, fuel, first⟩ := h a (.here a rest)
    cases answer with
    | none => exact ⟨fuel, none, by simp [collectAll, first]⟩
    | some answer =>
      obtain ⟨more, answers, others⟩ := ih fun b reached => h b (.later ⟨fuel, first⟩ rfl reached)
      have grown := grows.extends_of_le (Nat.le_max_right fuel more)
      refine ⟨max fuel more, answers.map (answer :: ·), ?_⟩
      simp only [collectAll, grows.le (Nat.le_max_left fuel more) first,
        collectAll_mono grown rest answers others, Except.map]

/-- If the search for a first answer ended, every question that it got to had an answer. -/
theorem firstAnswer_asked (grows : Growing ask) {fuel : Nat} {list : List α} {a : α}
    {answer : Option β} (given : firstAnswer (ask fuel) list = .ok answer)
    (reached : Reached ask (· = none) list a) : ∃ answer, ask fuel a = .ok answer := by
  induction reached with
  | here a rest =>
    unfold firstAnswer at given
    cases first : ask fuel a with
    | error why => simp [first] at given
    | ok answer => exact ⟨answer, rfl⟩
  | @later a b rest answer ever passes _ ih =>
    unfold firstAnswer at given
    cases first : ask fuel a with
    | error why => simp [first] at given
    | ok found =>
      obtain rfl : found = none := (grows.unique ⟨fuel, first⟩ ever).trans passes
      rw [first] at given
      exact ih given

/-- If every question that the search for a first answer gets to has an answer, one fuel is enough
for the search. -/
theorem exists_firstAnswer (grows : Growing ask) {list : List α}
    (h : ∀ a, Reached ask (· = none) list a → ∃ answer, Ever ask a answer) :
    ∃ fuel answer, firstAnswer (ask fuel) list = .ok answer := by
  induction list with
  | nil => exact ⟨0, none, rfl⟩
  | cons a rest ih =>
    obtain ⟨answer, fuel, first⟩ := h a (.here a rest)
    cases answer with
    | some answer => exact ⟨fuel, some answer, by simp [firstAnswer, first]⟩
    | none =>
      obtain ⟨more, answer, others⟩ := ih fun b reached => h b (.later ⟨fuel, first⟩ rfl reached)
      have grown := grows.extends_of_le (Nat.le_max_right fuel more)
      refine ⟨max fuel more, answer, ?_⟩
      simp only [firstAnswer, grows.le (Nat.le_max_left fuel more) first,
        firstAnswer_mono grown rest answer others]

end lists

end Scope

end TypeAtlas
