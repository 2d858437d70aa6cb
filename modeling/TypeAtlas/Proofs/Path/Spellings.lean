import Mathlib.Logic.Relation
import Mathlib.Tactic.SplitIfs
import TypeAtlas.Path

/-!
# Spellings of a path

A spelling is shortened by leaving out a slash after a slash, a single point after a slash, or a
slash at the end (`Path.Shortens`). What is left has the same parts (`Path.parts_of_shortens`), and
each spelling can be shortened to one that is made of its parts and nothing else
(`Path.shortens_shortest`).

Main statement: `Path.same_iff_join`. Two spellings are the same path exactly if both can be
shortened to one. A point at the beginning and two points anywhere are never left out, so `./a` is
not `a`, and `a/../b` is not `b`.
-/

set_option autoImplicit false

namespace TypeAtlas.Path

/-- How a spelling is shortened by one step. -/
inductive Shortens : List Char → List Char → Prop
  | slash (before after : List Char) :
    Shortens (before ++ '/' :: '/' :: after) (before ++ '/' :: after)
  | point (before after : List Char) :
    Shortens (before ++ '/' :: '.' :: '/' :: after) (before ++ '/' :: after)
  | lastPoint (before : List Char) : Shortens (before ++ ['/', '.']) (before ++ ['/'])
  | lastSlash {before : List Char} (proper : before ≠ []) : Shortens (before ++ ['/']) before

/-! ### Stretches -/

/-- The parts of what follows a slash. -/
def names (chars : List Char) : List Part := (segments chars).filterMap Part.ofSegment?

/-- There is a segment in every spelling, if only an empty one. -/
theorem segments_ne_nil (chars : List Char) : segments chars ≠ [] := by
  unfold segments
  split
  · exact List.cons_ne_nil _ _
  · split_ifs
    · exact List.cons_ne_nil _ _
    · split <;> exact List.cons_ne_nil _ _

/-- A character that is no slash belongs to the first segment. -/
theorem segments_cons {c : Char} (other : c ≠ '/') {chars first : List Char}
    {more : List (List Char)} (rest : segments chars = first :: more) :
    segments (c :: chars) = (c :: first) :: more := by
  rw [segments, if_neg other, rest]

/-- A slash divides stretches. -/
theorem segments_append_slash (before after : List Char) :
    segments (before ++ '/' :: after) = segments before ++ segments after := by
  induction before with
  | nil => rfl
  | cons c before ih =>
    obtain ⟨first, more, split⟩ := List.exists_cons_of_ne_nil (segments_ne_nil before)
    by_cases slash : c = '/'
    · simp [segments, slash, ih]
    · rw [segments_cons slash split]
      rw [split, List.cons_append] at ih
      exact segments_cons slash ih

/-- The stretches make up the text, with slashes between them. -/
theorem flatMap_segments (chars : List Char) :
    (segments chars).flatMap ('/' :: ·) = '/' :: chars := by
  induction chars with
  | nil => rfl
  | cons c chars ih =>
    by_cases slash : c = '/'
    · simp [segments, slash, ih]
    · obtain ⟨first, more, split⟩ := List.exists_cons_of_ne_nil (segments_ne_nil chars)
      rw [segments_cons slash split]
      rw [split] at ih
      simpa using ih

/-! ### Parts -/

/-- One more slash adds no part. -/
theorem names_slash (chars : List Char) : names ('/' :: chars) = names chars := by
  simp [names, segments, Part.ofSegment?]

/-- A segment that is a single point adds no part after a slash. -/
theorem names_point (chars : List Char) : names ('.' :: '/' :: chars) = names chars := by
  simp [names, segments, Part.ofSegment?]

/-- A spelling with a slash in front has the root as its first part. -/
theorem parts_slash (chars : List Char) :
    parts ⟨String.ofList ('/' :: chars)⟩ = .root :: names chars := by
  simp [parts, names]

/-- Any other spelling starts with its first segment, of which a single point counts as a part. -/
theorem parts_cons {c : Char} (other : c ≠ '/') {chars first : List Char}
    {more : List (List Char)} (split : segments (c :: chars) = first :: more) :
    parts ⟨String.ofList (c :: chars)⟩ =
      (Part.first? first).toList ++ more.filterMap Part.ofSegment? := by
  simp [parts, split, other]

/-- What follows a slash adds its parts. -/
theorem parts_append_slash {before : List Char} (proper : before ≠ []) (after : List Char) :
    parts ⟨String.ofList (before ++ '/' :: after)⟩ =
      parts ⟨String.ofList before⟩ ++ names after := by
  obtain ⟨c, before, rfl⟩ := List.exists_cons_of_ne_nil proper
  by_cases slash : c = '/'
  · rw [slash, List.cons_append, parts_slash, parts_slash, names, segments_append_slash,
      List.filterMap_append, ← names, ← names, List.cons_append]
  · obtain ⟨first, more, split⟩ := List.exists_cons_of_ne_nil (segments_ne_nil (c :: before))
    have whole : segments (c :: (before ++ '/' :: after)) = first :: (more ++ segments after) := by
      rw [← List.cons_append, segments_append_slash, split, List.cons_append]
    rw [List.cons_append, parts_cons slash whole, parts_cons slash split, List.filterMap_append,
      List.append_assoc, names]

/-- Shortening leaves the parts. -/
theorem parts_of_shortens {long short : List Char} (step : Shortens long short) :
    parts ⟨String.ofList long⟩ = parts ⟨String.ofList short⟩ := by
  have follows {after other : List Char} (same : names after = names other) (before : List Char) :
      parts ⟨String.ofList (before ++ '/' :: after)⟩ =
        parts ⟨String.ofList (before ++ '/' :: other)⟩ := by
    by_cases start : before = []
    · rw [start, List.nil_append, List.nil_append, parts_slash, parts_slash, same]
    · rw [parts_append_slash start, parts_append_slash start, same]
  cases step with
  | slash before after => exact follows (names_slash after) before
  | point before after => exact follows (names_point after) before
  | lastPoint before =>
    have nothing : names ['.'] = names [] := rfl
    exact follows nothing before
  | lastSlash proper =>
    rw [parts_append_slash proper]
    exact List.append_nil _

/-- Shortening a spelling keeps the parts. -/
theorem parts_of_steps {long short : List Char}
    (steps : Relation.ReflTransGen Shortens long short) :
    parts ⟨String.ofList long⟩ = parts ⟨String.ofList short⟩ := by
  induction steps with
  | refl => rfl
  | tail _ step ih => exact ih.trans (parts_of_shortens step)

/-! ### The shortest spelling -/

/-- How a part is spelled after a slash. -/
def Part.spelling : Part → List Char
  | .root => []
  | .here => ['.']
  | .up => ['.', '.']
  | .name word => word.toList

/-- Parts with a slash before each. -/
def trail (parts : List Part) : List Char := parts.flatMap fun part => '/' :: part.spelling

/-- Nothing but the parts. -/
def shortest : List Part → List Char
  | [] => []
  | [.root] => ['/']
  | first :: rest => first.spelling ++ trail rest

/-- Nothing is written for the root but the slash after it. -/
@[simp] theorem spelling_root : Part.root.spelling = [] := rfl

/-- Each part is written after a slash. -/
@[simp] theorem trail_cons (part : Part) (rest : List Part) :
    trail (part :: rest) = '/' :: (part.spelling ++ trail rest) := rfl

/-- The shortest spelling of parts from the root is the trail of those after it. -/
theorem shortest_root_cons (part : Part) (rest : List Part) :
    shortest (.root :: part :: rest) = trail (part :: rest) := rfl

/-- The shortest spelling of other parts has no slash in front. -/
theorem shortest_cons {first : Part} (relative : first ≠ .root) (rest : List Part) :
    shortest (first :: rest) = first.spelling ++ trail rest := by
  cases first with
  | root => exact absurd rfl relative
  | here => rfl
  | up => rfl
  | name word => rfl

/-- A part is spelled as the segment it was made of. -/
theorem spelling_of_ofSegment? {segment : List Char} {part : Part}
    (made : Part.ofSegment? segment = some part) : part.spelling = segment := by
  unfold Part.ofSegment? at made
  split_ifs at made with none up
  · obtain rfl : Part.up = part := Option.some.inj made
    exact up.symm
  · obtain rfl : Part.name (String.ofList segment) = part := Option.some.inj made
    exact String.toList_ofList

/-- Only an empty segment and a single point make no part. -/
theorem eq_of_ofSegment?_eq_none {segment : List Char} (none : Part.ofSegment? segment = none) :
    segment = [] ∨ segment = ['.'] := by
  unfold Part.ofSegment? at none
  split_ifs at none with skipped
  simpa using skipped

/-- A first segment that is not empty makes a part that is spelled like it. -/
theorem exists_first? {segment : List Char} (proper : segment ≠ []) :
    ∃ part, Part.first? segment = some part ∧ part ≠ .root ∧ part.spelling = segment := by
  by_cases point : segment = ['.']
  · exact ⟨.here, by rw [Part.first?, if_pos point], by simp, point.symm⟩
  · rw [Part.first?, if_neg point]
    cases made : Part.ofSegment? segment with
    | none => exact absurd (eq_of_ofSegment?_eq_none made) (by simp [proper, point])
    | some part =>
      refine ⟨part, rfl, ?_, spelling_of_ofSegment? made⟩
      rintro rfl
      exact proper (spelling_of_ofSegment? made).symm

section steps

open Relation (ReflTransGen)

/-- A stretch that makes no part is left out, unless nothing would be left. -/
theorem shortens_skipped {segment : List Char} (skipped : Part.ofSegment? segment = none)
    {before : List Char} {more : List (List Char)} (proper : before ≠ [] ∨ more ≠ []) :
    ReflTransGen Shortens (before ++ '/' :: (segment ++ more.flatMap ('/' :: ·)))
      (before ++ more.flatMap ('/' :: ·)) := by
  cases more with
  | nil =>
    have proper : before ≠ [] := by simpa using proper
    obtain rfl | rfl := eq_of_ofSegment?_eq_none skipped
    · simpa using ReflTransGen.single (Shortens.lastSlash proper)
    · simpa using (ReflTransGen.single (Shortens.lastPoint before)).tail (.lastSlash proper)
  | cons next more =>
    obtain rfl | rfl := eq_of_ofSegment?_eq_none skipped
    · simpa using ReflTransGen.single (Shortens.slash before (next ++ more.flatMap ('/' :: ·)))
    · simpa using ReflTransGen.single (Shortens.point before (next ++ more.flatMap ('/' :: ·)))

/-- Behind something, only the parts are left of stretches. -/
theorem shortens_trail : (segments : List (List Char)) → {before : List Char} → before ≠ [] →
    ReflTransGen Shortens (before ++ segments.flatMap ('/' :: ·))
      (before ++ trail (segments.filterMap Part.ofSegment?))
  | [], _, _ => .refl
  | segment :: more, before, proper => by
    cases made : Part.ofSegment? segment with
    | none =>
      rw [List.filterMap_cons_none made]
      exact (shortens_skipped made (.inl proper)).trans (shortens_trail more proper)
    | some part =>
      rw [List.filterMap_cons_some made]
      have longer : before ++ '/' :: segment ≠ [] := by simp
      simpa [spelling_of_ofSegment? made] using shortens_trail more longer

/-- Of a path from the root, the slash is left even if there are no further parts. -/
theorem shortens_root : (segments : List (List Char)) → segments ≠ [] →
    ReflTransGen Shortens (segments.flatMap ('/' :: ·))
      (shortest (.root :: segments.filterMap Part.ofSegment?))
  | segment :: more, _ => by
    cases made : Part.ofSegment? segment with
    | none =>
      rw [List.filterMap_cons_none made]
      by_cases last : more = []
      · subst last
        obtain rfl | rfl := eq_of_ofSegment?_eq_none made
        · exact .refl
        · exact .single (.lastPoint [])
      · have skip : ReflTransGen Shortens ([] ++ '/' :: (segment ++ more.flatMap ('/' :: ·)))
            ([] ++ more.flatMap ('/' :: ·)) := shortens_skipped made (.inr last)
        exact skip.trans (shortens_root more last)
    | some part =>
      rw [List.filterMap_cons_some made]
      have behind := shortens_trail more (List.cons_ne_nil '/' segment)
      simpa [shortest_root_cons, spelling_of_ofSegment? made] using behind

/-- Each spelling can be shortened until nothing but its parts is left. -/
theorem shortens_shortest (chars : List Char) :
    ReflTransGen Shortens chars (shortest (parts ⟨String.ofList chars⟩)) := by
  cases chars with
  | nil => exact .refl
  | cons c chars =>
    by_cases slash : c = '/'
    · rw [slash, parts_slash, ← flatMap_segments chars]
      exact shortens_root (segments chars) (segments_ne_nil chars)
    · obtain ⟨first, more, split⟩ := List.exists_cons_of_ne_nil (segments_ne_nil (c :: chars))
      -- the first stretch is where the text starts, so something is left of it
      have whole : first ++ more.flatMap ('/' :: ·) = c :: chars := by
        have := flatMap_segments (c :: chars)
        rw [split] at this
        simpa using this
      have proper : first ≠ [] := by
        rintro rfl
        cases more with
        | nil => simp at whole
        | cons next more => exact slash (by simpa using (congrArg List.head? whole).symm)
      obtain ⟨part, made, relative, spelled⟩ := exists_first? proper
      rw [parts_cons slash split, made, Option.toList_some, List.singleton_append,
        shortest_cons relative, spelled, ← whole]
      exact shortens_trail more proper

end steps

/-- Two spellings are the same path exactly if both can be shortened to one. -/
theorem same_iff_join {a b : Path} : a.same b = true ↔
    Relation.Join (Relation.ReflTransGen Shortens) a.text.toList b.text.toList := by
  have spelled (path : Path) : (⟨String.ofList path.text.toList⟩ : Path) = path := by
    rw [String.ofList_toList]
  rw [same_iff]
  constructor
  · intro sameParts
    have first := shortens_shortest a.text.toList
    have second := shortens_shortest b.text.toList
    rw [spelled] at first second
    exact ⟨_, first, sameParts ▸ second⟩
  · rintro ⟨short, first, second⟩
    rw [← spelled a, ← spelled b, parts_of_steps first, parts_of_steps second]

/-- Slashes and points that make no part are passed over, but not a point at the beginning nor two
points. -/
example :
    (⟨"a//b/./c/."⟩ : Path).same ⟨"a/b/c"⟩ ∧ (⟨"//"⟩ : Path).same ⟨"/."⟩ ∧
      ¬ (⟨"./a"⟩ : Path).same ⟨"a"⟩ ∧ ¬ (⟨"a/../b"⟩ : Path).same ⟨"b"⟩ ∧
      ¬ (⟨"/a"⟩ : Path).same ⟨"a"⟩ := by
  decide

/-- Two spellings of a path are spellings of the same paths. -/
theorem same_congr {a b : Path} (same : a.same b = true) (other : Path) :
    a.same other = b.same other := by
  rw [Path.same, Path.same, same_iff.mp same]

end TypeAtlas.Path
