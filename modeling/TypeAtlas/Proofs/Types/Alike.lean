import TypeAtlas.Proofs.Declarations.Joined
import TypeAtlas.Proofs.Model.Alternatives
import TypeAtlas.Proofs.Types.Legible

/-!
# Types that have one text

Two types are alike if they are equal up to the texts they were written as and the quotes of their
string literals (`TypeExpr.Alike`). Alike types have one text, and legible types with one text are
alike (`TypeExpr.print_eq_iff`). So nothing is lost when legible types are joined, where of two
types with one text one is left out (`TypeExpr.exists_alike_of_join`).

A type that would need parentheses where none are written has the text of another one that is not
alike (`TypeExpr.Illegible.exists_print_eq`): `(A & B)["x"]` has the text of `A & B["x"]`, and when
the two are joined one is lost (`Node.not_apart_indexedIntersection`).
-/

set_option autoImplicit false

namespace TypeAtlas

open Text (Piece Separator Enclosed IsWord SameButQuotes quoted levelOf)

/-- Two types are equal up to the texts they were written as and the quotes of their string
literals. -/
inductive TypeExpr.Alike : TypeExpr → TypeExpr → Prop
  | keyword {word text text' : String} : Alike ⟨.keyword word, text⟩ ⟨.keyword word, text'⟩
  | literal {spelling spelling' text text' : String} (same : SameButQuotes spelling spelling') :
      Alike ⟨.literal spelling, text⟩ ⟨.literal spelling', text'⟩
  | reference {name text text' : String} {arguments arguments' : List TypeExpr}
      (length : arguments.length = arguments'.length)
      (each : ∀ pair ∈ arguments.zip arguments', Alike pair.1 pair.2) :
      Alike ⟨.reference name arguments, text⟩ ⟨.reference name arguments', text'⟩
  | array {element element' : TypeExpr} {text text' : String} (alike : Alike element element') :
      Alike ⟨.array element, text⟩ ⟨.array element', text'⟩
  | tuple {items items' : List TypeExpr} {text text' : String} (length : items.length = items'.length)
      (each : ∀ pair ∈ items.zip items', Alike pair.1 pair.2) :
      Alike ⟨.tuple items, text⟩ ⟨.tuple items', text'⟩
  | combined (connective : Connective) {items items' : List TypeExpr} {text text' : String}
      (length : items.length = items'.length)
      (each : ∀ pair ∈ items.zip items', Alike pair.1 pair.2) :
      Alike ⟨connective.shape items, text⟩ ⟨connective.shape items', text'⟩
  | indexedAccess {object object' index index' : TypeExpr} {text text' : String}
      (alike : Alike object object') (within : Alike index index') :
      Alike ⟨.indexedAccess object index, text⟩ ⟨.indexedAccess object' index', text'⟩

namespace TypeExpr

variable {type other : TypeExpr}

/-! ### Types with the same pieces -/

/-- Legible types that are written alike, in parentheses or without, have the same pieces: none is a
pair of parentheses itself. -/
theorem enclosedPieces_inj (h : type.Legible) (h' : other.Legible) {needed needed' : Bool}
    (same : enclosedPieces needed type.pieces = enclosedPieces needed' other.pieces) :
    type.pieces = other.pieces := by
  cases needed <;> cases needed'
  · exact same
  · exact absurd same (h.pieces_ne_round _)
  · exact absurd same.symm (h'.pieces_ne_round _)
  · simpa [enclosedPieces] using same

/-- The text of every type is bound more tightly than a list with commas. -/
theorem level_lt_comma (shape : TypeShape) : shape.level < Separator.comma.level := by
  cases shape <;> exact Nat.lt_of_sub_eq_succ rfl

/-- If types are told apart from others by their pieces, then so are lists of them when they are
joined. -/
theorem alike_of_joined {types others : List TypeExpr} {separator : Separator}
    (each : ∀ type ∈ types, type.Legible) (each' : ∀ type ∈ others, type.Legible)
    (tighter : ∀ type ∈ types, type.shape.level < separator.level)
    (tighter' : ∀ type ∈ others, type.shape.level < separator.level)
    (alike : ∀ type ∈ types, ∀ {other : TypeExpr}, other.Legible → type.pieces = other.pieces →
      type.Alike other)
    (same : [Piece.separator separator].intercalate (types.map (·.pieces)) =
      [.separator separator].intercalate (others.map (·.pieces))) :
    types.length = others.length ∧ ∀ pair ∈ types.zip others, pair.1.Alike pair.2 := by
  have told {list : List TypeExpr} (each : ∀ type ∈ list, type.Legible)
      (tighter : ∀ type ∈ list, type.shape.level < separator.level) :
      ∀ pieces ∈ list.map (·.pieces), pieces ≠ [] ∧ levelOf pieces < separator.level :=
    List.forall_mem_map.mpr fun type mem =>
      ⟨(each type mem).pieces_ne_nil, (each type mem).levelOf_pieces ▸ tighter type mem⟩
  have lists := Text.intercalate_inj (told each tighter) (told each' tighter') same
  refine ⟨by simpa using congrArg List.length lists, fun ⟨type, other⟩ mem => ?_⟩
  refine alike type (List.of_mem_zip mem).1 (each' other (List.of_mem_zip mem).2) ?_
  obtain ⟨i, bound, pair⟩ := List.mem_iff_getElem.mp mem
  rw [List.getElem_zip] at pair
  cases pair
  have both : i < types.length ∧ i < others.length := by simpa using bound
  simpa [both] using congrArg (·[i]?) lists

/-- Legible types with the same pieces are alike. -/
theorem Legible.alike (h : type.Legible) : ∀ {other : TypeExpr}, other.Legible →
    type.pieces = other.pieces → type.Alike other := by
  -- The form of a type can be told from its pieces, so the other type is of the same form and its
  -- parts are compared with the parts of this one. In all other cases the forms differ.
  induction h with
  | keyword spelled kind =>
    intro other h' same
    have form := (Legible.keyword spelled kind).form_eq h' same
    cases h' with
    | keyword =>
      simp only [pieces, List.cons.injEq, Piece.word.injEq, String.toList_inj, and_true] at same
      exact same ▸ .keyword
    | combined connective => cases connective <;> cases form
    | _ => cases form
  | literal spelled =>
    intro other h' same
    have form := (Legible.literal spelled).form_eq h' same
    cases h' with
    | literal spelled' =>
      simp only [pieces, List.cons.injEq, and_true] at same
      exact .literal (spelled.sameButQuotes spelled' same)
    | combined connective => cases connective <;> cases form
    | _ => cases form
  | @reference name text arguments spelled kind each ih =>
    intro other h' same
    have form := (Legible.reference spelled kind each).form_eq h' same
    cases h' with
    | @reference name' text' arguments' spelled' kind' each' =>
      obtain ⟨rfl, joined⟩ : name = name' ∧
          [Piece.separator .comma].intercalate (arguments.map (·.pieces)) =
            [.separator .comma].intercalate (arguments'.map (·.pieces)) := by
        cases arguments <;> cases arguments' <;>
          simp_all [pieces, piecesOf_eq_map, String.toList_inj]
      obtain ⟨length, alike⟩ := alike_of_joined each each' (fun item _ => level_lt_comma item.shape)
        (fun item _ => level_lt_comma item.shape) ih joined
      exact .reference length alike
    | combined connective => cases connective <;> cases form
    | _ => cases form
  | array legible ih =>
    intro other h' same
    have form := (Legible.array legible).form_eq h' same
    cases h' with
    | array legible' =>
      rw [pieces, pieces, List.append_left_inj] at same
      exact .array (ih legible' (enclosedPieces_inj legible legible' same))
    | combined connective => cases connective <;> cases form
    | _ => cases form
  | tuple each ih =>
    intro other h' same
    have form := (Legible.tuple each).form_eq h' same
    cases h' with
    | tuple each' =>
      simp only [pieces, piecesOf_eq_map, List.cons.injEq, Piece.group.injEq, and_true, true_and] at same
      obtain ⟨length, alike⟩ := alike_of_joined each each' (fun item _ => level_lt_comma item.shape)
        (fun item _ => level_lt_comma item.shape) ih same
      exact .tuple length alike
    | combined connective => cases connective <;> cases form
    | _ => cases form
  | combined connective several each tighter ih =>
    intro other h' same
    have form := (Legible.combined connective several each tighter).form_eq h' same
    cases h' with
    | combined connective' several' each' tighter' =>
      obtain rfl : connective = connective' := by
        cases connective <;> cases connective' <;> first | rfl | cases form
      rw [pieces_combined, pieces_combined] at same
      obtain ⟨length, alike⟩ := alike_of_joined each each' tighter tighter' ih same
      exact .combined connective length alike
    | _ => cases connective <;> cases form
  | indexedAccess legible within tight ih ih' =>
    intro other h' same
    have form := (Legible.indexedAccess legible within tight).form_eq h' same
    cases h' with
    | indexedAccess legible' within' _ =>
      obtain ⟨object, index⟩ := List.append_inj' same rfl
      simp only [List.cons.injEq, Piece.group.injEq, and_true, true_and] at index
      exact .indexedAccess (ih legible' object) (ih' within' index)
    | combined connective => cases connective <;> cases form
    | _ => cases form

/-! ### Alike types -/

/-- Alike types both need parentheses as elements of an array, or neither does. -/
theorem Alike.loose_eq (h : type.Alike other) : type.shape.loose = other.shape.loose := by
  cases h with
  | combined connective => cases connective <;> rfl
  | _ => rfl

/-- No function type is alike to anything. -/
theorem Alike.shape_ne_function (h : type.Alike other) (signature : Signature) :
    type.shape ≠ .function signature ∧ other.shape ≠ .function signature := by
  cases h with
  | combined connective => cases connective <;> simp [Connective.shape]
  | _ => simp

/-- Lists of one length are mapped alike if their items are, pair by pair. -/
theorem map_eq_of_zip {α β : Type} {f : α → β} {list list' : List α}
    (length : list.length = list'.length) (each : ∀ pair ∈ list.zip list', f pair.1 = f pair.2) :
    list.map f = list'.map f := by
  refine List.ext_getElem (by simpa using length) fun i inside inside' => ?_
  rw [List.length_map] at inside inside'
  simpa using each (list[i], list'[i]) (List.mem_iff_getElem.mpr ⟨i, by simp [inside, inside'], by simp⟩)

/-- Alike types have one text. -/
theorem Alike.print_eq (h : type.Alike other) : type.print = other.print := by
  induction h with
  | keyword => rfl
  | literal same => exact same.doubleQuoted_eq
  | @reference name text text' arguments arguments' length each ih =>
    have lists := map_eq_of_zip length ih
    cases arguments <;> cases arguments' <;> simp_all [print, printTypes_eq_map]
  | array alike ih => simp [print, ih, alike.loose_eq]
  | tuple length each ih => simp [print, printTypes_eq_map, map_eq_of_zip length ih]
  | combined connective length each ih =>
    have operands := map_eq_of_zip (f := (·.printOperand)) length fun pair mem => by
      have plain := (each pair mem).shape_ne_function
      rw [printOperand_eq fun signature => (plain signature).1,
        printOperand_eq fun signature => (plain signature).2, ih pair mem]
    rw [print_combined, print_combined, operands]
  | indexedAccess alike within ih ih' => simp [print, ih, ih']

/-- Legible types with one text are alike. -/
theorem Legible.alike_of_print (h : type.Legible) (h' : other.Legible)
    (same : type.print = other.print) :
    type.Alike other := by
  refine h.alike h' (Text.eq_of_renderAll_eq h.spelledAll_pieces h'.spelledAll_pieces ?_)
  rw [← h.toList_print, ← h'.toList_print, same]

/-- Legible types have one text if and only if they are alike. -/
theorem print_eq_iff (h : type.Legible) (h' : other.Legible) :
    type.print = other.print ↔ type.Alike other :=
  ⟨h.alike_of_print h', Alike.print_eq⟩

/-- The type `(A | s)[]` for a literal `s`. -/
def arrayOfEither (spelling : String) : TypeExpr :=
  ⟨.array ⟨.union [⟨.reference "A" [], "A"⟩, ⟨.literal spelling, spelling⟩], "A | " ++ spelling⟩,
    "(A | " ++ spelling ++ ")[]"⟩

/-- The array of the example is legible with every literal in it. -/
theorem legible_arrayOfEither {spelling : String} (spelled : IsLiteral spelling) :
    (arrayOfEither spelling).Legible := by
  have word : IsWord "A".toList :=
    ⟨by decide, by simp [Text.isMark], by decide, by decide, by decide⟩
  have name : Legible ⟨.reference "A" [], "A"⟩ := .reference word (by decide) (by simp)
  refine .array (.combined .union (by simp) ?_ ?_)
  · exact List.forall_mem_cons.mpr ⟨name, List.forall_mem_singleton.mpr (.literal spelled)⟩
  · exact List.forall_mem_cons.mpr
      ⟨Connective.union.level_pos, List.forall_mem_singleton.mpr Connective.union.level_pos⟩

/-- The types `(A | 'x')[]` and `(A | "x")[]` have one text, and they are alike. -/
theorem print_eq_iff_arrayOfEither :
    (arrayOfEither (quoted '\x27' ['x'])).Legible ∧ (arrayOfEither (quoted '"' ['x'])).Legible ∧
      (arrayOfEither (quoted '\x27' ['x'])).print = (arrayOfEither (quoted '"' ['x'])).print ∧
      (arrayOfEither (quoted '\x27' ['x'])).Alike (arrayOfEither (quoted '"' ['x'])) := by
  have single := legible_arrayOfEither (.string (.inr rfl) (.plain (c := 'x') (by decide) (by decide) .nil))
  have double := legible_arrayOfEither (.string (.inl rfl) (.plain (c := 'x') (by decide) (by decide) .nil))
  have same : (arrayOfEither (quoted '\x27' ['x'])).print = (arrayOfEither (quoted '"' ['x'])).print := by
    decide +kernel
  exact ⟨single, double, same, (print_eq_iff single double).mp same⟩

/-! ### Joining legible types -/

/-- Of legible types that are joined each is alike to one that is left. -/
theorem exists_alike_of_join {types : List TypeExpr}
    (legible : ∀ type ∈ types, ∀ item ∈ type.choices, item.Legible) :
    ∀ joined ∈ join types, ∀ type ∈ types, ∀ item ∈ type.choices, ∃ kept, item.Alike kept ∧
      (joined = kept ∨ ∃ items, joined.shape = .union items ∧ kept ∈ items) := by
  intro joined made type mem item choice
  have all : ∀ item ∈ types.flatMap choices, item.Legible := fun item mem => by
    obtain ⟨type, mem, choice⟩ := List.mem_flatMap.mp mem
    exact legible type mem item choice
  have present := List.mem_flatMap.mpr ⟨type, mem, choice⟩
  have shown : hasText (firstOfEachText (types.flatMap choices)) item.print := by
    rw [hasText_firstOfEachText]
    exact List.any_eq_true.mpr ⟨item, present, beq_self_eq_true _⟩
  obtain ⟨kept, left, same⟩ := List.any_eq_true.mp shown
  refine ⟨kept, (all item present).alike_of_print (all kept (mem_of_mem_firstOfEachText left))
    (eq_of_beq same).symm, ?_⟩
  cases join_eq_some_iff.mp made with
  | one only =>
    rw [only, List.mem_singleton] at left
    exact .inl left.symm
  | several rest _ => exact .inr ⟨_, rfl, rest ▸ left⟩

/-! ### Illegible types -/

/-- A type that would need parentheses where none are written. -/
inductive Illegible : TypeExpr → Prop
  | indexed (connective : Connective) {items : List TypeExpr} {text text' : String} (some : items ≠ [])
      (plain : ∀ item ∈ items, ∀ signature, item.shape ≠ .function signature) (index : TypeExpr) :
      Illegible ⟨.indexedAccess ⟨connective.shape items, text⟩ index, text'⟩
  | nested (connective : Connective) {items : List TypeExpr} {text text' : String}
      (several : 2 ≤ items.length) (front back : List TypeExpr) :
      Illegible ⟨connective.shape (front ++ ⟨connective.shape items, text⟩ :: back), text'⟩
  | crossed {items : List TypeExpr} {text text' : String} (several : 2 ≤ items.length)
      (plain : ∀ item ∈ items, ∀ signature, item.shape ≠ .function signature)
      (front back : List TypeExpr) :
      Illegible ⟨Connective.intersection.shape
        (front ++ ⟨Connective.union.shape items, text⟩ :: back), text'⟩

/-- A text may be split within one of the texts that are joined. -/
theorem intercalate_split (separator first second : String) (front back : List String) :
    separator.intercalate (front ++ (first ++ second) :: back) =
      separator.intercalate (front ++ [first]) ++ separator.intercalate (second :: back) := by
  induction front with
  | nil => simp [String.intercalate_cons_append]
  | cons text front ih =>
    rw [List.cons_append, List.cons_append, String.intercalate_cons_of_ne_nil (by simp),
      String.intercalate_cons_of_ne_nil (by simp), ih, String.append_assoc, String.append_assoc,
      String.append_assoc]

/-- It does not show that some of the texts that are joined were joined before. -/
theorem intercalate_nested (separator : String) {inner : List String} (some : inner ≠ [])
    (front back : List String) :
    separator.intercalate (front ++ separator.intercalate inner :: back) =
      separator.intercalate (front ++ (inner ++ back)) := by
  induction front with
  | nil =>
    rcases eq_or_ne back [] with rfl | more
    · simp
    · rw [List.nil_append, List.nil_append, String.intercalate_cons_of_ne_nil more,
        String.intercalate_append_of_ne_nil some more]
  | cons text front ih =>
    rw [List.cons_append, List.cons_append, String.intercalate_cons_of_ne_nil (by simp),
      String.intercalate_cons_of_ne_nil (by simp [some]), ih]

/-- It does not show to which texts those around them were joined. -/
theorem intercalate_crossed (inner outer first last : String) (front middle back : List String) :
    inner.intercalate (outer.intercalate (front ++ [first]) ::
        (middle ++ [outer.intercalate (last :: back)])) =
      outer.intercalate (front ++ inner.intercalate (first :: (middle ++ [last])) :: back) := by
  -- a text may be set apart from the last one that is joined
  have apart (separator : String) (texts : List String) (text more : String) :
      separator.intercalate (texts ++ [text ++ more]) = separator.intercalate (texts ++ [text]) ++ more := by
    simpa using intercalate_split separator text more texts []
  have joint (text : String) :
      inner.intercalate (middle ++ [text]) = inner.intercalate (middle ++ [""]) ++ text := by
    simpa using apart inner middle "" text
  have some (text : String) : middle ++ [text] ≠ [] := by simp
  have split :=
    intercalate_split outer (first ++ (inner ++ inner.intercalate (middle ++ [""]))) last front back
  rw [apart] at split
  rw [String.intercalate_cons_of_ne_nil (some _), String.intercalate_cons_of_ne_nil (some _), joint,
    joint last]
  simpa only [String.append_assoc] using split.symm

/-- Alike types are of one form. -/
theorem Alike.form_eq (h : type.Alike other) : type.shape.form = other.shape.form := by
  cases h with
  | combined connective => rw [Connective.form_shape, Connective.form_shape]
  | _ => rfl

/-- Alike unions and alike intersections have as many operands. -/
theorem Alike.length_eq {connective : Connective} {items others : List TypeExpr}
    {text text' : String}
    (h : Alike ⟨connective.shape items, text⟩ ⟨connective.shape others, text'⟩) :
    items.length = others.length := by
  generalize left : (⟨connective.shape items, text⟩ : TypeExpr) = type at h
  generalize right : (⟨connective.shape others, text'⟩ : TypeExpr) = other at h
  cases h with
  | combined connective' length =>
    cases connective <;> cases connective' <;> cases left <;> cases right
    · exact length
    · exact length
  | _ => cases connective <;> cases left

/-- What is printed for a combined type as an operand of another one. -/
theorem printOperand_combined (connective : Connective) (items : List TypeExpr) (text : String) :
    printOperand ⟨connective.shape items, text⟩ =
      (String.ofList connective.separator.letters).intercalate (items.map (·.printOperand)) := by
  rw [printOperand_eq (by cases connective <;> simp [Connective.shape]), print_combined]

/-- There is a type with the text of an illegible type that is not alike. -/
theorem Illegible.exists_print_eq (h : type.Illegible) :
    ∃ other : TypeExpr, other.print = type.print ∧ ¬ type.Alike other := by
  cases h with
  | @indexed connective items text text' some plain index =>
    -- the index goes to the last operand
    obtain ⟨front, last, rfl⟩ := (List.eq_nil_or_concat' items).resolve_left some
    refine ⟨unwritten (connective.shape (front ++ [unwritten (.indexedAccess last index)])), ?_, ?_⟩
    · have operand : (unwritten (.indexedAccess last index)).printOperand =
          last.printOperand ++ ("[" ++ index.print ++ "]") := by
        rw [printOperand_eq (by simp [unwritten]), printOperand_eq (plain last (by simp))]
        simp [unwritten, print, String.append_assoc]
      rw [unwritten, print_combined, print, print_combined, List.map_append, List.map_append]
      simp only [List.map_cons, List.map_nil, operand]
      rw [intercalate_split]
      simp [String.append_assoc]
    · intro alike
      have form := alike.form_eq
      cases connective <;> cases form
  | @nested connective items text text' several front back =>
    -- the operands of the operand become operands
    refine ⟨unwritten (connective.shape (front ++ (items ++ back))), ?_, ?_⟩
    · rw [unwritten, print_combined, print_combined]
      simp only [List.map_append, List.map_cons, printOperand_combined]
      rw [intercalate_nested]
      rw [Ne, List.map_eq_nil_iff]
      rintro rfl
      simp at several
    · intro alike
      have length := alike.length_eq
      simp only [List.length_append, List.length_cons] at length
      omega
  | @crossed items text text' several plain front back =>
    -- what stands before and after the operand goes to its own first and last operand
    obtain ⟨first, rest, rfl⟩ := List.exists_cons_of_length_pos (Nat.lt_of_lt_of_le Nat.two_pos several)
    have more : rest ≠ [] := by rintro rfl; simp at several
    obtain ⟨middle, last, rfl⟩ := (List.eq_nil_or_concat' rest).resolve_left more
    let head := unwritten (Connective.intersection.shape (front ++ [first]))
    let rear := unwritten (Connective.intersection.shape (last :: back))
    refine ⟨unwritten (Connective.union.shape (head :: (middle ++ [rear]))), ?_, ?_⟩
    · simp only [head, rear, unwritten, print_combined, printOperand_combined, List.map_cons, List.map_append,
        List.map_nil]
      exact intercalate_crossed _ _ _ _ _ _ _
    · intro alike
      cases alike.form_eq

end TypeExpr

namespace Node

/-- The type `(A & B)["x"]`. -/
def indexedIntersection : Node :=
  group .lookupType none "(A & B)[\"x\"]"
    [group .parenthesizedType none "(A & B)"
        [group .intersectionType none "A & B" [typeWord "A", typeWord "B"]],
      textWord "\"x\""]

/-- The type `A & B["x"]`. -/
def intersectedIndex : Node :=
  group .intersectionType none "A & B[\"x\"]"
    [typeWord "A", group .lookupType none "B[\"x\"]" [typeWord "B", textWord "\"x\""]]

/-- The indexed intersection, as it is read. -/
theorem toType_indexedIntersection :
    indexedIntersection.toType =
      ⟨.indexedAccess ⟨.intersection [⟨.reference "A" [], "A"⟩, ⟨.reference "B" [], "B"⟩], "A & B"⟩
        ⟨.literal "\"x\"", "\"x\""⟩, "(A & B)[\"x\"]"⟩ := by
  cbv

/-- The intersection with an indexed type, as it is read. -/
theorem toType_intersectedIndex :
    intersectedIndex.toType =
      ⟨.intersection [⟨.reference "A" [], "A"⟩, ⟨.indexedAccess ⟨.reference "B" [], "B"⟩
        ⟨.literal "\"x\"", "\"x\""⟩, "B[\"x\"]"⟩], "A & B[\"x\"]"⟩ := by
  cbv

/-- The types `(A & B)["x"]` and `A & B["x"]` have one text and are not alike. Only the first is
left of them when they are joined. -/
theorem not_apart_indexedIntersection :
    indexedIntersection.toType.print = "A & B[\"x\"]" ∧
      intersectedIndex.toType.print = "A & B[\"x\"]" ∧
      ¬ indexedIntersection.toType.Alike intersectedIndex.toType ∧
      TypeExpr.join [indexedIntersection.toType, intersectedIndex.toType] =
        some indexedIntersection.toType := by
  refine ⟨?_, ?_, fun alike => ?_, ?_⟩
  · rw [toType_indexedIntersection]
    decide +kernel
  · rw [toType_intersectedIndex]
    decide +kernel
  · have form := alike.form_eq
    rw [toType_indexedIntersection, toType_intersectedIndex] at form
    cases form
  · rw [toType_indexedIntersection, toType_intersectedIndex]
    decide +kernel

end Node

end TypeAtlas
