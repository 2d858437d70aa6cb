import Mathlib.Data.List.Count
import Mathlib.Data.Prod.Lex
import Mathlib.Order.Interval.Set.Defs
import Mathlib.Order.Monotone.Defs
import TypeAtlas.Proofs.Text.Edits

/-!
# The points of an edit

A place of a text is told by its row and its column, and an edit tells where it starts and ends in
this way, too. Who keeps places of the old text moves those after the edit by the difference of its
two ends.

Main statement: `Edit.carriesPoints_between?`. Places have their order, and the edit between two
texts moves the places of what the texts have in common at their ends as it should. All of it
follows from how more bytes lead on from a point: every line break among them is one more row
(`Point.row_after_append`), and after one the column does not depend on that point any more
(`Point.column_after_append_of_mem`).
-/

set_option autoImplicit false

namespace TypeAtlas.Text

namespace Point

/-- Points are in the order of their rows, and in a row in that of their columns. -/
instance : LinearOrder Point :=
  LinearOrder.lift' (fun point => toLex (point.row, point.column)) fun p q same => by
    cases p
    cases q
    simpa using same

/-- A point is before another one if it is on an earlier row, or on the same row in an earlier
column. -/
theorem lt_iff {p q : Point} :
    p < q ↔ p.row < q.row ∨ p.row = q.row ∧ p.column < q.column :=
  Prod.Lex.toLex_lt_toLex

section

variable (before : List UInt8) {more : List UInt8}

/-- Every line break among the bytes that follow leads one row down. -/
theorem row_after_append (more : List UInt8) :
    (after (before ++ more)).row = (after before).row + more.count lineBreak :=
  List.count_append

/-- After a line break the column is counted anew. -/
theorem column_after_append_of_mem (broken : lineBreak ∈ more) :
    (after (before ++ more)).column = (after more).column := by
  have stops : (more.reverse.takeWhile (· != lineBreak)).length ≠ more.reverse.length := by
    intro all
    have whole := (List.takeWhile_prefix (· != lineBreak)).eq_of_length all
    have passes := List.takeWhile_eq_self_iff.mp whole lineBreak (List.mem_reverse.mpr broken)
    simp at passes
  rw [after, List.reverse_append, List.takeWhile_append, if_neg stops, after]

/-- Without a line break the column goes on byte by byte. -/
theorem column_after_append_of_notMem (unbroken : lineBreak ∉ more) :
    (after (before ++ more)).column = (after before).column + more.length := by
  have whole : more.reverse.takeWhile (· != lineBreak) = more.reverse := by
    rw [List.takeWhile_eq_self_iff]
    intro byte inside
    have other : byte ≠ lineBreak := fun same => unbroken (same ▸ List.mem_reverse.mp inside)
    simpa using other
  rw [after, List.reverse_append, List.takeWhile_append, whole, if_pos rfl, List.length_append,
    List.length_reverse, Nat.add_comm, after]

end

/-- The point of a later offset is that after the bytes before the first one and those between the
two. -/
theorem ofOffset_add (text : String) (offset k : Nat) :
    ofOffset text (offset + k) =
      after ((bytes text).take offset ++ ((bytes text).drop offset).take k) := by
  rw [ofOffset, List.take_add]

/-- A later place has a greater point. -/
theorem strictMonoOn_ofOffset (text : String) :
    StrictMonoOn (ofOffset text) (Set.Iic text.utf8ByteSize) := by
  intro first _ second inside less
  obtain ⟨k, rfl⟩ := Nat.exists_eq_add_of_lt less
  have room : first + k + 1 ≤ text.utf8ByteSize := inside
  have passed : (((bytes text).drop first).take (k + 1)).length = k + 1 := by
    rw [List.length_take, List.length_drop, length_bytes]
    omega
  rw [Nat.add_assoc, ofOffset_add, lt_iff, row_after_append]
  by_cases broken : lineBreak ∈ ((bytes text).drop first).take (k + 1)
  · left
    have some_break := List.count_pos_iff.mpr broken
    exact Nat.lt_add_of_pos_right some_break
  · right
    rw [column_after_append_of_notMem _ broken, List.count_eq_zero_of_not_mem broken, passed]
    exact ⟨rfl, Nat.lt_add_of_pos_right (Nat.succ_pos k)⟩

end Point

namespace Edit

/-- The first bytes of what an edit keeps at the end of the old text. -/
def keptEnding (edit : Edit) (old : String) (k : Nat) : List UInt8 :=
  ((bytes old).drop edit.oldEndByte).take k

/-- The points of an edit are those of its places. What both texts have in common at their ends is
as far from the one end of the edit as from the other: as many rows below, and in the same column
unless no line is broken in between, when it is as many bytes past the end. -/
structure CarriesPoints (old new : String) (edit : Edit) : Prop where
  ending : (bytes old).drop edit.oldEndByte = (bytes new).drop edit.newEndByte
  start_old : Point.ofOffset old edit.startByte = edit.start
  start_new : Point.ofOffset new edit.startByte = edit.start
  oldEnd : Point.ofOffset old edit.oldEndByte = edit.oldEnd
  newEnd : Point.ofOffset new edit.newEndByte = edit.newEnd
  rows : ∀ k ≤ old.utf8ByteSize - edit.oldEndByte, ∃ rows,
    (Point.ofOffset old (edit.oldEndByte + k)).row = edit.oldEnd.row + rows ∧
      (Point.ofOffset new (edit.newEndByte + k)).row = edit.newEnd.row + rows
  columns : ∀ k ≤ old.utf8ByteSize - edit.oldEndByte, lineBreak ∈ edit.keptEnding old k →
    (Point.ofOffset old (edit.oldEndByte + k)).column =
      (Point.ofOffset new (edit.newEndByte + k)).column
  columns_of_unbroken : ∀ k ≤ old.utf8ByteSize - edit.oldEndByte,
    lineBreak ∉ edit.keptEnding old k →
      (Point.ofOffset old (edit.oldEndByte + k)).column = edit.oldEnd.column + k ∧
        (Point.ofOffset new (edit.newEndByte + k)).column = edit.newEnd.column + k

/-- Whatever edit replaces one text by another carries points, if its own are those of its
places. -/
theorem Replaces.carriesPoints {old new : String} {start oldEnd newEnd : Nat}
    (h : Replaces old new start oldEnd newEnd) :
    CarriesPoints old new ⟨start, oldEnd, newEnd, Point.ofOffset old start,
      Point.ofOffset old oldEnd, Point.ofOffset new newEnd⟩ := by
  have length_kept {k : Nat} (small : k ≤ old.utf8ByteSize - oldEnd) :
      (((bytes old).drop oldEnd).take k).length = k := by
    rw [List.length_take, List.length_drop, length_bytes, Nat.min_eq_left small]
  -- past both ends the same bytes follow
  have old_point (k : Nat) := Point.ofOffset_add old oldEnd k
  have new_point (k : Nat) : Point.ofOffset new (newEnd + k) =
      Point.after ((bytes new).take newEnd ++ ((bytes old).drop oldEnd).take k) := by
    rw [h.after]
    exact Point.ofOffset_add new newEnd k
  refine ⟨h.after, rfl, congrArg Point.after h.before.symm, rfl, rfl, fun k _ => ?_,
    fun k _ (broken : lineBreak ∈ ((bytes old).drop oldEnd).take k) => ?_,
    fun k small (unbroken : lineBreak ∉ ((bytes old).drop oldEnd).take k) => ?_⟩
  · refine ⟨(((bytes old).drop oldEnd).take k).count lineBreak, ?_, ?_⟩
    · exact (congrArg Point.row (old_point k)).trans (Point.row_after_append _ _)
    · exact (congrArg Point.row (new_point k)).trans (Point.row_after_append _ _)
  · rw [old_point, new_point, Point.column_after_append_of_mem _ broken,
      Point.column_after_append_of_mem _ broken]
  · rw [old_point, new_point, Point.column_after_append_of_notMem _ unbroken,
      Point.column_after_append_of_notMem _ unbroken, length_kept small]
    exact ⟨rfl, rfl⟩

/-- Places of a text have points in their order, and the edit that is found between two different
texts tells the points of its places and carries those of what both texts have in common at their
ends. -/
theorem carriesPoints_between? :
    (∀ text, StrictMonoOn (Point.ofOffset text) (Set.Iic text.utf8ByteSize) ∧
      Set.InjOn (Point.ofOffset text) (Set.Iic text.utf8ByteSize)) ∧
    ∀ old new, old ≠ new →
      ∃ edit, between? old new = some edit ∧ edit.CarriesPoints old new := by
  refine ⟨fun text => ?_, fun old new differ => ?_⟩
  · have increasing := Point.strictMonoOn_ofOffset text
    exact ⟨increasing, increasing.injOn⟩
  · obtain ⟨first, last, found, replaces, -⟩ := exists_kept? old new
    refine ⟨_, ?_, replaces.carriesPoints⟩
    rw [between?, if_neg differ, found, Option.map_some]

/-- One line in the middle becomes two lines, and the line after them is kept. -/
theorem carriesPoints_lines :
    ∃ edit, between? "one\ntwo\nend" "one\nthree\nmore\nend" = some edit ∧
      edit.CarriesPoints "one\ntwo\nend" "one\nthree\nmore\nend" :=
  carriesPoints_between?.2 _ _ (by decide)

end Edit

end TypeAtlas.Text
