import Mathlib.Data.List.TakeWhile
import Mathlib.Order.MinMax
import TypeAtlas.Text.Edit

/-!
# The edit between two texts

An edit replaces a stretch of one text by a stretch of another, both between characters, so that the
second text comes out (`Edit.Replaces`). What an edit keeps are the bytes before the stretch and
those after it.

Main statement: `Edit.keepsMost_between?`. The edit that is found between two different texts
replaces one by the other, and no such edit keeps more bytes. Going back to a place between
characters loses nothing. A start that the texts share is met on the way back, so the longest one is
found (`exists_longest_start`). In an ending that they share, a place is between characters in one
of the texts if it is in the other (`between_of_drop_eq`). So if the start leaves too little room
for the longest ending, there is an ending that takes up all the room that is left
(`add_le_of_longest`).
-/

set_option autoImplicit false

namespace TypeAtlas.Text

/-! ### Bytes in common -/

/-- Two lists agree in their first byte and as far as the rest does, or not at all. -/
theorem agreement_cons (a b : UInt8) (as bs : List UInt8) :
    agreement (a :: as) (b :: bs) = if a = b then agreement as bs + 1 else 0 := by
  unfold agreement
  rw [List.zip_cons_cons, List.takeWhile_cons]
  by_cases same : a = b <;> simp [same]

/-- Lists agree no further than either of them is long. -/
theorem agreement_le : (as bs : List UInt8) →
    agreement as bs ≤ as.length ∧ agreement as bs ≤ bs.length
  | [], _ => ⟨Nat.le_refl 0, Nat.zero_le _⟩
  | _ :: _, [] => ⟨Nat.zero_le _, Nat.le_refl 0⟩
  | a :: as, b :: bs => by
    have rest := agreement_le as bs
    rw [agreement_cons, List.length_cons, List.length_cons]
    split_ifs <;> omega

/-- The lists agree as far as is said. -/
theorem take_agreement : (as bs : List UInt8) →
    as.take (agreement as bs) = bs.take (agreement as bs)
  | [], _ => rfl
  | _ :: _, [] => rfl
  | a :: as, b :: bs => by
    rw [agreement_cons]
    split_ifs with same
    · rw [List.take_succ_cons, List.take_succ_cons, same, take_agreement as bs]
    · rfl

/-- And they agree no further. -/
theorem le_agreement : {as bs : List UInt8} → {n : Nat} → n ≤ as.length → n ≤ bs.length →
    as.take n = bs.take n → n ≤ agreement as bs
  | _, _, 0, _, _, _ => Nat.zero_le _
  | a :: as, b :: bs, n + 1, inFirst, inSecond, same => by
    rw [List.take_succ_cons, List.take_succ_cons, List.cons.injEq] at same
    rw [agreement_cons, if_pos same.1]
    exact Nat.succ_le_succ
      (le_agreement (Nat.le_of_succ_le_succ inFirst) (Nat.le_of_succ_le_succ inSecond) same.2)

/-- Lists that start alike do so for fewer bytes, too. -/
theorem take_eq_of_le {as bs : List UInt8} {n m : Nat} (same : as.take n = bs.take n)
    (less : m ≤ n) : as.take m = bs.take m := by
  have shorter := congrArg (List.take m) same
  rwa [List.take_take, List.take_take, Nat.min_eq_left less] at shorter

/-! ### Going back -/

/-- Going down finds the largest number that passes the test, if 0 passes it. -/
theorem exists_downTo? (test : Nat → Bool) (lowest : test 0 = true) : (n : Nat) →
    ∃ found, downTo? test n = some found ∧ found ≤ n ∧ test found = true ∧
      ∀ k ≤ n, test k = true → k ≤ found
  | 0 => ⟨0, by rw [downTo?, if_pos lowest], Nat.le_refl 0, lowest, fun _ small _ => small⟩
  | n + 1 => by
    rw [downTo?]
    split_ifs with here
    · exact ⟨n + 1, rfl, Nat.le_refl _, here, fun _ small _ => small⟩
    · obtain ⟨found, is, below, passes, largest⟩ := exists_downTo? test lowest n
      refine ⟨found, is, Nat.le_succ_of_le below, passes, fun k small passed => ?_⟩
      have other : k ≠ n + 1 := fun same => here (same ▸ passed)
      exact largest k (by omega) passed

/-! ### Places between characters -/

/-- A text has as many bytes as its size says. -/
theorem length_bytes (text : String) : (bytes text).length = text.utf8ByteSize :=
  String.size_toByteArray

/-- The offset is between characters: the text is made of one of so many bytes and another one. -/
def Between (text : String) (offset : Nat) : Prop :=
  ∃ before after, text = before ++ after ∧ before.utf8ByteSize = offset

/-- The test for an offset between characters finds out whether the text can be parted there. -/
theorem isBetween_iff {text : String} {offset : Nat} :
    isBetween text offset = true ↔ Between text offset := by
  rw [isBetween, String.Pos.Raw.isValid_eq_true_iff, String.Pos.Raw.isValid_iff_exists_append]
  simp only [String.Pos.Raw.ext_iff, String.byteIdx_rawEndPos, eq_comm, Between]

/-- The start of a text is between characters. -/
theorem between_zero (text : String) : Between text 0 := ⟨"", text, by simp, rfl⟩

/-- The end of a text is between characters. -/
theorem between_size (text : String) : Between text text.utf8ByteSize := ⟨text, "", by simp, rfl⟩

/-- A place is between characters if what comes after it is the form of a text. -/
theorem between_iff_isValidUTF8 {text : String} {offset : Nat} :
    Between text offset ↔ offset ≤ text.utf8ByteSize ∧
      (text.toByteArray.extract offset text.utf8ByteSize).IsValidUTF8 := by
  rw [← isBetween_iff, isBetween, String.Pos.Raw.isValid_eq_true_iff,
    String.Pos.Raw.isValid_iff_isValidUTF8_extract_utf8ByteSize]
  rfl

/-- The bytes from an offset on are those that are left when those before it are dropped. -/
theorem toList_extract (text : String) (offset : Nat) :
    (text.toByteArray.extract offset text.utf8ByteSize).data.toList = (bytes text).drop offset := by
  have whole : (bytes text).extract offset text.utf8ByteSize = (bytes text).drop offset := by
    rw [List.extract_eq_take_drop, List.take_of_length_le]
    rw [List.length_drop, length_bytes]
  rw [ByteArray.data_extract, Array.toList_extract]
  exact whole

/-- Where two texts end alike, a place in the ending is between characters in one of them if it is
in the other. -/
theorem between_of_drop_eq {text other : String} {offset otherOffset : Nat}
    (same : (bytes text).drop offset = (bytes other).drop otherOffset)
    (inside : otherOffset ≤ other.utf8ByteSize) (h : Between text offset) :
    Between other otherOffset := by
  rw [between_iff_isValidUTF8] at h ⊢
  have endings : other.toByteArray.extract otherOffset other.utf8ByteSize =
      text.toByteArray.extract offset text.utf8ByteSize := by
    refine ByteArray.ext (Array.toList_inj.mp ?_)
    rw [toList_extract, toList_extract, same]
  exact ⟨inside, endings ▸ h.2⟩

/-! ### Starts and endings in common -/

/-- The texts start with the same whole characters, which are so many bytes. -/
structure ShareStart (old new : String) (n : Nat) : Prop where
  le_old : n ≤ old.utf8ByteSize
  le_new : n ≤ new.utf8ByteSize
  between_old : Between old n
  between_new : Between new n
  same : (bytes old).take n = (bytes new).take n

/-- The texts end with the same whole characters, which are so many bytes. -/
structure ShareEnding (old new : String) (n : Nat) : Prop where
  le_old : n ≤ old.utf8ByteSize
  le_new : n ≤ new.utf8ByteSize
  between_old : Between old (old.utf8ByteSize - n)
  between_new : Between new (new.utf8ByteSize - n)
  same : (bytes old).drop (old.utf8ByteSize - n) = (bytes new).drop (new.utf8ByteSize - n)

section

variable (old new : String)

/-- Comparing from the start and going back finds the longest start in common. -/
theorem exists_longest_start :
    ∃ first, downTo? (fun n => isBetween old n && isBetween new n)
        (agreement (bytes old) (bytes new)) = some first ∧
      ShareStart old new first ∧ ∀ n, ShareStart old new n → n ≤ first := by
  have inBoth := agreement_le (bytes old) (bytes new)
  rw [length_bytes, length_bytes] at inBoth
  obtain ⟨first, found, below, between, most⟩ :=
    exists_downTo? (fun n => isBetween old n && isBetween new n)
      (by simp [isBetween_iff, between_zero]) (agreement (bytes old) (bytes new))
  simp only [Bool.and_eq_true, isBetween_iff] at between most
  refine ⟨first, found, ⟨by omega, by omega, between.1, between.2, ?_⟩, fun n shared => ?_⟩
  · exact take_eq_of_le (take_agreement _ _) below
  · refine most n (le_agreement ?_ ?_ shared.same) ⟨shared.between_old, shared.between_new⟩
    · rw [length_bytes]
      exact shared.le_old
    · rw [length_bytes]
      exact shared.le_new

variable {old new}

/-- Backwards the texts start with the same bytes exactly if they end with the same. -/
theorem take_reverse_eq_iff {n : Nat} :
    (bytes old).reverse.take n = (bytes new).reverse.take n ↔
      (bytes old).drop (old.utf8ByteSize - n) = (bytes new).drop (new.utf8ByteSize - n) := by
  rw [List.take_reverse, List.take_reverse, List.reverse_inj, length_bytes, length_bytes]

/-- A common ending is one of fewer bytes, too, if these are whole characters in one of the
texts. -/
theorem ShareEnding.of_le {n m : Nat} (h : ShareEnding old new m) (less : n ≤ m)
    (between : Between old (old.utf8ByteSize - n) ∨
      Between new (new.utf8ByteSize - n)) : ShareEnding old new n := by
  have same : (bytes old).drop (old.utf8ByteSize - n) =
      (bytes new).drop (new.utf8ByteSize - n) :=
    take_reverse_eq_iff.mp (take_eq_of_le (take_reverse_eq_iff.mpr h.same) less)
  refine ⟨less.trans h.le_old, less.trans h.le_new, ?_, ?_, same⟩
  · exact between.elim id (between_of_drop_eq same.symm (Nat.sub_le _ _))
  · exact between.elim (between_of_drop_eq same (Nat.sub_le _ _)) id

variable (old new) in
/-- Comparing from the end and going back finds the longest ending in common that there is room
for. -/
theorem exists_longest_ending (room : Nat) (old_fits : room ≤ old.utf8ByteSize)
    (new_fits : room ≤ new.utf8ByteSize) :
    ∃ last, downTo? (fun n => isBetween old (old.utf8ByteSize - n) &&
          isBetween new (new.utf8ByteSize - n))
        (agreement ((bytes old).reverse.take room) ((bytes new).reverse.take room)) = some last ∧
      last ≤ room ∧ ShareEnding old new last ∧
        ∀ n ≤ room, ShareEnding old new n → n ≤ last := by
  have inBoth := agreement_le ((bytes old).reverse.take room) ((bytes new).reverse.take room)
  have lengths (text : String) (fits : room ≤ text.utf8ByteSize) :
      ((bytes text).reverse.take room).length = room := by
    rw [List.length_take, List.length_reverse, length_bytes, Nat.min_eq_left fits]
  rw [lengths old old_fits, lengths new new_fits] at inBoth
  obtain ⟨last, found, below, between, most⟩ :=
    exists_downTo? (fun n => isBetween old (old.utf8ByteSize - n) &&
        isBetween new (new.utf8ByteSize - n))
      (by simp [isBetween_iff, between_size])
      (agreement ((bytes old).reverse.take room) ((bytes new).reverse.take room))
  simp only [Bool.and_eq_true, isBetween_iff] at between most
  have inRoom : last ≤ room := by omega
  refine ⟨last, found, inRoom, ⟨by omega, by omega, between.1, between.2, ?_⟩,
    fun n fits shared => ?_⟩
  · have same := take_eq_of_le (take_agreement _ _) below
    rw [List.take_take, List.take_take, Nat.min_eq_left inRoom] at same
    exact take_reverse_eq_iff.mp same
  · refine most n (le_agreement ?_ ?_ ?_) ⟨shared.between_old, shared.between_new⟩
    · rwa [lengths old old_fits]
    · rwa [lengths new new_fits]
    · rw [List.take_take, List.take_take, Nat.min_eq_left fits]
      exact take_reverse_eq_iff.mpr shared.same

/-- Nothing is lost by taking first the longest start in common and then the longest ending that
there is room for: if the latter is not the longest of all, it takes up all the room. -/
theorem add_le_of_longest {first last : Nat} (start : ShareStart old new first)
    (first_most : ∀ n, ShareStart old new n → n ≤ first)
    (last_most : ∀ n ≤ min old.utf8ByteSize new.utf8ByteSize - first, ShareEnding old new n →
      n ≤ last)
    {n m : Nat} (hn : ShareStart old new n) (hm : ShareEnding old new m)
    (fits : n + m ≤ min old.utf8ByteSize new.utf8ByteSize) : n + m ≤ first + last := by
  have less := first_most n hn
  by_cases inRoom : m ≤ min old.utf8ByteSize new.utf8ByteSize - first
  · exact Nat.add_le_add less (last_most m inRoom hm)
  · -- in the shorter text the room begins where the longest start ends, so between characters
    have between : Between old (old.utf8ByteSize - (min old.utf8ByteSize new.utf8ByteSize - first)) ∨
        Between new (new.utf8ByteSize - (min old.utf8ByteSize new.utf8ByteSize - first)) := by
      have old_le := start.le_old
      have new_le := start.le_new
      rcases Nat.le_total old.utf8ByteSize new.utf8ByteSize with shorter | shorter
      · left
        rw [Nat.min_eq_left shorter, Nat.sub_sub_self old_le]
        exact start.between_old
      · right
        rw [Nat.min_eq_right shorter, Nat.sub_sub_self new_le]
        exact start.between_new
    have whole := last_most _ (Nat.le_refl _) (hm.of_le (by omega) between)
    omega

end

/-! ### Edits -/

namespace Edit

/-- Replacing a stretch of the old text by a stretch of the new one gives the new text: both
stretches lie between characters, and the texts agree before them and after them. -/
structure Replaces (old new : String) (start oldEnd newEnd : Nat) : Prop where
  start_le_oldEnd : start ≤ oldEnd
  start_le_newEnd : start ≤ newEnd
  oldEnd_le : oldEnd ≤ old.utf8ByteSize
  newEnd_le : newEnd ≤ new.utf8ByteSize
  start_between : Between old start ∧ Between new start
  oldEnd_between : Between old oldEnd
  newEnd_between : Between new newEnd
  before : (bytes old).take start = (bytes new).take start
  after : (bytes old).drop oldEnd = (bytes new).drop newEnd

variable {old new : String}

section

variable {start oldEnd newEnd : Nat} (h : Replaces old new start oldEnd newEnd)

include h

/-- With the stretch replaced the old text has become the new one. -/
theorem Replaces.splice :
    (bytes old).take start ++ ((bytes new).take newEnd).drop start ++ (bytes old).drop oldEnd =
      bytes new := by
  have first : (bytes new).take start = ((bytes new).take newEnd).take start := by
    rw [List.take_take, Nat.min_eq_left h.start_le_newEnd]
  rw [h.before, h.after, first, List.take_append_drop, List.take_append_drop]

/-- If an edit gives the new text, the texts start with the same characters up to it. -/
theorem Replaces.shareStart : ShareStart old new start :=
  ⟨h.start_le_oldEnd.trans h.oldEnd_le, h.start_le_newEnd.trans h.newEnd_le, h.start_between.1,
    h.start_between.2, h.before⟩

/-- What is kept at the end is as long in both texts. -/
theorem Replaces.size_sub : old.utf8ByteSize - oldEnd = new.utf8ByteSize - newEnd := by
  have lengths := congrArg List.length h.after
  rwa [List.length_drop, List.length_drop, length_bytes, length_bytes] at lengths

/-- If an edit gives the new text, the texts end with the same characters after it. -/
theorem Replaces.shareEnding : ShareEnding old new (old.utf8ByteSize - oldEnd) := by
  have oldBack : old.utf8ByteSize - (old.utf8ByteSize - oldEnd) = oldEnd :=
    Nat.sub_sub_self h.oldEnd_le
  have newBack : new.utf8ByteSize - (old.utf8ByteSize - oldEnd) = newEnd := by
    rw [h.size_sub, Nat.sub_sub_self h.newEnd_le]
  refine ⟨Nat.sub_le _ _, h.size_sub ▸ Nat.sub_le _ _, ?_, ?_, ?_⟩
  · rw [oldBack]
    exact h.oldEnd_between
  · rw [newBack]
    exact h.newEnd_between
  · rw [oldBack, newBack]
    exact h.after

end

/-- An edit between a common start and a common end gives the new text, if the two do not
overlap. -/
theorem replaces_of_share {first last : Nat} (start : ShareStart old new first)
    (ending : ShareEnding old new last)
    (fits : first + last ≤ min old.utf8ByteSize new.utf8ByteSize) :
    Replaces old new first (old.utf8ByteSize - last) (new.utf8ByteSize - last) :=
  ⟨by omega, by omega, Nat.sub_le _ _, Nat.sub_le _ _, ⟨start.between_old, start.between_new⟩,
    ending.between_old, ending.between_new, start.same, ending.same⟩

/-- The edit replaces the old text by the new one and keeps as many bytes as any that does. -/
structure KeepsMost (old new : String) (edit : Edit) : Prop where
  replaces : Replaces old new edit.startByte edit.oldEndByte edit.newEndByte
  splice : (bytes old).take edit.startByte ++
      ((bytes new).take edit.newEndByte).drop edit.startByte ++
        (bytes old).drop edit.oldEndByte = bytes new
  most : ∀ start oldEnd newEnd, Replaces old new start oldEnd newEnd →
    start + (old.utf8ByteSize - oldEnd) ≤
      edit.startByte + (old.utf8ByteSize - edit.oldEndByte)

/-- Going back to a place between characters always ends, and what is found is kept by an edit that
replaces the old text by the new one and keeps most. -/
theorem exists_kept? (old new : String) :
    ∃ first last, kept? old new = some (first, last) ∧
      Replaces old new first (old.utf8ByteSize - last) (new.utf8ByteSize - last) ∧
        ∀ start oldEnd newEnd, Replaces old new start oldEnd newEnd →
          start + (old.utf8ByteSize - oldEnd) ≤
            first + (old.utf8ByteSize - (old.utf8ByteSize - last)) := by
  obtain ⟨first, firstFound, start, firstMost⟩ := exists_longest_start old new
  have old_fits := start.le_old
  have new_fits := start.le_new
  obtain ⟨last, lastFound, inRoom, ending, lastMost⟩ :=
    exists_longest_ending old new (min old.utf8ByteSize new.utf8ByteSize - first)
      (by omega) (by omega)
  refine ⟨first, last, ?_, replaces_of_share start ending (by omega), fun _ _ _ other => ?_⟩
  · simp only [kept?, firstFound, lastFound, Option.bind_eq_bind, Option.bind_some, Option.pure_def]
  · have order := other.start_le_oldEnd
    have newOrder := other.start_le_newEnd
    have inOld := other.oldEnd_le
    have inNew := other.newEnd_le
    have sizes := other.size_sub
    rw [Nat.sub_sub_self ending.le_old]
    exact add_le_of_longest start firstMost lastMost other.shareStart other.shareEnding (by omega)

/-- Going back to a place between characters always ends. There is no edit between two texts exactly
if they are equal, and otherwise it replaces one by the other and no such edit keeps more bytes. -/
theorem keepsMost_between? (old new : String) :
    (kept? old new).isSome ∧ (between? old new = none ↔ old = new) ∧
      ∀ edit ∈ between? old new, edit.KeepsMost old new := by
  obtain ⟨first, last, found, replaces, most⟩ := exists_kept? old new
  refine ⟨found ▸ rfl, ?_, fun edit made => ?_⟩
  · rw [between?, found]
    split_ifs with same <;> simp [same]
  · rw [between?, found] at made
    split_ifs at made
    · cases made
    · cases made
      exact ⟨replaces, replaces.splice, most⟩

/-- The letters é and è begin with the same byte, which no edit keeps. -/
theorem keepsMost_accents :
    between? "aé" "aè" = some ⟨1, 3, 3, ⟨0, 1⟩, ⟨0, 3⟩, ⟨0, 3⟩⟩ ∧
      KeepsMost "aé" "aè" ⟨1, 3, 3, ⟨0, 1⟩, ⟨0, 3⟩, ⟨0, 3⟩⟩ := by
  have found : between? "aé" "aè" = some ⟨1, 3, 3, ⟨0, 1⟩, ⟨0, 3⟩, ⟨0, 3⟩⟩ := by decide
  exact ⟨found, (keepsMost_between? "aé" "aè").2.2 _ found⟩

end Edit

end TypeAtlas.Text
