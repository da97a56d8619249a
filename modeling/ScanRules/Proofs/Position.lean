import ScanRules.Proofs.Text.Slice
import ScanRules.Position
import Mathlib.Data.List.DropRight

/-!
# Positions in a whole text

A position that has been advanced piece by piece never looks back at the text. These are the
positions it should agree with, counted out over everything in front.

- `Position.behind`: the position behind a text, by counting its line feeds and the characters of
  its last line.
- `Position.inText?`: the position of an offset of a text.
- `Position.advance_append`: the way in which a text is cut into pieces does not matter.
- `Position.advance_behind`: so advancing by a piece gives the position behind the longer text.
- `Position.foldl_step`: the pieces may be single characters.
-/

namespace ScanRules

namespace Position

/-- The position behind a text, counted out. -/
def behind (text : List Char) : Position :=
  ⟨byteSize text, 1 + text.count '\n', 1 + (text.rtakeWhile (· ≠ '\n')).length⟩

/-- The position of an offset of a text, if the offset falls between two characters. -/
def inText? (text : List Char) (offset : Nat) : Option Position :=
  (textBefore? text offset).map behind

@[simp] theorem behind_offset (text : List Char) : (behind text).offset = byteSize text := rfl

theorem inText?_append (a b : List Char) : inText? (a ++ b) (byteSize a) = some (behind a) := by
  rw [inText?, textBefore?_append, Option.map_some]

/-- The last line of an append is that of its second part, if this part has a line feed. -/
theorem rtakeWhile_append_of_mem (a : List Char) {b : List Char} (h : '\n' ∈ b) :
    (a ++ b).rtakeWhile (· ≠ '\n') = b.rtakeWhile (· ≠ '\n') := by
  have hshort : (b.reverse.takeWhile (· ≠ '\n')).length ≠ b.reverse.length := by
    intro heq
    have hall := List.takeWhile_eq_self_iff.1
      ((List.takeWhile_prefix (· ≠ '\n')).eq_of_length heq)
    simpa using hall '\n' (List.mem_reverse.2 h)
  simp only [List.rtakeWhile, List.reverse_append, List.takeWhile_append, if_neg hshort]

/-- A part without a line feed makes the last line longer. -/
theorem rtakeWhile_append_of_not_mem (a : List Char) {b : List Char} (h : '\n' ∉ b) :
    (a ++ b).rtakeWhile (· ≠ '\n') = a.rtakeWhile (· ≠ '\n') ++ b := by
  have hall : ∀ c ∈ b.reverse, (c ≠ '\n' : Bool) := by
    intro c hc
    have : c ≠ '\n' := fun heq => h (heq ▸ List.mem_reverse.1 hc)
    simpa using this
  simp only [List.rtakeWhile, List.reverse_append, List.takeWhile_append_of_pos hall,
    List.reverse_append, List.reverse_reverse]

theorem advance_of_mem (p : Position) {text : List Char} (h : '\n' ∈ text) :
    p.advance text = ⟨p.offset + byteSize text, p.line + text.count '\n',
      (text.rtakeWhile (· ≠ '\n')).length + 1⟩ := by
  rw [advance, lastLine?, if_pos h]
  rfl

theorem advance_of_not_mem (p : Position) {text : List Char} (h : '\n' ∉ text) :
    p.advance text = ⟨p.offset + byteSize text, p.line, p.column + text.length⟩ := by
  rw [advance, lastLine?, if_neg h]

@[simp] theorem advance_offset (p : Position) (text : List Char) :
    (p.advance text).offset = p.offset + byteSize text := by
  unfold advance
  split <;> rfl

@[simp] theorem advance_line (p : Position) (text : List Char) :
    (p.advance text).line = p.line + text.count '\n' := by
  by_cases h : '\n' ∈ text
  · rw [advance_of_mem p h]
  · rw [advance_of_not_mem p h, List.count_eq_zero.2 h, Nat.add_zero]

/-- Advancing over one text and then over another one is advancing over both. -/
theorem advance_append (p : Position) (a b : List Char) :
    p.advance (a ++ b) = (p.advance a).advance b := by
  by_cases hb : '\n' ∈ b
  · -- the column is counted from the last line feed of `b` alone
    rw [advance_of_mem p (List.mem_append_right a hb), advance_of_mem _ hb,
      rtakeWhile_append_of_mem a hb, advance_offset, advance_line, byteSize_append,
      List.count_append, Nat.add_assoc, Nat.add_assoc]
  · rw [advance_of_not_mem _ hb, advance_offset, Nat.add_assoc, ← byteSize_append]
    by_cases ha : '\n' ∈ a
    · rw [advance_of_mem p (List.mem_append_left b ha), advance_of_mem p ha,
        rtakeWhile_append_of_not_mem a hb, List.count_append, List.count_eq_zero.2 hb,
        List.length_append, Nat.add_right_comm]
      rfl
    · have hab : '\n' ∉ a ++ b := by
        rw [List.mem_append, not_or]
        exact ⟨ha, hb⟩
      rw [advance_of_not_mem p hab, advance_of_not_mem p ha, List.length_append, Nat.add_assoc]

theorem behind_eq_advance (text : List Char) : behind text = origin.advance text := by
  by_cases h : '\n' ∈ text
  · simp only [behind, advance_of_mem _ h, origin, Nat.zero_add, Nat.add_comm 1]
  · have hline : text.rtakeWhile (· ≠ '\n') = text := rtakeWhile_append_of_not_mem [] h
    simp only [behind, advance_of_not_mem _ h, origin, hline, List.count_eq_zero.2 h, Nat.zero_add,
      Nat.add_zero]

/-- Advancing from behind a text over another one leads behind both. -/
theorem advance_behind (a b : List Char) : (behind a).advance b = behind (a ++ b) := by
  rw [behind_eq_advance, behind_eq_advance, advance_append]

/-! ## Character by character -/

theorem advance_singleton (p : Position) (c : Char) : p.advance [c] = p.step c := by
  by_cases h : c = '\n'
  · subst h
    rfl
  · have hnot : '\n' ∉ [c] := fun hmem => h (List.mem_singleton.1 hmem).symm
    rw [advance_of_not_mem p hnot, step, if_neg h]
    rfl

/-- The shorter way leads to the same position as the one that goes through all characters. -/
theorem foldl_step (p : Position) (text : List Char) : text.foldl step p = p.advance text := by
  induction text generalizing p with
  | nil => rfl
  | cons c rest ih =>
    rw [List.foldl_cons, ih, ← advance_singleton, ← advance_append, List.singleton_append]

end Position

end ScanRules
