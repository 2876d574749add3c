import GrammarLex.Text.Span
import Mathlib.Data.List.Induction

/-!
# Numbers that fit their words

A character moves a position on by at most four bytes, one line and one column. So in a text of at most
two characters less than a line number can tell, all numbers of a position leave room for one more, and
the span of one further character fits as well.
-/
namespace GrammarLex

/-- A line and a column, each of them at least one and below the greatest number of its word. -/
def Charted (line column : Nat) : Prop :=
  (1 ≤ line ∧ line < maxWord32) ∧ 1 ≤ column ∧ column < maxWord32

namespace Position

/-- The numbers of a position are bounded by the characters in front of it. -/
theorem bounds_advanceBy (p : Position) (text : List Char) :
    (p.advanceBy text).offset ≤ p.offset + 4 * text.length ∧
      (p.advanceBy text).line ≤ p.line + text.length ∧
      (p.advanceBy text).column ≤ max 1 p.column + text.length := by
  induction text generalizing p with
  | nil => exact ⟨Nat.le_refl _, Nat.le_refl _, Nat.le_max_right 1 p.column⟩
  | cons c text ih =>
    obtain ⟨offset, line, column⟩ := ih (p.advance c)
    have width := offset_advance p c
    have narrow := c.utf8Size_le_four
    have moved : (p.advance c).line ≤ p.line + 1 ∧ (p.advance c).column ≤ p.column + 1 := by
      unfold advance
      split <;> simp
    rw [advanceBy_cons, List.length_cons]
    omega

theorem one_le_advanceBy (p : Position) (text : List Char) (line : 1 ≤ p.line)
    (column : 1 ≤ p.column) : 1 ≤ (p.advanceBy text).line ∧ 1 ≤ (p.advanceBy text).column := by
  induction text generalizing p with
  | nil => exact ⟨line, column⟩
  | cons c text ih =>
    apply ih (p.advance c)
    · unfold advance
      split
      · exact Nat.succ_pos p.line
      · exact line
    · unfold advance
      split
      · exact Nat.le_refl 1
      · exact Nat.succ_pos p.column

/-- The position is the one behind so many characters at most. -/
def Reached (size : Nat) (p : Position) : Prop :=
  ∃ used : List Char, used.length ≤ size ∧ p = start.advanceBy used

namespace Reached

variable {size : Nat} {p : Position}

theorem charted (reached : p.Reached size) (short : size ≤ maxWord32 - 2) :
    Charted p.line p.column := by
  obtain ⟨used, within, rfl⟩ := reached
  obtain ⟨-, line, column⟩ := bounds_advanceBy start used
  obtain ⟨lineFrom, columnFrom⟩ := one_le_advanceBy start used (Nat.le_refl 1) (Nat.le_refl 1)
  simp only [start, maxWord32] at line column short
  refine ⟨⟨lineFrom, ?_⟩, columnFrom, ?_⟩ <;> simp only [maxWord32, start] <;> omega

/-- Not only the position fits its words, but also the end of one more character behind it. -/
theorem single_fits (reached : p.Reached size) (short : size ≤ maxWord32 - 2) :
    p.Fits ∧ (Span.single p).stop.Fits := by
  obtain ⟨⟨-, line⟩, -, column⟩ := reached.charted short
  obtain ⟨used, within, rfl⟩ := reached
  obtain ⟨offset, -⟩ := bounds_advanceBy start used
  have room : (start.advanceBy used).offset < maxWord64 := by
    simp only [start, maxWord32, maxWord64] at offset short ⊢
    omega
  exact ⟨⟨Nat.le_of_lt room, Nat.le_of_lt line, Nat.le_of_lt column⟩, room, Nat.le_of_lt line, column⟩

end Reached

variable {u : List Char}

/-- In a text that is not too long no position overflows. -/
theorem advanceBy?_eq_ok (short : u.length ≤ maxWord32 - 2) :
    start.advanceBy? u = .ok (start.advanceBy u) := by
  induction u using List.reverseRecOn with
  | nil => rfl
  | append_singleton u c ih =>
    have reached : (start.advanceBy (u ++ [c])).Reached (u ++ [c]).length := ⟨_, Nat.le_refl _, rfl⟩
    have fits := (reached.single_fits short).1
    rw [List.length_append, List.length_singleton] at short
    have moved : (start.advanceBy u).advance? c = .ok (start.advanceBy (u ++ [c])) := by
      rw [advanceBy_append] at fits ⊢
      exact if_pos fits
    rw [advanceBy?, List.foldlM_append]
    change (start.advanceBy? u >>= fun p => [c].foldlM advance? p) = _
    rw [ih (Nat.le_of_succ_le short)]
    change [c].foldlM advance? (start.advanceBy u) = _
    rw [List.foldlM_cons, moved]
    rfl

end Position

end GrammarLex
