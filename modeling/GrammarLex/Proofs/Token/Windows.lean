import GrammarLex.Proofs.Token.Calls

/-!
# Windows on a buffer

Tokens can be shown without being handed out: those from the cursor on, or those around it. Which
tokens these are is told by their indices, compared as integers. A window around the cursor has one
answer less: its upper end has to fit a machine word.
-/
namespace GrammarLex

/-- The tokens at the indices from `low` to `high`. Either bound may lie outside the list. -/
def tokensBetween (tokens : List Token) (low high : Int) : List Token :=
  (tokens.zipIdx.filter fun (_, i) => decide (low ≤ i ∧ i ≤ high)).map Prod.fst

/-- Selecting by index is cutting off at both ends; the list may be counted from any number. -/
theorem filter_zipIdx (tokens : List Token) (first low high : Nat) :
    ((tokens.zipIdx first).filter fun (_, i) => decide (low ≤ i ∧ i < high)).map Prod.fst =
      (tokens.take (high - first)).drop (low - first) := by
  induction tokens generalizing first with
  | nil => simp
  | cons token tokens ih =>
    rw [List.zipIdx_cons, List.filter_cons]
    rcases Nat.lt_or_ge first high with inside | beyond
    · have more : high - first = high - (first + 1) + 1 := by omega
      rw [more, List.take_succ_cons]
      by_cases reached : low ≤ first
      · have none : low - first = 0 := by omega
        have none' : low - (first + 1) = 0 := by omega
        simp only [reached, inside, and_self, decide_true, if_true, List.map_cons, ih, none, none',
          List.drop_zero]
      · have less : low - first = low - (first + 1) + 1 := by omega
        simp only [reached, false_and, decide_false, Bool.false_eq_true, if_false, ih, less,
          List.drop_succ_cons]
    · have none : high - first = 0 := by omega
      have none' : high - (first + 1) = 0 := by omega
      have outside : ¬first < high := by omega
      simp only [outside, and_false, decide_false, Bool.false_eq_true, if_false, ih, none, none',
        List.take_zero, List.drop_nil]

theorem tokensBetween_eq (tokens : List Token) (center radius : Nat) :
    tokensBetween tokens (center - radius) (center + radius) =
      (tokens.take (center + radius + 1)).drop (center - radius) := by
  have same : (fun (entry : Token × Nat) =>
        decide ((center : Int) - radius ≤ entry.2 ∧ (entry.2 : Int) ≤ center + radius)) =
      fun (entry : Token × Nat) =>
        decide (center - radius ≤ entry.2 ∧ entry.2 < center + radius + 1) := by
    funext entry
    rw [decide_eq_decide]
    omega
  have cut := filter_zipIdx tokens 0 (center - radius) (center + radius + 1)
  rw [Nat.sub_zero, Nat.sub_zero] at cut
  rw [tokensBetween, ← cut]
  exact congrArg (fun keep => (tokens.zipIdx.filter keep).map Prod.fst) same

namespace TokenBuffer

variable {maxTokens : Nat} {b : TokenBuffer} {tokens : List Token}

theorem slice_eq (low high : Nat) (ordered : low ≤ high) (within : high ≤ b.size) :
    b.slice low high ordered within = (b.tokens.toList.take high).drop low := by
  rw [slice, Array.toList_extract, List.extract_eq_take_drop, List.drop_take]

namespace Lists

theorem remaining_eq (lists : b.Lists maxTokens tokens) : b.remaining = tokens.drop b.cursor := by
  have start : min b.cursor b.size = b.cursor :=
    Nat.min_eq_left (lists.size_eq ▸ lists.cursor_le)
  rw [remaining, slice_eq, start, lists.tokens_eq, lists.size_eq, List.take_length]

theorem lookahead_eq (lists : b.Lists maxTokens tokens) (count : Nat) :
    b.lookahead count = (tokens.drop b.cursor).take (min count (tokens.length - b.cursor)) := by
  have start : min b.cursor b.size = b.cursor :=
    Nat.min_eq_left (lists.size_eq ▸ lists.cursor_le)
  rw [lookahead, slice_eq, start, lists.tokens_eq, lists.size_eq, List.drop_take,
    Nat.add_sub_cancel_left]

theorem context?_eq (lists : b.Lists maxTokens tokens) (radius : Nat) :
    b.context? radius =
      if maxWord64 ≤ b.cursor + radius then .error .additionOverflow
      else .ok (tokensBetween tokens (b.cursor - radius) (b.cursor + radius)) := by
  rw [context?]
  by_cases beyond : maxWord64 ≤ b.cursor + radius
  · rw [if_pos (Nat.lt_succ_of_le beyond), if_pos beyond]
  · have fits : ¬b.cursor + radius + 1 > maxWord64 := by omega
    rw [if_neg fits, if_neg beyond]
    dsimp only
    rw [slice_eq, lists.tokens_eq, tokensBetween_eq, lists.size_eq]
    -- The cursor is within the tokens, so neither bound is cut off but by the end of the list.
    have low : min (b.cursor - radius) (min (b.cursor + radius + 1) tokens.length) =
        b.cursor - radius := by
      have bound := lists.cursor_le
      omega
    rw [low, ← List.take_eq_take_min]

end Lists

/-- **Windows are exact.** In every buffer that calls lead to, the tokens that remain are those from
the cursor on, a look ahead shows as many of them as are asked for and there are, and a window around
the cursor shows the tokens at no more than the given distance from it. The last has an answer just if
the index behind the window, be there tokens or not, fits a machine word; otherwise computing it
overflows. -/
theorem windows_exact (maxTokens : Nat) (calls : List Call) (n : Nat) :
    let b := after maxTokens {} calls
    let tokens := taken maxTokens {} calls
    b.remaining = tokens.drop b.cursor ∧
    b.lookahead n = (tokens.drop b.cursor).take (min n (tokens.length - b.cursor)) ∧
    b.context? n =
      if maxWord64 ≤ b.cursor + n then .error .additionOverflow
      else .ok (tokensBetween tokens (b.cursor - n) (b.cursor + n)) := by
  intro b tokens
  have lists : b.Lists maxTokens tokens := (lists_empty maxTokens).after calls
  exact ⟨lists.remaining_eq, lists.lookahead_eq n, lists.context?_eq n⟩

end TokenBuffer

end GrammarLex
