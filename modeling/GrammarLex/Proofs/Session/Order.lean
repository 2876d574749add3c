import GrammarLex.Proofs.Scan.Places
import GrammarLex.Proofs.Session.Nested
import GrammarLex.Proofs.Session.Sound
import GrammarLex.Proofs.Text.Bounds

/-!
# Buffered tokens are in order

The tokens of a session stand in its buffer in the order of their places, whatever has been requested
and however it has ended. The end marker is buffered last, and closes the buffer. So the two checks
of a token list find nothing wrong with the order of a buffer, and with its end only as long as the
session is not finished.
-/
namespace GrammarLex

variable {limits : ScanLimits} {acceptReturn : Bool} {source : CharSource} {tokens : List Token}

private theorem unmarked_front {last : Token}
    (others : ∀ token ∈ (tokens ++ [last]).dropLast, token.isEndOfStream = false) :
    endMarkers tokens = 0 ∧ tokens.any Token.isEndOfStream = false := by
  rw [List.dropLast_concat] at others
  constructor
  · rw [endMarkers, List.countP_eq_zero]
    intro token member
    rw [others token member]
    exact Bool.false_ne_true
  · rw [List.any_eq_false]
    intro token member
    rw [others token member]
    exact Bool.false_ne_true

theorem endMarkers_eq (others : ∀ token ∈ tokens.dropLast, token.isEndOfStream = false) :
    endMarkers tokens = (tokens.any Token.isEndOfStream).toNat := by
  cases tokens using List.reverseRecOn with
  | nil => rfl
  | append_singleton tokens last =>
    obtain ⟨unmarked, none⟩ := unmarked_front others
    rw [endMarkers] at unmarked
    rw [endMarkers, List.countP_append, unmarked, List.any_append, none]
    cases marked : last.isEndOfStream <;> simp [marked]

/-- A list in which at most the last token is an end marker ends well if it has one. -/
theorem endComplaint?_eq_none_iff (others : ∀ token ∈ tokens.dropLast, token.isEndOfStream = false) :
    endComplaint? tokens = none ↔ tokens.any Token.isEndOfStream = true := by
  rw [endComplaint?, endMarkers_eq others]
  cases tokens using List.reverseRecOn with
  | nil => simp
  | append_singleton tokens last =>
    obtain ⟨-, none⟩ := unmarked_front others
    rw [List.any_append, none, List.getLast?_append]
    cases marked : last.isEndOfStream <;> simp [marked]

namespace Core

/-- The buffer is closed if the end marker is in it. -/
def Marked (k : Core) : Prop := k.buffer.finished = k.buffer.tokens.toList.any Token.isEndOfStream

theorem marked_lasting (limits : ScanLimits) : Session.Lasting limits Marked where
  next := by
    intro k k' answer marked next
    cases next with
    | buffered | finished | failed | broken | silent | crowded => exact marked
    | @read token m' r' empty isOpen =>
      have others : k.buffer.tokens.toList.any Token.isEndOfStream = false := marked.symm.trans isOpen.1
      change (k.buffer.append token).advance.2.finished =
        (k.buffer.append token).advance.2.tokens.toList.any Token.isEndOfStream
      rw [TokenBuffer.finished_taken isOpen.1, TokenBuffer.tokens_taken, List.any_append, others]
      simp
  of_cursor := fun marked _ _ => marked

/-- The buffered tokens are the first that the machine has emitted. -/
theorem Emitted.prefix_emits {k : Core} (emitted : k.Emitted limits acceptReturn source tokens) :
    k.buffer.tokens.toList <+: tokens ∧
      ∃ m r, Machine.Emits limits acceptReturn source tokens m r := by
  cases emitted with
  | running unfailed emits => exact ⟨List.prefix_rfl, _, _, emits⟩
  | broken stuck emits stepped => exact ⟨List.prefix_rfl, _, _, emits⟩
  | crowded stuck emits => exact ⟨List.prefix_append _ _, _, _, emits⟩

/-- The places of the buffered tokens increase. -/
theorem Emitted.ordered {k : Core} (emitted : k.Emitted limits acceptReturn source tokens) :
    k.buffer.tokens.toList.Pairwise (·.place < ·.place) := by
  obtain ⟨front, m, r, emits⟩ := emitted.prefix_emits
  exact emits.ordered.sublist front.sublist

private theorem mem_dropLast_of_front {emitted : List Token} {token : Token}
    (front : tokens <+: emitted) (member : token ∈ tokens.dropLast) : token ∈ emitted.dropLast := by
  obtain ⟨rest, rfl⟩ := front
  cases rest with
  | nil => rwa [List.append_nil]
  | cons next rest =>
    rw [List.dropLast_append_cons]
    exact List.mem_append_left _ (List.mem_of_mem_dropLast member)

/-- No token but the last is the end marker. -/
theorem Emitted.unmarked_dropLast {k : Core} (emitted : k.Emitted limits acceptReturn source tokens) :
    ∀ token ∈ k.buffer.tokens.toList.dropLast, token.isEndOfStream = false := by
  intro token member
  obtain ⟨front, m, r, emits⟩ := emitted.prefix_emits
  exact emits.unmarked_dropLast token (mem_dropLast_of_front front member)

end Core

namespace Session

theorem marked_serve (limits : ScanLimits) (preferences : LexicalPreferences) (source : CharSource)
    (requests : List Request) : ((start preferences source).serve limits requests).core.Marked := by
  have fresh : (start preferences source).core.Marked := rfl
  exact (Core.marked_lasting limits).serve fresh requests

/-- **Buffered tokens are in order.** Whatever a session is asked for, the places of its tokens
increase, no token but the last is the end marker, and it is there if the session is finished. Places
are compared by line and column; for the positions of one text that is the order of their offsets,
and the order of positions. -/
theorem buffer_ordered (limits : ScanLimits) (preferences : LexicalPreferences) (source : CharSource)
    (requests : List Request) :
    (let s := (start preferences source).serve limits requests
      let tokens := s.buffer.tokens.toList
      tokens.Pairwise (·.place < ·.place) ∧ orderComplaint? tokens = none ∧
        (∀ token ∈ tokens.dropLast, token.isEndOfStream = false) ∧
        (endComplaint? tokens = none ↔ s.isFinished = true)) ∧
    ∀ text u v : List Char, text.length ≤ maxWord32 - 2 → u <+: text → v <+: text →
      ∃ p q, Position.start.advanceBy? u = .ok p ∧ Position.start.advanceBy? v = .ok q ∧
        (p.offset < q.offset ↔ p.place < q.place) ∧ (p.compare q = .lt ↔ p.place < q.place) := by
  constructor
  · intro s tokens
    obtain ⟨emitted, emitted_by⟩ := serve_emitted limits preferences source requests
    have ordered : tokens.Pairwise (·.place < ·.place) := emitted_by.ordered
    have others : ∀ token ∈ tokens.dropLast, token.isEndOfStream = false :=
      emitted_by.unmarked_dropLast
    have marked : s.core.Marked := marked_serve limits preferences source requests
    refine ⟨ordered, orderComplaint?_eq_none ordered, others, ?_⟩
    rw [endComplaint?_eq_none_iff others]
    exact marked ▸ Iff.rfl
  · intro text u v short front front'
    obtain ⟨byBytes, byPosition⟩ := Position.place_lt_iff front front'
    refine ⟨_, _, Position.advanceBy?_eq_ok (Nat.le_trans front.length_le short),
      Position.advanceBy?_eq_ok (Nat.le_trans front'.length_le short), byBytes, byPosition⟩

/-- Two constructs on two lines: behind the line end there are more bytes and a smaller column. -/
theorem buffer_ordered_of_lines :
    (let s := (start {} ⟨.ofText "ab\n<c>", none, none⟩).serve .development [.next, .peek, .next, .next]
      let tokens := s.buffer.tokens.toList
      tokens.map (fun token => (token.lexeme, token.line, token.column)) =
          [("ab", 1, 1), ("c", 2, 1), ("", 2, 4)] ∧
        tokens.Pairwise (·.place < ·.place) ∧ orderComplaint? tokens = none ∧
        s.isFinished = true ∧ endComplaint? tokens = none) ∧
    ∃ p q, Position.start.advanceBy? ['a', 'b'] = .ok p ∧
      Position.start.advanceBy? ['a', 'b', '\n'] = .ok q ∧ q.column < p.column ∧
      p.offset < q.offset ∧ p.place < q.place ∧ p.compare q = .lt := by
  obtain ⟨session, positions⟩ := buffer_ordered .development {} ⟨.ofText "ab\n<c>", none, none⟩
    [.next, .peek, .next, .next]
  constructor
  · obtain ⟨ordered, accepted, -, ends⟩ := session
    have finished : ((start {} ⟨.ofText "ab\n<c>", none, none⟩).serve .development
      [.next, .peek, .next, .next]).isFinished = true := by decide +kernel
    exact ⟨by decide +kernel, ordered, accepted, finished, ends.mpr finished⟩
  · obtain ⟨p, q, reached, reached', byBytes, byPosition⟩ := positions "ab\n<c>".toList ['a', 'b']
      ['a', 'b', '\n'] (by decide) ⟨_, rfl⟩ ⟨_, rfl⟩
    cases reached
    cases reached'
    have fewer : (⟨2, 1, 3⟩ : Position).offset < (⟨3, 2, 1⟩ : Position).offset := by decide
    have less := byBytes.mp fewer
    exact ⟨_, _, rfl, rfl, by decide, fewer, less, byPosition.mpr less⟩

end Session

end GrammarLex
