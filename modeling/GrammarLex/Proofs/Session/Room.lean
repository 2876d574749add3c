import GrammarLex.Proofs.Scan.Room
import GrammarLex.Proofs.Session.Counting
import GrammarLex.Proofs.Session.Ending

/-!
# Sessions never leave their words

Lines and columns are kept in 32 bits, everything else in 64. In a session on a text of at most two
characters less than a line number can tell, nothing that is ever computed leaves its word: neither the
positions and counts of the intake, nor the span of an error, which is one column behind the position,
nor the counts of tokens and open constructs. Only the replays are not bounded by the text; there is at
most one for each request.
-/
namespace GrammarLex

/-! ### Counters -/

namespace Metrics

/-- The counters that tokens move. -/
def counts (m : Metrics) : List Nat :=
  [m.total, m.symbol, m.operator, m.action, m.group, m.marker] ++ m.usage.map Prod.snd

end Metrics

variable {limits : ScanLimits} {acceptReturn : Bool} {source : CharSource} {tokens : List Token}
  {token : Token}

namespace Core

/-- What a machine has emitted and what has stopped it is placed in the text, and its depths have been
no greater than the number of characters. -/
structure Roomy (size : Nat) (k : Core) : Prop where
  tokens : ∀ token ∈ k.buffer.tokens, ∃ p : Position, p.Reached size ∧ token.place = p.place
  failure : ∀ e, k.failure = some e → e.position.Reached size
  size_le : k.buffer.size ≤ size + 1
  depth_le : k.machine.nesting.depth ≤ k.machine.nesting.deepest
  deepest_le : k.machine.nesting.deepest ≤ size

private theorem Emitted.placed {k : Core} (emitted : k.Emitted limits acceptReturn source tokens) :
    ∀ token ∈ k.buffer.tokens,
      ∃ p : Position, p.Reached source.contents.chars.length ∧ token.place = p.place := by
  intro token member
  obtain ⟨front, m, r, emits⟩ := emitted.prefix_emits
  obtain ⟨s, -, _, _, -, -, -, -, placed⟩ := emits.behind
  exact placed.reached token (front.subset (Array.mem_toList_iff.mpr member))

theorem Emitted.roomy {k : Core} (emitted : k.Emitted limits acceptReturn source tokens) :
    k.Roomy source.contents.chars.length := by
  have size_le : k.buffer.size ≤ source.contents.chars.length + 1 := by
    obtain ⟨used, whole, bound⟩ := emitted.size_le
    rw [whole, List.length_append]
    omega
  have placed := emitted.placed
  cases emitted with
  | running unfailed emits =>
    refine ⟨placed, ?_, size_le, emits.bounded, emits.deepest_le⟩
    intro e stuck
    cases stuck.symm.trans unfailed
  | broken stuck emits stepped =>
    have same := emits.eq_of_failed stepped
    refine ⟨placed, ?_, size_le, same ▸ emits.bounded, same ▸ emits.deepest_le⟩
    intro e' stuck'
    cases stuck.symm.trans stuck'
    exact emits.reached_of_failed stepped
  | crowded stuck emits =>
    refine ⟨placed, ?_, size_le, emits.bounded, emits.deepest_le⟩
    intro e stuck'
    cases stuck.symm.trans stuck'
    obtain ⟨used, whole, place⟩ := emits.place
    refine ⟨used, ?_, place⟩
    rw [whole]
    exact Nat.le_trans (Nat.le_add_right _ _) (Nat.le_of_eq (List.length_append.symm))

end Core

namespace Session

variable {s : Session}

/-! ### Requests -/

/-- The lines and columns of an answer have room. -/
def Answer.Charted (a : Answer) : Prop :=
  (∀ token, a.token? = some token → GrammarLex.Charted token.line token.column) ∧
    ∀ e, a.failure? = some e → GrammarLex.Charted e.position.line e.position.column

end Session

end GrammarLex
