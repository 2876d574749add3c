import GrammarLex.Proofs.Scan.Writing
import GrammarLex.Proofs.Session.Course

/-!
# Sessions over a text written in another way

If every stride over a text is spelled by the stride over another text, two sessions get the same
tokens, with spelled lexemes and at the places that belong together, and the same end or error
behind them.
-/
namespace GrammarLex

variable {w : Writing} {limits : ScanLimits} {acceptReturn : Bool} {s s' : Spot}

theorem optionRel_imp {α β : Type} {related related' : α → β → Prop} {x : Option α} {y : Option β}
    (imp : ∀ a b, related a b → related' a b) (rel : Option.Rel related x y) :
    Option.Rel related' x y := by
  cases rel with
  | some both => exact .some (imp _ _ both)
  | none => exact .none

namespace Spot

variable {held : Nat} {tokens tokens' : List Token} {failure failure' : Option ScanError}

/-- No lexeme is too long for just one of two sessions, since both count alike or none has failed in
this way. -/
def Spares (w : Writing) (failure failure' : Option ScanError) : Prop :=
  w.KeepsLength ∨ ∀ e : ScanError, failure = some e ∨ failure' = some e → e.isTooLong = false

private theorem Brings.alike (brings : s.Brings limits acceptReturn held tokens failure)
    (brings' : s'.Brings limits acceptReturn held tokens' failure') (like : s.Like w s')
    (strides : (s.stride acceptReturn).Like w (s'.stride acceptReturn))
    (spares : Spares w failure failure') :
    Alike w (s.next limits acceptReturn) (s'.next limits acceptReturn) := by
  apply next_like brings.agrees like strides
  rcases spares with keeps | others
  · rw [strides.counted_eq keeps]
  · constructor
    · intro long
      have failed := (brings'.of_error (take_of_long long)).2
      cases others _ (.inr failed)
    · intro long
      have failed := (brings.of_error (take_of_long long)).2
      cases others _ (.inl failed)

/-- Two sessions get tokens that are alike, and the same end or error behind them. -/
theorem Brings.like
    (strides : ∀ {s s' : Spot}, s.Agrees acceptReturn → s.Proper → s.Like w s' →
      (s.stride acceptReturn).Like w (s'.stride acceptReturn))
    (brings : s.Brings limits acceptReturn held tokens failure)
    (brings' : s'.Brings limits acceptReturn held tokens' failure') (like : s.Like w s')
    (proper : s.Proper) (spares : Spares w failure failure') :
    List.Forall₂ (Token.Like w) tokens tokens' ∧ Option.Rel (ScanError.Like w) failure failure' := by
  -- On what the first session gets; the spots stay alike.
  induction brings generalizing s' tokens' failure' with
  | failed agrees next_eq =>
    have alike := (failed agrees next_eq).alike brings' like (strides agrees proper like) spares
    rw [next_eq] at alike
    obtain ⟨e', next_eq', e_like⟩ := alike.of_error
    obtain ⟨rfl, rfl⟩ := brings'.of_error next_eq'
    exact ⟨.nil, .some e_like⟩
  | silent agrees next_eq behind ih =>
    have alike := (silent agrees next_eq behind).alike brings' like (strides agrees proper like) spares
    rw [next_eq] at alike
    obtain ⟨s₁', next_eq', like'⟩ := alike.of_silent
    exact ih (brings'.of_silent next_eq') like' (proper_of_next proper next_eq) spares
  | full agrees next_eq crowded =>
    have alike := (full agrees next_eq crowded).alike brings' like (strides agrees proper like) spares
    rw [next_eq] at alike
    obtain ⟨token', s₁', next_eq', -, like'⟩ := alike.of_token
    rcases brings'.of_token next_eq' with ⟨_, rfl, rfl⟩ | ⟨room, -⟩
    · exact ⟨.nil, .some (.of_moved rfl like'.placed)⟩
    · omega
  | ended agrees next_eq room last =>
    have alike := (ended agrees next_eq room last).alike brings' like (strides agrees proper like) spares
    rw [next_eq] at alike
    obtain ⟨token', s₁', next_eq', token_like, -⟩ := alike.of_token
    rw [← token_like.isEndOfStream_eq] at last
    rcases brings'.of_token next_eq' with ⟨crowded, -⟩ | ⟨-, ⟨_, rfl, rfl⟩ | ⟨others, -⟩⟩
    · omega
    · exact ⟨.cons token_like .nil, .none⟩
    · cases last.symm.trans others
  | more agrees next_eq room others behind ih =>
    have alike := (more agrees next_eq room others behind).alike brings' like
      (strides agrees proper like) spares
    rw [next_eq] at alike
    obtain ⟨token', s₁', next_eq', token_like, like'⟩ := alike.of_token
    rw [← token_like.isEndOfStream_eq] at others
    rcases brings'.of_token next_eq' with ⟨crowded, -⟩ | ⟨-, ⟨last, -⟩ | ⟨-, later, rfl, behind'⟩⟩
    · omega
    · cases last.symm.trans others
    · obtain ⟨tokens_like, failure_like⟩ := ih behind' like' (proper_of_next proper next_eq) spares
      exact ⟨.cons token_like tokens_like, failure_like⟩

end Spot

end GrammarLex
