import GrammarLex.Proofs.Scan.Walk
import GrammarLex.Proofs.Session.Requests

/-!
# What a session gets from a spot

From the spot where its machine is, a session gets tokens until its buffer is full, the text is read
to its end or a step fails. What it gets behind a walk is what it gets from the end of the walk, so
two sessions can be compared from spots that both have walked to.
-/
namespace GrammarLex

variable {limits : ScanLimits} {acceptReturn : Bool} {m m' : Machine} {r r' : Intake}
  {s s' : Spot} {held : Nat} {token : Token} {before tokens : List Token}
  {failure : Option ScanError} {e : ScanError}

namespace Spot

/-- What is brought from a spot to a buffer that holds a number of tokens. -/
inductive Brings (limits : ScanLimits) (acceptReturn : Bool) :
    Spot → Nat → List Token → Option ScanError → Prop where
  | failed {s : Spot} {held : Nat} {e : ScanError} (agrees : s.Agrees acceptReturn)
      (next_eq : s.next limits acceptReturn = .error e) :
      Brings limits acceptReturn s held [] (some e)
  | silent {s s' : Spot} {held : Nat} {tokens : List Token} {failure : Option ScanError}
      (agrees : s.Agrees acceptReturn) (next_eq : s.next limits acceptReturn = .ok (none, s'))
      (behind : Brings limits acceptReturn s' held tokens failure) :
      Brings limits acceptReturn s held tokens failure
  | full {s s' : Spot} {held : Nat} {token : Token} (agrees : s.Agrees acceptReturn)
      (next_eq : s.next limits acceptReturn = .ok (some token, s'))
      (crowded : limits.maxTokens ≤ held) :
      Brings limits acceptReturn s held [] (some (.tooManyTokens (held + 1) s'.position))
  | ended {s s' : Spot} {held : Nat} {token : Token} (agrees : s.Agrees acceptReturn)
      (next_eq : s.next limits acceptReturn = .ok (some token, s')) (room : held < limits.maxTokens)
      (last : token.isEndOfStream = true) : Brings limits acceptReturn s held [token] none
  | more {s s' : Spot} {held : Nat} {token : Token} {tokens : List Token}
      {failure : Option ScanError} (agrees : s.Agrees acceptReturn)
      (next_eq : s.next limits acceptReturn = .ok (some token, s')) (room : held < limits.maxTokens)
      (others : token.isEndOfStream = false)
      (behind : Brings limits acceptReturn s' (held + 1) tokens failure) :
      Brings limits acceptReturn s held (token :: tokens) failure

namespace Brings

theorem agrees (brings : s.Brings limits acceptReturn held tokens failure) :
    s.Agrees acceptReturn := by
  cases brings <;> assumption

theorem of_error (brings : s.Brings limits acceptReturn held tokens failure)
    (next_eq : s.next limits acceptReturn = .error e) : tokens = [] ∧ failure = some e := by
  cases brings with
  | failed _ same =>
    cases next_eq.symm.trans same
    exact ⟨rfl, rfl⟩
  | silent _ same => cases next_eq.symm.trans same
  | full _ same => cases next_eq.symm.trans same
  | ended _ same => cases next_eq.symm.trans same
  | more _ same => cases next_eq.symm.trans same

theorem of_silent (brings : s.Brings limits acceptReturn held tokens failure)
    (next_eq : s.next limits acceptReturn = .ok (none, s')) :
    s'.Brings limits acceptReturn held tokens failure := by
  cases brings with
  | failed _ same => cases next_eq.symm.trans same
  | silent _ same behind =>
    cases next_eq.symm.trans same
    exact behind
  | full _ same => cases next_eq.symm.trans same
  | ended _ same => cases next_eq.symm.trans same
  | more _ same => cases next_eq.symm.trans same

/-- A token is the first one brought, unless there is no room for it. -/
theorem of_token (brings : s.Brings limits acceptReturn held tokens failure)
    (next_eq : s.next limits acceptReturn = .ok (some token, s')) :
    (limits.maxTokens ≤ held ∧ tokens = [] ∧
      failure = some (.tooManyTokens (held + 1) s'.position)) ∨
    held < limits.maxTokens ∧
      ((token.isEndOfStream = true ∧ tokens = [token] ∧ failure = none) ∨
        token.isEndOfStream = false ∧ ∃ others, tokens = token :: others ∧
          s'.Brings limits acceptReturn (held + 1) others failure) := by
  cases brings with
  | failed _ same => cases next_eq.symm.trans same
  | silent _ same => cases next_eq.symm.trans same
  | full _ same crowded =>
    cases next_eq.symm.trans same
    exact .inl ⟨crowded, rfl, rfl⟩
  | ended _ same room last =>
    cases next_eq.symm.trans same
    exact .inr ⟨room, .inl ⟨last, rfl, rfl⟩⟩
  | more _ same room others behind =>
    cases next_eq.symm.trans same
    exact .inr ⟨room, .inr ⟨others, _, rfl, behind⟩⟩

end Brings

/-! ### Behind a walk -/

/-- What is brought from the start of a walk is brought from its end, behind the tokens of the
walk. -/
theorem Walk.brings (walk : Walk limits acceptReturn s before s')
    (brings : s.Brings limits acceptReturn held tokens failure)
    (unmarked : ∀ token ∈ before, token.isEndOfStream = false)
    (room : held + before.length ≤ limits.maxTokens) :
    ∃ later, tokens = before ++ later ∧
      s'.Brings limits acceptReturn (held + before.length) later failure := by
  induction walk generalizing held tokens with
  | refl => exact ⟨tokens, rfl, brings⟩
  | @step s s' s'' token before agrees next_eq behind ih =>
    cases token with
    | none => exact ih (brings.of_silent next_eq) unmarked room
    | some token =>
      obtain ⟨first, unmarked⟩ := List.forall_mem_cons.mp unmarked
      change held + (before.length + 1) ≤ limits.maxTokens at room
      rcases brings.of_token next_eq with ⟨crowded, -⟩ | ⟨_, ⟨last, -⟩ | ⟨_, others, rfl, brought⟩⟩
      · omega
      · cases first.symm.trans last
      · obtain ⟨later, rfl, brought'⟩ := ih brought unmarked (by omega)
        refine ⟨later, rfl, ?_⟩
        rw [Nat.add_right_comm] at brought'
        exact brought'

end Spot

/-! ### Sessions -/

private theorem Spot.Walk.brings_silent (walk : Walk limits acceptReturn s before s')
    (silent : before = []) (brings : s'.Brings limits acceptReturn held tokens failure) :
    s.Brings limits acceptReturn held tokens failure := by
  induction walk with
  | refl => exact brings
  | @step s s' s'' token before agrees next_eq behind ih =>
    obtain ⟨nothing, rfl⟩ := List.append_eq_nil_iff.mp silent
    cases token with
    | none => exact .silent agrees next_eq (ih rfl brings)
    | some token => cases nothing

/-- A machine fills a buffer with what is brought from its spot. -/
theorem Machine.At.brings (here : m.At acceptReturn r s)
    (fills : m.Fills limits r held tokens failure) :
    s.Brings limits acceptReturn held tokens failure := by
  -- On the pulls; the silent steps of each come back in front of what it brings.
  induction fills generalizing s with
  | failed pulled =>
    obtain ⟨m₁, r₁, s₁, here₁, walk, same⟩ := here.pull
    have failed := here₁.next_of_error (same.symm.trans pulled)
    exact walk.brings_silent rfl (.failed here₁.spot_agrees failed)
  | full pulled crowded =>
    obtain ⟨m₁, r₁, s₁, here₁, walk, same⟩ := here.pull
    obtain ⟨s', next_eq, here'⟩ := here₁.next_of_ok (same.symm.trans pulled)
    rw [here'.holds.stands.position_eq]
    exact walk.brings_silent rfl (.full here₁.spot_agrees next_eq crowded)
  | ended pulled room last =>
    obtain ⟨m₁, r₁, s₁, here₁, walk, same⟩ := here.pull
    obtain ⟨s', next_eq, -⟩ := here₁.next_of_ok (same.symm.trans pulled)
    exact walk.brings_silent rfl (.ended here₁.spot_agrees next_eq room last)
  | more pulled room others behind ih =>
    obtain ⟨m₁, r₁, s₁, here₁, walk, same⟩ := here.pull
    obtain ⟨s', next_eq, here'⟩ := here₁.next_of_ok (same.symm.trans pulled)
    exact walk.brings_silent rfl (.more here₁.spot_agrees next_eq room others (ih here'))

/-- A session that is iterated to its end gets what is brought from the start of its contents. -/
theorem Session.drain_brings (limits : ScanLimits) (preferences : LexicalPreferences)
    (source : CharSource) :
    ({ left := source.contents } : Spot).Brings limits preferences.acceptCarriageReturn 0
      ((start preferences source).drain limits).tape.tokens
      ((start preferences source).drain limits).tape.failure :=
  (Machine.at_initial preferences.acceptCarriageReturn source).brings
    (drain_fills limits preferences source)

end GrammarLex
