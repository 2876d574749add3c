import GrammarLex.Proofs.Scan.Exact

/-!
# Walks from spot to spot

Successful steps of a machine over one source emit tokens one after another. Each of them is a step
from the spot where the machine is to the next one, so such a run is a walk from the start of the
contents, and whatever is shown of walks holds of machines.
-/
namespace GrammarLex

variable {limits : ScanLimits} {acceptReturn : Bool} {source : CharSource} {m m' : Machine}
  {r r' : Intake} {s s' s'' : Spot} {token : Option Token} {tokens tokens' : List Token}
  {e : ScanError}

/-! ### Machines at spots -/

/-- The machine is at a spot, in front of the intake. -/
structure Machine.At (acceptReturn : Bool) (m : Machine) (r : Intake) (s : Spot) : Prop where
  phase_eq : m.phase = s.phase
  holds : s.Holds ⟨r, m.nesting⟩
  agrees : m.Agrees r
  accepts_eq : m.acceptReturn = acceptReturn

namespace Machine

theorem at_initial (acceptReturn : Bool) (source : CharSource) :
    (initial acceptReturn).At acceptReturn (.ofSource source) { left := source.contents } where
  phase_eq := rfl
  holds := ⟨rfl, Intake.stands_ofSource source⟩
  agrees := agrees_initial acceptReturn _
  accepts_eq := rfl

namespace At

theorem spot_agrees (here : m.At acceptReturn r s) : s.Agrees acceptReturn := by
  obtain ⟨phase_eq, holds, agrees, rfl⟩ := here
  apply holds.agrees
  rw [← phase_eq, ← holds.frames_eq]
  exact agrees

theorem contents_eq (here : m.At acceptReturn r s) : r.source.contents = s.left :=
  here.holds.stands.contents_eq

private theorem takes (here : m.At acceptReturn r s) :
    s.Takes limits (s.stride acceptReturn) (Scan.handler limits m.acceptReturn m.phase)
      ⟨r, m.nesting⟩ := by
  rw [here.phase_eq, here.accepts_eq]
  exact Scan.handler_takes here.holds here.spot_agrees

/-- A step of the machine leads to the next spot. -/
theorem next_of_ok (here : m.At acceptReturn r s) (stepped : m.step limits r = ⟨.ok token, m', r'⟩) :
    ∃ s', s.next limits acceptReturn = .ok (token, s') ∧ m'.At acceptReturn r' s' := by
  have takes : s.Takes limits _ _ _ := here.takes
  have agrees := here.agrees.of_step stepped
  have accepts_eq := here.accepts_eq
  obtain ⟨phase, nesting, flag⟩ := m
  unfold Spot.Takes Leads at takes
  cases result : Scan.handler limits flag phase ⟨r, nesting⟩ with
  | error e t =>
    rw [step_of_error result] at stepped
    cases stepped
  | ok outcome t =>
    rw [step_of_ok result] at stepped
    rw [result] at takes
    cases stepped
    obtain ⟨s', next_eq, phase_eq, holds⟩ := takes
    exact ⟨s', next_eq, phase_eq, holds, agrees, accepts_eq⟩

theorem next_of_error (here : m.At acceptReturn r s) (stepped : m.step limits r = ⟨.error e, m', r'⟩) :
    s.next limits acceptReturn = .error e := by
  have takes : s.Takes limits _ _ _ := here.takes
  obtain ⟨phase, nesting, flag⟩ := m
  unfold Spot.Takes Leads at takes
  cases result : Scan.handler limits flag phase ⟨r, nesting⟩ with
  | error e t =>
    rw [step_of_error result] at stepped
    rw [result] at takes
    cases stepped
    exact takes
  | ok outcome t =>
    rw [step_of_ok result] at stepped
    cases stepped

/-- The outcome of a step is told by the spot. -/
theorem outcome_eq (here : m.At acceptReturn r s) :
    (m.step limits r).outcome = (s.next limits acceptReturn).map Prod.fst := by
  rcases stepped : m.step limits r with ⟨outcome, m', r'⟩
  cases outcome with
  | error e =>
    rw [here.next_of_error stepped]
    rfl
  | ok token =>
    obtain ⟨s', next_eq, -⟩ := here.next_of_ok stepped
    rw [next_eq]
    rfl

end At

/-- The states that successful steps over one source lead to, with the tokens emitted on the way. -/
inductive Emits (limits : ScanLimits) (acceptReturn : Bool) (source : CharSource) :
    List Token → Machine → Intake → Prop where
  | fresh : Emits limits acceptReturn source [] (.initial acceptReturn) (.ofSource source)
  | step {tokens : List Token} {m m' : Machine} {r r' : Intake} {token : Option Token}
      (before : Emits limits acceptReturn source tokens m r)
      (stepped : m.step limits r = ⟨.ok token, m', r'⟩) :
      Emits limits acceptReturn source (tokens ++ token.toList) m' r'

theorem Emits.agrees (emits : Emits limits acceptReturn source tokens m r) : m.Agrees r := by
  induction emits with
  | fresh => exact agrees_initial acceptReturn _
  | step before stepped ih => exact ih.of_step stepped

/-- The end marker is emitted by a machine that is finished, and by no other. -/
theorem Emits.unmarked (emits : Emits limits acceptReturn source tokens m r)
    (unfinished : m.phase ≠ .finished) : ∀ token ∈ tokens, token.isEndOfStream = false := by
  induction emits with
  | fresh => exact nofun
  | @step tokens m m' r r' token before stepped ih =>
    obtain ⟨move, -⟩ := before.agrees.moves stepped
    have goesOn : m.phase ≠ .finished := by
      intro ended
      rw [ended] at move
      exact unfinished move.stays
    intro other member
    rcases List.mem_append.mp member with member | member
    · exact ih goesOn other member
    · have emitted : token = some other := by simpa using member
      have marker := (move.finished_iff goesOn).mpr.mt unfinished
      simp only [Token.isEndOfStream, decide_eq_false_iff_not]
      exact fun kind => marker ⟨other, emitted, kind⟩

theorem Emits.pull (emits : Emits limits acceptReturn source tokens m r) :
    ∃ (m₁ : Machine) (r₁ : Intake), Emits limits acceptReturn source tokens m₁ r₁ ∧
      m.pull limits r = m₁.step limits r₁ := by
  apply pull_eq_step emits
  intro m r m' r' emits stepped
  simpa using emits.step stepped

end Machine

/-! ### Walks -/

/-- Successful steps from one spot to another, with the tokens emitted on the way. -/
inductive Spot.Walk (limits : ScanLimits) (acceptReturn : Bool) : Spot → List Token → Spot → Prop where
  | refl {s : Spot} : Walk limits acceptReturn s [] s
  | step {s s' s'' : Spot} {token : Option Token} {tokens : List Token}
      (agrees : s.Agrees acceptReturn) (next_eq : s.next limits acceptReturn = .ok (token, s'))
      (behind : Walk limits acceptReturn s' tokens s'') :
      Walk limits acceptReturn s (token.toList ++ tokens) s''

namespace Spot.Walk

theorem one (agrees : s.Agrees acceptReturn)
    (next_eq : s.next limits acceptReturn = .ok (token, s')) :
    Walk limits acceptReturn s token.toList s' := by
  simpa using step agrees next_eq .refl

theorem trans (walk : Walk limits acceptReturn s tokens s')
    (walk' : Walk limits acceptReturn s' tokens' s'') :
    Walk limits acceptReturn s (tokens ++ tokens') s'' := by
  induction walk with
  | refl => exact walk'
  | step agrees next_eq behind ih =>
    rw [List.append_assoc]
    exact .step agrees next_eq (ih walk')

/-- What a walk passes is taken off the text. -/
theorem reaches (walk : Walk limits acceptReturn s tokens s') :
    ∃ used, s.left.chars = used ++ s'.left.chars ∧ s'.position = s.position.advanceBy used := by
  induction walk with
  | refl => exact ⟨[], rfl, rfl⟩
  | @step s s' s'' token tokens agrees next_eq behind ih =>
    obtain ⟨used, left, position⟩ := ih
    obtain ⟨-, covers, position'⟩ := next_covers next_eq
    refine ⟨(s.stride acceptReturn).used ++ used, ?_, ?_⟩
    · rw [List.append_assoc, ← left, covers]
    · rw [position, position', Position.advanceBy_append]

/-- No step changes what breaks the source. -/
theorem fault_eq (walk : Walk limits acceptReturn s tokens s') : s'.left.fault = s.left.fault := by
  induction walk with
  | refl => rfl
  | step agrees next_eq behind ih =>
    rw [ih, (next_covers next_eq).1]

/-- A walk that emits nothing ends where it starts, or starts with a silent step. -/
theorem silent_cases (walk : Walk limits acceptReturn s [] s'') :
    s'' = s ∨ ∃ s', s.next limits acceptReturn = .ok (none, s') ∧
      Walk limits acceptReturn s' [] s'' := by
  generalize nothing : [] = tokens at walk
  cases walk with
  | refl => exact .inl rfl
  | @step s s' s'' token tokens agrees next_eq behind =>
    cases token with
    | none =>
      obtain rfl : [] = tokens := nothing
      exact .inr ⟨s', next_eq, behind⟩
    | some token => cases nothing

end Spot.Walk

/-- A pull is a step at the end of a walk that emits nothing. -/
theorem Machine.At.pull (here : m.At acceptReturn r s) :
    ∃ (m₁ : Machine) (r₁ : Intake) (s₁ : Spot), m₁.At acceptReturn r₁ s₁ ∧
      Spot.Walk limits acceptReturn s [] s₁ ∧ m.pull limits r = m₁.step limits r₁ := by
  let Walked (m : Machine) (r : Intake) : Prop :=
    ∃ s₁, m.At acceptReturn r s₁ ∧ Spot.Walk limits acceptReturn s [] s₁
  have walked : Walked m r := ⟨s, here, .refl⟩
  obtain ⟨m₁, r₁, ⟨s₁, here₁, walk⟩, pulled⟩ := Machine.pull_eq_step walked (by
    rintro m r m' r' ⟨s₁, here₁, walk⟩ stepped
    obtain ⟨s₂, next_eq, here₂⟩ := here₁.next_of_ok stepped
    exact ⟨s₂, here₂, walk.trans (.one here₁.spot_agrees next_eq)⟩)
  exact ⟨m₁, r₁, s₁, here₁, walk, pulled⟩

/-- Whatever tokens a machine has emitted, it has walked from the start of the contents. -/
theorem Machine.Emits.walk (emits : Emits limits acceptReturn source tokens m r) :
    ∃ s, Spot.Walk limits acceptReturn { left := source.contents } tokens s ∧
      m.At acceptReturn r s := by
  -- On the steps; that the machine is at the end of the walk is the invariant.
  induction emits with
  | fresh => exact ⟨_, .refl, at_initial acceptReturn source⟩
  | step before stepped ih =>
    obtain ⟨s, walk, here⟩ := ih
    obtain ⟨s', next_eq, here'⟩ := here.next_of_ok stepped
    exact ⟨s', walk.trans (.one here.spot_agrees next_eq), here'⟩

/-- A machine stands behind everything that it has taken off the contents. -/
theorem Machine.Emits.place (emits : Emits limits acceptReturn source tokens m r) :
    ∃ used, source.contents = ⟨used ++ r.source.contents.chars, r.source.contents.fault⟩ ∧
      r.position = Position.start.advanceBy used := by
  obtain ⟨s, walk, here⟩ := emits.walk
  obtain ⟨used, chars_eq, position_eq⟩ := walk.reaches
  refine ⟨used, ?_, here.holds.stands.position_eq.trans position_eq⟩
  rw [here.contents_eq, walk.fault_eq, ← chars_eq]

end GrammarLex
