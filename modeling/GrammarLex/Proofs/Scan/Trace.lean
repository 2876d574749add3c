import GrammarLex.Proofs.Text.Leads
import GrammarLex.Scan.Machine

/-!
# What a machine brings, token after token

A trace is the list of tokens that a machine brings one after another, up to the end marker or to
an error. A step that emits nothing does not show in it. `Machine.Yields` says that there is a trace
and that it is as described; what a handler leads to decides what the machine yields.
-/
namespace GrammarLex.Machine

variable {limits : ScanLimits} {m m' : Machine} {r r' : Intake} {token : Token} {e : ScanError}

variable {phase next : Phase} {nesting : Nesting} {acceptReturn : Bool} {s : Scan}

theorem step_of_ok {emitted : Option Token}
    (result : Scan.handler limits acceptReturn phase ⟨r, nesting⟩ = .ok (next, emitted) s) :
    step limits ⟨phase, nesting, acceptReturn⟩ r =
      ⟨.ok emitted, ⟨next, s.nesting, acceptReturn⟩, s.intake⟩ := by
  simp only [step, result]

theorem step_of_error
    (result : Scan.handler limits acceptReturn phase ⟨r, nesting⟩ = .error e s) :
    step limits ⟨phase, nesting, acceptReturn⟩ r =
      ⟨.error e, ⟨phase, s.nesting, acceptReturn⟩, s.intake⟩ := by
  simp only [step, result]

/-- A step fails if its handler does, and keeps what the handler has made of the open constructs. -/
theorem handler_of_failed (stepped : step limits m r = ⟨.error e, m', r'⟩) :
    ∃ n, Scan.handler limits m.acceptReturn m.phase ⟨r, m.nesting⟩ = .error e ⟨r', n⟩ ∧
      m' = { m with nesting := n } := by
  obtain ⟨phase, nesting, acceptReturn⟩ := m
  cases result : Scan.handler limits acceptReturn phase ⟨r, nesting⟩ with
  | error e' s =>
    rw [step_of_error result] at stepped
    cases stepped
    exact ⟨s.nesting, rfl, rfl⟩
  | ok outcome s =>
    rw [step_of_ok result] at stepped
    cases stepped

/-! ### Pulling a token -/

theorem run_of_error {peak : Nat} (stepped : step limits m r = ⟨.error e, m', r'⟩) :
    run limits m r peak = ⟨⟨.error e, m', r'⟩, peak⟩ := by
  rw [run]
  split
  next same => rw [stepped] at same; cases same; rfl
  next same => rw [stepped] at same; cases same
  next same => rw [stepped] at same; cases same

theorem run_of_token {peak : Nat}
    (stepped : step limits m r = ⟨.ok (some token), m', r'⟩) :
    run limits m r peak = ⟨⟨.ok (some token), m', r'⟩, max peak m'.nesting.depth⟩ := by
  rw [run]
  split
  next same => rw [stepped] at same; cases same
  next same => rw [stepped] at same; cases same; rfl
  next same => rw [stepped] at same; cases same

theorem run_of_silent {peak : Nat} (stepped : step limits m r = ⟨.ok none, m', r'⟩) :
    run limits m r peak =
      if m'.phase = .finished then ⟨⟨.ok none, m', r'⟩, max peak m'.nesting.depth⟩
      else run limits m' r' (max peak m'.nesting.depth) := by
  rw [run]
  split
  next same => rw [stepped] at same; cases same
  next same => rw [stepped] at same; cases same
  next same => rw [stepped] at same; cases same; rfl

/-- What the machine stops with next: a token or an error. -/
def pull (limits : ScanLimits) (m : Machine) (r : Intake) : Stepped := (run limits m r 0).toStepped

/-- The peak that a run starts from has no say in what it stops with. -/
theorem run_toStepped (peak : Nat) : (run limits m r peak).toStepped = pull limits m r := by
  suffices same : ∀ other, (run limits m r peak).toStepped = (run limits m r other).toStepped from
    same 0
  -- The peak is carried along and never looked at.
  fun_induction run limits m r peak with
  | case1 m r peak e m' r' stepped => intro other; rw [run_of_error stepped]
  | case2 m r peak token m' r' stepped => intro other; rw [run_of_token stepped]
  | case3 m r peak next r' stepped ended => intro other; rw [run_of_silent stepped, if_pos ended]
  | case4 m r peak next r' stepped unfinished ih =>
    intro other
    rw [run_of_silent stepped, if_neg unfinished]
    exact ih _

theorem pull_of_error (stepped : step limits m r = ⟨.error e, m', r'⟩) :
    pull limits m r = ⟨.error e, m', r'⟩ := by
  rw [pull, run_of_error stepped]

theorem pull_of_token (stepped : step limits m r = ⟨.ok (some token), m', r'⟩) :
    pull limits m r = ⟨.ok (some token), m', r'⟩ := by
  rw [pull, run_of_token stepped]

theorem pull_of_silent (stepped : step limits m r = ⟨.ok none, m', r'⟩)
    (unfinished : m'.phase ≠ .finished) : pull limits m r = pull limits m' r' := by
  rw [pull, run_of_silent stepped, if_neg unfinished, run_toStepped]

/-- A pull is a single step of some state that silent steps lead to. -/
theorem pull_eq_step {Holds : Machine → Intake → Prop} (holds : Holds m r)
    (silent : ∀ m r m' r', Holds m r → step limits m r = ⟨.ok none, m', r'⟩ → Holds m' r') :
    ∃ m₁ r₁, Holds m₁ r₁ ∧ pull limits m r = step limits m₁ r₁ := by
  rw [pull]
  generalize 0 = peak
  fun_induction run limits m r peak with
  | case1 m r peak e m' r' stepped => exact ⟨m, r, holds, stepped.symm⟩
  | case2 m r peak token m' r' stepped => exact ⟨m, r, holds, stepped.symm⟩
  | case3 m r peak next r' stepped ended => exact ⟨m, r, holds, stepped.symm⟩
  | case4 m r peak next r' stepped unfinished ih => exact ih (silent m r next r' holds stepped)

/-! ### Traces -/

/-- The tokens a machine brings until the end marker or an error. -/
inductive Trace (limits : ScanLimits) : Machine → Intake → List Token → Option ScanError → Prop where
  | failed {m m' : Machine} {r r' : Intake} {e : ScanError}
      (pulled : pull limits m r = ⟨.error e, m', r'⟩) : Trace limits m r [] (some e)
  | ended {m m' : Machine} {r r' : Intake} {token : Token}
      (pulled : pull limits m r = ⟨.ok (some token), m', r'⟩)
      (last : token.isEndOfStream = true) : Trace limits m r [token] none
  | more {m m' : Machine} {r r' : Intake} {token : Token} {tokens : List Token}
      {failure : Option ScanError} (pulled : pull limits m r = ⟨.ok (some token), m', r'⟩)
      (others : token.isEndOfStream = false) (behind : Trace limits m' r' tokens failure) :
      Trace limits m r (token :: tokens) failure

theorem Trace.of_pull {tokens : List Token} {failure : Option ScanError}
    (same : pull limits m r = pull limits m' r') (trace : Trace limits m' r' tokens failure) :
    Trace limits m r tokens failure := by
  cases trace with
  | failed pulled => exact .failed (same.trans pulled)
  | ended pulled last => exact .ended (same.trans pulled) last
  | more pulled others behind => exact .more (same.trans pulled) others behind

/-- There is a trace, and it is as described. -/
def Yields (limits : ScanLimits) (m : Machine) (r : Intake)
    (described : List Token → Option ScanError → Prop) : Prop :=
  ∃ tokens failure, Trace limits m r tokens failure ∧ described tokens failure

variable {described : List Token → Option ScanError → Prop}

/-- What is left to show of a machine after one of its handlers has succeeded. -/
def Continues (limits : ScanLimits) (acceptReturn : Bool)
    (described : List Token → Option ScanError → Prop) : Scan.Outcome → Scan → Prop
  | (next, none), s =>
    next ≠ .finished ∧ Yields limits ⟨next, s.nesting, acceptReturn⟩ s.intake described
  | (next, some token), s =>
    if token.isEndOfStream then described [token] none
    else Yields limits ⟨next, s.nesting, acceptReturn⟩ s.intake fun tokens failure =>
      described (token :: tokens) failure

/-- What the handler of the phase leads to decides what the machine yields. -/
theorem yields_of_handler
    (leads : Leads (Scan.handler limits acceptReturn phase) ⟨r, nesting⟩
      (Continues limits acceptReturn described) fun e => described [] (some e)) :
    Yields limits ⟨phase, nesting, acceptReturn⟩ r described := by
  unfold Leads at leads
  cases result : Scan.handler limits acceptReturn phase ⟨r, nesting⟩ with
  | error e s =>
    rw [result] at leads
    exact ⟨[], some e, .failed (pull_of_error (step_of_error result)), leads⟩
  | ok outcome s =>
    obtain ⟨next, emitted⟩ := outcome
    rw [result] at leads
    cases emitted with
    | none =>
      obtain ⟨unfinished, tokens, failure, trace, holds⟩ := leads
      exact ⟨tokens, failure, trace.of_pull (pull_of_silent (step_of_ok result) unfinished), holds⟩
    | some token =>
      have pulled := pull_of_token (step_of_ok result)
      simp only [Continues] at leads
      cases last : token.isEndOfStream with
      | true =>
        rw [last, if_pos rfl] at leads
        exact ⟨[token], none, .ended pulled last, leads⟩
      | false =>
        rw [last] at leads
        obtain ⟨tokens, failure, trace, holds⟩ := leads
        exact ⟨token :: tokens, failure, .more pulled last trace, holds⟩

end GrammarLex.Machine
