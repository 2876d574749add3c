import GrammarLex.Scan.Progress

/-!
# The scanning machine

The machine is the suspended state of a scan between two tokens: the phase and the open constructs.
It owns no characters, so it may be stepped on any intake. Running it steps until a token, an error
or the end; `Scan.toDo` shows that a run ends.
-/
namespace GrammarLex

structure Machine where
  phase : Phase := .dispatch
  nesting : Nesting := {}
  -- A carriage return separates tokens.
  acceptReturn : Bool := true
  deriving Repr

structure Stepped where
  -- An error, a token, or nothing.
  outcome : Except ScanError (Option Token)
  machine : Machine
  intake : Intake
  deriving Repr

/-- What a run leads to, and the greatest depth seen after one of its steps. -/
structure Ran extends Stepped where
  -- Greatest depth seen after a successful step.
  peak : Nat
  deriving Repr

namespace Machine

def initial (acceptReturn : Bool) : Machine := { acceptReturn := acceptReturn }

def isFinished (m : Machine) : Bool := m.phase = .finished

/-- Run the handler of the current phase once. When it fails the phase stays. -/
def step (limits : ScanLimits) (m : Machine) (r : Intake) : Stepped :=
  match m with
  | ⟨phase, nesting, acceptReturn⟩ =>
    match Scan.handler limits acceptReturn phase ⟨r, nesting⟩ with
    | .ok (next, token) ⟨r, nesting⟩ => ⟨.ok token, ⟨next, nesting, acceptReturn⟩, r⟩
    | .error e ⟨r, nesting⟩ => ⟨.error e, ⟨phase, nesting, acceptReturn⟩, r⟩

/-- What is left to do before a token, an error or the end. -/
def toDo (m : Machine) (r : Intake) : Nat := Scan.toDo m.acceptReturn m.phase r

/-- A step that neither emits nor fails nor finishes leaves less to do. -/
theorem step_toDo {limits : ScanLimits} {m m' : Machine} {r r' : Intake}
    (stepped : step limits m r = ⟨.ok none, m', r'⟩) (unfinished : m'.phase ≠ .finished) :
    m'.toDo r' < m.toDo r := by
  obtain ⟨phase, nesting, acceptReturn⟩ := m
  simp only [step] at stepped
  cases result : Scan.handler limits acceptReturn phase ⟨r, nesting⟩ with
  | error e s => simp [result] at stepped
  | ok outcome s =>
    obtain ⟨next, token⟩ := outcome
    simp only [result, Stepped.mk.injEq, Except.ok.injEq] at stepped
    obtain ⟨rfl, rfl, rfl⟩ := stepped
    exact Scan.handler_toDo limits result unfinished

/-- Step until a token is emitted, a handler fails or the machine is finished; in the last case the
outcome holds no token. -/
def run (limits : ScanLimits) (m : Machine) (r : Intake) (peak : Nat) : Ran :=
  match _stepped : step limits m r with
  | ⟨.error e, m, r⟩ => ⟨⟨.error e, m, r⟩, peak⟩
  | ⟨.ok (some token), m, r⟩ => ⟨⟨.ok (some token), m, r⟩, max peak m.nesting.depth⟩
  | ⟨.ok none, next, r'⟩ =>
    if next.phase = .finished then ⟨⟨.ok none, next, r'⟩, max peak next.nesting.depth⟩
    else run limits next r' (max peak next.nesting.depth)
termination_by m.toDo r
decreasing_by exact step_toDo _stepped ‹_›

end Machine

end GrammarLex
