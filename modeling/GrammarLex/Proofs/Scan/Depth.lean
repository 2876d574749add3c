import GrammarLex.Proofs.Scan.Untouched

/-!
# The greatest depth

The stack of open constructs remembers its greatest depth when one is opened. A handler opens or
closes at most one construct, so the greatest depth seen behind the steps that succeed is the one that
the stack remembers, and a run that starts from that peak ends with it.
-/
namespace GrammarLex

namespace Nesting

/-- What is open is no deeper than the greatest depth. -/
def Bounded (n : Nesting) : Prop := n.depth ≤ n.deepest

theorem Bounded.deepest_pop {n : Nesting} (bounded : n.Bounded) :
    n.pop.deepest = max n.deepest n.pop.depth := by
  have fewer : n.pop.depth ≤ n.depth := by
    change n.frames.tail.length ≤ n.frames.length
    rw [List.length_tail]
    exact Nat.sub_le _ _
  exact (Nat.max_eq_left (Nat.le_trans fewer bounded)).symm

end Nesting

namespace Scan

variable {α β : Type} {action : Action α} {f : α → Action β} {limits : ScanLimits}
  {acceptReturn : Bool}

/-- Once the action has succeeded the greatest depth is the one before, or the depth now. -/
def Deepens (action : Action α) : Prop :=
  ∀ t a t', t.nesting.Bounded → action t = .ok a t' →
    t'.nesting.deepest = max t.nesting.deepest t'.nesting.depth

theorem Steady.deepens (steady : Steady action) : Deepens action := by
  intro t a t' bounded done
  rw [steady.of_ok done]
  exact (Nat.max_eq_left bounded).symm

theorem Steady.bind_deepens (first : Steady action) (second : ∀ a, Deepens (f a)) :
    Deepens (action >>= f) := by
  intro t b t' bounded done
  obtain ⟨a, u, taken, done⟩ := bind_eq_ok.mp done
  have kept := first.of_ok taken
  rw [← kept]
  exact second a u b t' (kept ▸ bounded) done

theorem Deepens.bind_steady (first : Deepens action) (second : ∀ a, Steady (f a)) :
    Deepens (action >>= f) := by
  intro t b t' bounded done
  obtain ⟨a, u, taken, done⟩ := bind_eq_ok.mp done
  rw [(second a).of_ok done]
  exact first t a u bounded taken

/-! ### Opening and closing -/

theorem deepens_open (opener : Char) (p : Position) :
    Deepens (renest (·.openWith limits opener p)) := by
  rintro ⟨r, n⟩ a t' bounded done
  simp only [renest, Nesting.openWith, Nesting.push] at done
  split at done
  next n' opened =>
    cases done
    split at opened
    next kind _ =>
      split at opened
      next => cases opened
      next => cases opened; rfl
    next => cases opened
  next => cases done

theorem deepens_popFrame : Deepens popFrame := by
  intro t a t' bounded done
  cases done
  exact bounded.deepest_pop

theorem deepens_closeInnermost : Deepens (closeInnermost limits) := by
  refine steady_top.bind_deepens fun top => ?_
  cases top with
  | none => exact (steady_pure _).deepens
  | some frame =>
    refine deepens_popFrame.bind_steady fun _ => (steady_onIntake _).bind fun next => ?_
    split
    · exact (steady_onIntake _).bind fun _ => steady_pure _
    · exact steady_pure _

/-! ### Handlers -/

theorem deepens_openEnclosure : Deepens (openEnclosure limits) :=
  steady_position.bind_deepens fun _ => (steady_expectAny _).bind_deepens fun _ =>
    (deepens_open _ _).bind_steady fun _ => (steady_onIntake _).bind fun _ =>
      (steady_onIntake _).bind fun _ => steady_pure _

theorem deepens_openGroup : Deepens (openGroup limits) :=
  steady_position.bind_deepens fun _ => (steady_expectAny _).bind_deepens fun _ =>
    (deepens_open _ _).bind_steady fun _ => steady_top.bind fun _ =>
      (steady_emit _).bind fun _ => steady_pure _

theorem deepens_actionOpen : Deepens (actionOpen limits) :=
  steady_position.bind_deepens fun _ => (steady_expect _ _).bind_deepens fun _ =>
    (deepens_open _ _).bind_steady fun _ => (steady_onIntake _).bind fun _ => steady_pure _

theorem deepens_closeEnclosure : Deepens (closeEnclosure limits) :=
  deepens_closeInnermost.bind_steady fun _ => (steady_onIntake _).bind fun _ => steady_pure _

theorem deepens_actionClose : Deepens (actionClose limits acceptReturn) :=
  (steady_onIntake _).bind_deepens fun _ => steady_closingBrace.bind_deepens fun _ =>
    deepens_popFrame.bind_steady fun _ => (steady_onIntake _).bind fun _ => steady_pure _

theorem deepens_closeGroup : Deepens (closeGroup limits) := by
  refine steady_position.bind_deepens fun here => (steady_onIntake _).bind_deepens fun next => ?_
  cases next with
  | none => exact (steady_pure _).deepens
  | some closer =>
    dsimp only
    intro t a t' bounded done
    rw [bind_apply, get_apply] at done
    dsimp only at done
    cases closes : t.nesting.closeGroup closer here with
    | error e =>
      rw [closes] at done
      dsimp only at done
      split at done
      · exact (steady_pure _).deepens t a t' bounded done
      · cases done
    | ok closed =>
      obtain ⟨frame, n⟩ := closed
      obtain ⟨rfl, -⟩ := Machine.closeGroup_eq_ok closes
      rw [closes] at done
      obtain ⟨_, u, dropped, done⟩ := bind_eq_ok.mp done
      cases dropped
      have kept := ((steady_onIntake _).bind fun _ => (steady_emit _).bind fun _ =>
        steady_pure _).of_ok done
      rw [kept]
      exact bounded.deepest_pop

theorem handler_deepens (limits : ScanLimits) (acceptReturn : Bool) (phase : Phase) :
    Deepens (handler limits acceptReturn phase) := by
  cases phase with
  | dispatch => exact steady_dispatch.deepens
  | whitespace => exact steady_whitespace.deepens
  | endOfRule => exact steady_endOfRule.deepens
  | productionRuleOp => exact steady_productionRuleOp.deepens
  | or | assign | and => exact (steady_single _).deepens
  | sequence => exact steady_sequence.deepens
  | openEnclosure => exact deepens_openEnclosure
  | scanEnclosed => exact steady_scanEnclosed.deepens
  | closeEnclosure => exact deepens_closeEnclosure
  | openGroup => exact deepens_openGroup
  | closeGroup => exact deepens_closeGroup
  | actionOpen => exact deepens_actionOpen
  | actionName => exact steady_actionName.deepens
  | actionArgs => exact steady_actionArgs.deepens
  | actionClose => exact deepens_actionClose
  | bareTerminal => exact steady_bareTerminal.deepens
  | finished => exact (steady_pure _).deepens

end Scan

namespace Machine

variable {limits : ScanLimits} {acceptReturn : Bool} {source : CharSource} {m m' : Machine}
  {r r' : Intake} {tokens : List Token} {token : Option Token}

/-- Behind a step that succeeds the greatest depth is the one before, or the depth now. -/
theorem deepest_of_step (bounded : m.nesting.Bounded)
    (stepped : m.step limits r = ⟨.ok token, m', r'⟩) :
    m'.nesting.deepest = max m.nesting.deepest m'.nesting.depth ∧ m'.nesting.Bounded := by
  obtain ⟨phase, n, acceptReturn⟩ := m
  simp only [step] at stepped
  cases result : Scan.handler limits acceptReturn phase ⟨r, n⟩ with
  | error e t => simp [result] at stepped
  | ok outcome t =>
    rw [result] at stepped
    cases stepped
    have deepest := Scan.handler_deepens limits acceptReturn phase _ _ _ bounded result
    exact ⟨deepest, Nat.le_trans (Nat.le_max_right _ _) (Nat.le_of_eq deepest.symm)⟩

theorem Emits.bounded (emits : Emits limits acceptReturn source tokens m r) : m.nesting.Bounded := by
  induction emits with
  | fresh => exact Nat.le_refl 0
  | step emits stepped ih => exact (deepest_of_step ih stepped).2

/-- A run that starts from the greatest depth ends with the greatest depth. -/
theorem Emits.peak_eq (emits : Emits limits acceptReturn source tokens m r) :
    (m.run limits r m.nesting.deepest).peak =
      (m.run limits r m.nesting.deepest).machine.nesting.deepest := by
  suffices run : ∀ peak, peak = m.nesting.deepest →
      (m.run limits r peak).peak = (m.run limits r peak).machine.nesting.deepest from run _ rfl
  intro peak known
  fun_induction run limits m r peak generalizing tokens with
  | case1 m r peak e m' r' stepped =>
    rw [emits.eq_of_failed stepped]
    exact known
  | case2 m r peak token m' r' stepped =>
    rw [(deepest_of_step emits.bounded stepped).1, known]
  | case3 m r peak next r' stepped ended =>
    rw [(deepest_of_step emits.bounded stepped).1, known]
  | case4 m r peak next r' stepped unfinished ih =>
    have emits' := emits.step stepped
    refine ih emits' ?_
    rw [(deepest_of_step emits.bounded stepped).1, known]

end Machine

end GrammarLex
