import GrammarLex.Proofs.Scan.Agreement

/-!
# Carriage returns and the machine

A machine asks whether a carriage return separates tokens only of a character it has looked at. On a
source that holds no carriage return it makes no difference what the answer is: five handlers ask, and
each of them does the same either way.
-/
namespace GrammarLex

theorem isSeparator_congr {c : Char} (other : c ≠ '\r') (acceptReturn acceptReturn' : Bool) :
    isSeparator acceptReturn c = isSeparator acceptReturn' c := by
  have differs : (c == '\r') = false := beq_false_of_ne other
  simp only [isSeparator, differs, Bool.and_false]

theorem Phase.ofLookahead_congr {c : Char} (other : c ≠ '\r') (acceptReturn acceptReturn' : Bool) :
    ofLookahead acceptReturn c = ofLookahead acceptReturn' c := by
  unfold ofLookahead
  split <;> first | rfl | rw [isSeparator_congr other acceptReturn acceptReturn']

/-! ### Sources without a carriage return -/

namespace CharSource

/-- No carriage return is to come. -/
def ReturnFree (s : CharSource) : Prop := '\r' ∉ s.contents.chars

variable {s s' : CharSource} {c : Char}

namespace ReturnFree

theorem ne_return (free : s.ReturnFree) (looked : peek s = .ok (some c) s') : c ≠ '\r' := by
  have whole := (contents_of_peek looked).2
  rintro rfl
  rw [ReturnFree, whole] at free
  exact free List.mem_cons_self

theorem peek (free : s.ReturnFree) {next : Option Char} (looked : CharSource.peek s = .ok next s') :
    s'.ReturnFree := by
  cases next with
  | none =>
    rw [ReturnFree, contents_of_peek_end looked]
    exact List.not_mem_nil
  | some c =>
    rw [ReturnFree, ← (contents_of_peek looked).1]
    exact free

theorem dropped (free : s.ReturnFree) (looked : CharSource.peek s = .ok (some c) s') :
    s'.dropped.ReturnFree := by
  have whole := (contents_of_peek looked).2
  rw [ReturnFree, whole] at free
  exact fun member => free (List.mem_cons_of_mem c member)

end ReturnFree

end CharSource

/-- A source coupled with itself that holds no carriage return. -/
def SourceCoupling.returnFree : SourceCoupling where
  joined _ s t := t = s ∧ s.ReturnFree
  kept s t := t = s
  parted _ _ := False
  keeps := And.left
  shows := by
    rintro p s t c ⟨rfl, -⟩ shows
    exact shows
  look := by
    rintro p s t ⟨rfl, free⟩
    cases looked : CharSource.peek t with
    | error e t' => exact .failed looked looked rfl
    | ok next t' =>
      refine .done looked looked ⟨⟨rfl, free.peek looked⟩, ?_⟩
      rintro c rfl
      exact ⟨rfl, free.dropped looked⟩

/-! ### Handlers -/

namespace Intake

variable {r : Intake} {keep keep' : Char → Bool}

theorem source_of_peek {next : Option Char} {ahead : Intake} (looked : peek r = .ok next ahead) :
    CharSource.peek r.source = .ok next ahead.source := by
  simp only [peek] at looked
  cases result : r.source.peek with
  | error e s => simp [result] at looked
  | ok next' s =>
    simp only [result, EStateM.Result.ok.injEq] at looked
    rw [← looked.1, ← looked.2]

private theorem skipWhileFrom_congr (agree : ∀ c, c ≠ '\r' → keep c = keep' c)
    (free : r.source.ReturnFree) (count : Nat) :
    skipWhileFrom keep count r = skipWhileFrom keep' count r ∧
      ∀ n r', skipWhileFrom keep count r = .ok n r' → r'.source.ReturnFree := by
  -- The loop ends where a look ends it, and each round takes a character off the contents.
  fun_induction skipWhileFrom keep count r with
  | case1 count r e ahead looked =>
    rw [skipWhileFrom_of_error looked]
    refine ⟨rfl, ?_⟩
    rintro n r' skipped
    cases skipped
  | case2 count r ahead looked =>
    rw [skipWhileFrom_of_ok looked rfl]
    refine ⟨rfl, ?_⟩
    rintro n r' same
    cases same
    exact free.peek (source_of_peek looked)
  | case3 count r c ahead looked keeps ih =>
    have other := free.ne_return (source_of_peek looked)
    rw [skipWhileFrom_of_keep looked (agree c other ▸ keeps)]
    exact ih (free.dropped (source_of_peek looked))
  | case4 count r c ahead looked stops =>
    have other := free.ne_return (source_of_peek looked)
    have stops' : (some c).all (!keep' ·) = true := by
      rw [Option.all_some, ← agree c other]
      simpa using stops
    rw [skipWhileFrom_of_ok looked stops']
    refine ⟨rfl, ?_⟩
    rintro n r' same
    cases same
    exact free.peek (source_of_peek looked)

theorem skipWhile_congr (agree : ∀ c, c ≠ '\r' → keep c = keep' c) (free : r.source.ReturnFree) :
    skipWhile keep r = skipWhile keep' r :=
  (skipWhileFrom_congr agree free 0).1

theorem returnFree_of_skipWhile (free : r.source.ReturnFree) {n : Nat} {r' : Intake}
    (skipped : skipWhile keep r = .ok n r') : r'.source.ReturnFree :=
  (skipWhileFrom_congr (fun _ _ => rfl) free 0).2 n r' skipped

private theorem bumpWhileFrom_congr {limits : ScanLimits} (agree : ∀ c, c ≠ '\r' → keep c = keep' c)
    (free : r.source.ReturnFree) (count : Nat) :
    bumpWhileFrom limits keep count r = bumpWhileFrom limits keep' count r := by
  fun_induction bumpWhileFrom limits keep count r with
  | case1 count r e ahead looked => rw [bumpWhileFrom_of_error looked]
  | case2 count r ahead looked => rw [bumpWhileFrom_of_ok looked rfl]
  | case3 count r c ahead looked keeps e last refused =>
    have other := free.ne_return (source_of_peek looked)
    rw [bumpWhileFrom_of_full looked (agree c other ▸ keeps) refused]
  | case4 count r c ahead looked keeps _ next taken ih =>
    have other := free.ne_return (source_of_peek looked)
    rw [bumpWhileFrom_of_keep looked (agree c other ▸ keeps) taken]
    have source_eq : next.source = ahead.source.dropped := by
      simp only [collect] at taken
      split at taken
      · cases taken
      · cases taken
        rfl
    exact ih (source_eq ▸ free.dropped (source_of_peek looked))
  | case5 count r c ahead looked stops =>
    have other := free.ne_return (source_of_peek looked)
    have stops' : (some c).all (!keep' ·) = true := by
      rw [Option.all_some, ← agree c other]
      simpa using stops
    rw [bumpWhileFrom_of_ok looked stops']

theorem bumpWhile_congr {limits : ScanLimits} (agree : ∀ c, c ≠ '\r' → keep c = keep' c)
    (free : r.source.ReturnFree) : bumpWhile limits keep r = bumpWhile limits keep' r :=
  bumpWhileFrom_congr agree free 0

end Intake

namespace Scan

variable {α β : Type} {r : Intake} {n : Nesting} {limits : ScanLimits}
  {acceptReturn acceptReturn' : Bool}

/-- Handlers are the same if what they do first is the same and what they do behind it is. -/
theorem bind_onIntake_congr {action action' : Intake.Action α} {f f' : α → Action β}
    (first : action r = action' r)
    (second : ∀ a r', action r = .ok a r' → f a ⟨r', n⟩ = f' a ⟨r', n⟩) :
    (onIntake action >>= f) ⟨r, n⟩ = (onIntake action' >>= f') ⟨r, n⟩ := by
  rw [bind_apply, bind_apply, onIntake, onIntake, ← first]
  cases result : action r with
  | error e r' => rfl
  | ok a r' => exact second a r' result

private theorem actionArgs_congr (free : r.source.ReturnFree) :
    actionArgs limits acceptReturn ⟨r, n⟩ = actionArgs limits acceptReturn' ⟨r, n⟩ := by
  have separators : ∀ c, c ≠ '\r' →
      (c == ',' || isSeparator acceptReturn c) = (c == ',' || isSeparator acceptReturn' c) := by
    intro c other
    rw [isSeparator_congr other acceptReturn acceptReturn']
  have inArgument : ∀ c, c ≠ '\r' → (c != ')' && c != ',' && !isSeparator acceptReturn c) =
      (c != ')' && c != ',' && !isSeparator acceptReturn' c) := by
    intro c other
    rw [isSeparator_congr other acceptReturn acceptReturn']
  refine bind_onIntake_congr (Intake.skipWhile_congr separators free) ?_
  intro _ r₁ skipped
  have free₁ : r₁.source.ReturnFree := Intake.returnFree_of_skipWhile free skipped
  refine bind_onIntake_congr rfl ?_
  rintro _ _ ⟨⟩
  refine bind_onIntake_congr rfl ?_
  intro next r₂ looked
  have free₂ := CharSource.ReturnFree.peek free₁ (Intake.source_of_peek (r := r₁.cleared) looked)
  -- Only an argument is collected up to a separator.
  split
  next => rfl
  next => rfl
  next => exact bind_onIntake_congr (Intake.bumpWhile_congr inArgument free₂) fun _ _ _ => rfl

/-- On a source without a carriage return a handler does the same whether or not one separates. -/
theorem handler_congr (limits : ScanLimits) (acceptReturn acceptReturn' : Bool) (phase : Phase)
    (n : Nesting) (free : r.source.ReturnFree) :
    handler limits acceptReturn phase ⟨r, n⟩ = handler limits acceptReturn' phase ⟨r, n⟩ := by
  have separators : ∀ c, c ≠ '\r' → isSeparator acceptReturn c = isSeparator acceptReturn' c :=
    fun c other => isSeparator_congr other acceptReturn acceptReturn'
  have skips := Intake.skipWhile_congr separators free
  cases phase with
  | dispatch =>
    refine bind_onIntake_congr rfl ?_
    rintro _ _ ⟨⟩
    refine bind_onIntake_congr rfl ?_
    intro next r' looked
    cases next with
    | none => rfl
    | some c =>
      have other := free.ne_return (Intake.source_of_peek (r := r.cleared) looked)
      simp only [Phase.ofLookahead_congr other acceptReturn acceptReturn']
  | whitespace => exact bind_onIntake_congr skips fun _ _ _ => rfl
  | actionName => exact bind_onIntake_congr skips fun _ _ _ => rfl
  | actionClose => exact bind_onIntake_congr skips fun _ _ _ => rfl
  | actionArgs => exact actionArgs_congr free
  | _ => rfl

end Scan

/-! ### The machine -/

namespace Machine

variable {limits : ScanLimits} {m m' : Machine} {r r' : Intake} {flag : Bool}
  {outcome : Except ScanError (Option Token)}

/-- The machine with the given answer to whether a carriage return separates tokens. -/
def accepting (flag : Bool) (m : Machine) : Machine := { m with acceptReturn := flag }

/-- The machine gives this answer itself, or it has no use for any. -/
def Indifferent (flag : Bool) (m : Machine) (r : Intake) : Prop :=
  m.acceptReturn = flag ∨ m.Agrees r ∧ r.source.ReturnFree

private theorem accepting_of_eq (own : m.acceptReturn = flag) : m.accepting flag = m := by
  subst own
  rfl

private theorem step_acceptReturn (stepped : step limits m r = ⟨outcome, m', r'⟩) :
    m'.acceptReturn = m.acceptReturn := by
  obtain ⟨phase, n, acceptReturn⟩ := m
  cases result : Scan.handler limits acceptReturn phase ⟨r, n⟩ with
  | error e s => rw [step_of_error result] at stepped; cases stepped; rfl
  | ok outcome s => rw [step_of_ok result] at stepped; cases stepped; rfl

/-- A step is the same with an answer that the machine is indifferent to. -/
private theorem step_accepting (indifferent : m.Indifferent flag r)
    (stepped : step limits m r = ⟨outcome, m', r'⟩) :
    step limits (m.accepting flag) r = ⟨outcome, m'.accepting flag, r'⟩ ∧
      ∀ token, outcome = .ok token → m'.Indifferent flag r' := by
  rcases indifferent with own | ⟨agrees, free⟩
  · have own' := (step_acceptReturn stepped).trans own
    rw [accepting_of_eq own, accepting_of_eq own']
    exact ⟨stepped, fun _ _ => .inl own'⟩
  · constructor
    · obtain ⟨phase, n, acceptReturn⟩ := m
      have same := Scan.handler_congr limits acceptReturn flag phase n free
      cases result : Scan.handler limits acceptReturn phase ⟨r, n⟩ with
      | error e s =>
        rw [step_of_error result] at stepped
        cases stepped
        exact step_of_error (same ▸ result)
      | ok outcome s =>
        rw [step_of_ok result] at stepped
        cases stepped
        exact step_of_ok (same ▸ result)
    · rintro token rfl
      have together : SourceCoupling.returnFree.onIntakes.Together r r := ⟨rfl, rfl, free⟩
      have steps := Coupling.step_stepsTo limits together agrees
      rw [stepped] at steps
      obtain ⟨⟨together', move⟩⟩ := steps
      exact .inr ⟨move.agreed agrees, together'.joined.2⟩

/-- What the machine brings is the same with an answer that it is indifferent to. -/
theorem pull_accepting {m : Machine} {r : Intake} (indifferent : m.Indifferent flag r)
    (pulled : pull limits m r = ⟨outcome, m', r'⟩) :
    pull limits (m.accepting flag) r = ⟨outcome, m'.accepting flag, r'⟩ ∧
      ∀ token, outcome = .ok token → m'.Indifferent flag r' := by
  rcases stepped : step limits m r with ⟨brought, next, behind⟩
  obtain ⟨other, indifferent'⟩ := step_accepting indifferent stepped
  match brought with
  | .error e =>
    cases (pull_of_error stepped).symm.trans pulled
    exact ⟨pull_of_error other, indifferent'⟩
  | .ok (some token) =>
    cases (pull_of_token stepped).symm.trans pulled
    exact ⟨pull_of_token other, indifferent'⟩
  | .ok none =>
    by_cases ended : next.phase = .finished
    · rw [pull, run_of_silent stepped, if_pos ended] at pulled
      cases pulled
      rw [pull, run_of_silent other]
      exact ⟨congrArg Ran.toStepped (if_pos ended), indifferent'⟩
    · rw [pull_of_silent other ended]
      exact pull_accepting (indifferent' none rfl) ((pull_of_silent stepped ended).symm.trans pulled)
termination_by m.toDo r
decreasing_by exact step_toDo stepped ended

end Machine

end GrammarLex
