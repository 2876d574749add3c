import GrammarLex.Proofs.Session.Nested
import GrammarLex.Proofs.Session.Observation

/-!
# A request that fails

A step that fails, and a buffer that refuses a token, change nothing of a session but how far it has
read: the machine is where it was before the step, and neither the buffer nor the counts have moved.
-/
namespace GrammarLex

variable {limits : ScanLimits} {acceptReturn : Bool} {source : CharSource} {m m' : Machine}
  {r r' : Intake} {tokens : List Token} {e : ScanError}

namespace Machine

/-- Steps that emit nothing. -/
inductive Quiet (limits : ScanLimits) (m : Machine) (r : Intake) : Machine → Intake → Prop where
  | refl : Quiet limits m r m r
  | step {m₁ m₂ : Machine} {r₁ r₂ : Intake} (before : Quiet limits m r m₁ r₁)
      (stepped : m₁.step limits r₁ = ⟨.ok none, m₂, r₂⟩) : Quiet limits m r m₂ r₂

theorem Emits.quiet (emits : Emits limits acceptReturn source tokens m r)
    (quiet : Quiet limits m r m' r') : Emits limits acceptReturn source tokens m' r' := by
  induction quiet with
  | refl => exact emits
  | step before stepped ih => simpa using ih.step stepped

/-- What the machine stops with is what it stops with behind steps that emit nothing. -/
theorem Quiet.pull_eq (quiet : Quiet limits m r m' r') (agrees : m.Agrees r)
    (unfinished : m.phase ≠ .finished) :
    m.pull limits r = m'.pull limits r' ∧ m'.Agrees r' ∧ m'.phase ≠ .finished := by
  induction quiet with
  | refl => exact ⟨rfl, agrees, unfinished⟩
  | step before stepped ih =>
    obtain ⟨same, agrees₁, unfinished₁⟩ := ih
    have goesOn := ((agrees₁.moves stepped).1.finished_iff unfinished₁).not.mpr (by simp)
    exact ⟨same.trans (pull_of_silent stepped goesOn), agrees₁.of_step stepped, goesOn⟩

end Machine

namespace Session

variable {s s' : Session} {token : Token} {answered : Option Token}

/-- Neither the buffer nor any count has moved; at most a greater depth is known. -/
structure Undisturbed (s s' : Session) : Prop where
  buffer_eq : s'.buffer = s.buffer
  metrics_eq : { s'.metrics with maxDepth := s.metrics.maxDepth } = s.metrics

theorem Undisturbed.refl (s : Session) : Undisturbed s s := ⟨rfl, rfl⟩

theorem Undisturbed.trans {s'' : Session} (first : Undisturbed s s') (second : Undisturbed s' s'') :
    Undisturbed s s'' := by
  refine ⟨second.buffer_eq.trans first.buffer_eq, ?_⟩
  have kept :=
    congrArg (fun metrics => { metrics with maxDepth := s.metrics.maxDepth }) second.metrics_eq
  exact kept.trans first.metrics_eq

/-! ### Reading on -/

private theorem undisturbed_begin (limits : ScanLimits) (s : Session) :
    Undisturbed s (s.begin limits) := by
  unfold begin
  split <;> exact ⟨rfl, rfl⟩

private theorem undisturbed_ran (s : Session) (machine : Machine) (intake : Intake) (peak : Nat) :
    Undisturbed s { s with machine, intake, metrics := s.metrics.recordPeak s.preferences peak } := by
  refine ⟨rfl, ?_⟩
  change { s.metrics.recordPeak s.preferences peak with maxDepth := s.metrics.maxDepth } = s.metrics
  unfold Metrics.recordPeak
  split <;> rfl

/-- A token that is refused leaves nothing behind. -/
private theorem undisturbed_commit (refused : commit limits token s = .error e s') :
    Undisturbed s s' := by
  unfold commit at refused
  split at refused
  · cases refused
    exact ⟨rfl, rfl⟩
  · cases refused

theorem undisturbed_scan (failed : scan limits s = .error e s') : Undisturbed s s' := by
  rw [scan_eq] at failed
  generalize (s.begin limits).machine.run limits (s.begin limits).intake
    (s.begin limits).metrics.maxDepth = ran at failed
  obtain ⟨⟨outcome, machine, intake⟩, peak⟩ := ran
  have ran := (undisturbed_begin limits s).trans
    (undisturbed_ran (s.begin limits) machine intake peak)
  match outcome with
  | .error e' =>
    cases failed
    exact ran.trans ⟨rfl, rfl⟩
  | .ok none => cases failed
  | .ok (some token) => exact ran.trans (undisturbed_commit failed)

/-! ### Requests -/

theorem undisturbed_next (failed : next limits s = .error e s') : Undisturbed s s' := by
  cases asked limits s with
  | buffered inside answered => cases failed.symm.trans answered
  | finished closed answered => cases failed.symm.trans answered
  | failed stuck answered =>
    cases failed.symm.trans answered
    exact .refl s
  | reading reached isOpen answered => exact undisturbed_scan (answered.symm.trans failed)

theorem undisturbed_peek (within : s.buffer.cursor ≤ s.buffer.size)
    (failed : peek limits s = .error e s') : Undisturbed s s' := by
  unfold peek at failed
  split at failed
  next => cases failed
  next result =>
    obtain ⟨buffer_eq, metrics_eq⟩ := undisturbed_next result
    cases failed
    refine ⟨?_, ?_⟩
    · -- The saved cursor is within the buffer.
      have kept : s.buffer.reset s.mark = s.buffer := by
        change { s.buffer with cursor := min s.buffer.cursor s.buffer.size } = s.buffer
        rw [Nat.min_eq_left within]
      exact (congrArg (TokenBuffer.reset · s.mark) buffer_eq).trans kept
    · exact congrArg (fun metrics => { metrics with replayed := s.metrics.replayed }) metrics_eq

/-- A request for the next token, taken or only looked at, that is answered with an error. -/
theorem undisturbed_perform (within : s.buffer.cursor ≤ s.buffer.size) {request : Request}
    (asks : request = .next ∨ request = .peek) (failed : answer limits s request = .token (.error e)) :
    Undisturbed s (s.perform limits request) := by
  rcases asks with rfl | rfl
  · cases result : next limits s with
    | ok found s' => rw [answer, result] at failed; cases failed
    | error e' s' =>
      rw [perform, result]
      exact undisturbed_next result
  · cases result : peek limits s with
    | ok found s' => rw [answer, result] at failed; cases failed
    | error e' s' =>
      rw [perform, result]
      exact undisturbed_peek within result

/-- What a request for the next token comes to that lets the text be read on. -/
private theorem next_of_pull {outcome : Except ScanError (Option Token)}
    (reached : s.buffer.cursor = s.buffer.size) (isOpen : s.core.IsOpen)
    (pulled : s.machine.pull limits s.intake = ⟨outcome, m', r'⟩) :
    (∀ e, outcome = .error e → answerOf (next limits s) = .error e) ∧
    (∀ token refusal, outcome = .ok (some token) →
      s.buffer.refusal? limits.maxTokens token = some refusal →
      answerOf (next limits s) = .error (refusalError r'.position refusal)) ∧
    (finalState (next limits s)).machine = m' ∧ (finalState (next limits s)).intake = r' := by
  have empty : s.core.buffer.tokens[s.core.buffer.cursor]? = none :=
    Array.getElem?_eq_none_iff.mpr (Nat.le_of_eq reached.symm)
  have pulled : s.core.machine.pull limits s.core.intake = ⟨outcome, m', r'⟩ := pulled
  have came := (next_core limits s).next_eq
  rw [Core.next, empty] at came
  simp only [isOpen.1, isOpen.2, pulled, Bool.false_eq_true, if_false] at came
  rcases outcome with e | _ | token
  · refine ⟨?_, ?_, congrArg (·.2.machine) came.symm, congrArg (·.2.intake) came.symm⟩
    · rintro _ ⟨⟩
      exact congrArg Prod.fst came.symm
    · rintro _ _ ⟨⟩
  · refine ⟨?_, ?_, congrArg (·.2.machine) came.symm, congrArg (·.2.intake) came.symm⟩
    · rintro _ ⟨⟩
    · rintro _ _ ⟨⟩
  · dsimp only at came
    have unfinished : s.buffer.finished = false := isOpen.1
    -- The token is refused just if there is no room for it.
    by_cases crowded : limits.maxTokens ≤ s.core.buffer.size
    · rw [if_pos crowded] at came
      refine ⟨?_, ?_, congrArg (·.2.machine) came.symm, congrArg (·.2.intake) came.symm⟩
      · rintro _ ⟨⟩
      · rintro _ refusal ⟨⟩ refused
        rw [TokenBuffer.refusal?_of_unfinished unfinished,
          if_pos (show s.buffer.size ≥ limits.maxTokens from crowded)] at refused
        cases refused
        exact congrArg Prod.fst came.symm
    · rw [if_neg crowded] at came
      refine ⟨?_, ?_, congrArg (·.2.machine) came.symm, congrArg (·.2.intake) came.symm⟩
      · rintro _ ⟨⟩
      · rintro _ refusal ⟨⟩ refused
        rw [TokenBuffer.refusal?_of_unfinished unfinished,
          if_neg (show ¬s.buffer.size ≥ limits.maxTokens from crowded)] at refused
        cases refused

private theorem perform_of_pull {outcome : Except ScanError (Option Token)}
    (reached : s.buffer.cursor = s.buffer.size) (isOpen : s.core.IsOpen)
    (pulled : s.machine.pull limits s.intake = ⟨outcome, m', r'⟩) {request : Request}
    (asks : request = .next ∨ request = .peek) :
    (∀ e, outcome = .error e → answer limits s request = .token (.error e)) ∧
    (∀ token refusal, outcome = .ok (some token) →
      s.buffer.refusal? limits.maxTokens token = some refusal →
      answer limits s request = .token (.error (refusalError r'.position refusal))) ∧
    (s.perform limits request).machine = m' ∧ (s.perform limits request).intake = r' := by
  obtain ⟨fails, refuses, machine_eq, intake_eq⟩ := next_of_pull reached isOpen pulled
  rcases asks with rfl | rfl
  · exact ⟨fun e failed => congrArg Answer.token (fails e failed),
      fun token refusal brought refused => congrArg Answer.token (refuses token refusal brought refused),
      machine_eq, intake_eq⟩
  · obtain ⟨answer_eq, core_eq⟩ := peek_eq limits s
    rw [answer, answer_eq]
    exact ⟨fun e failed => congrArg Answer.token (fails e failed),
      fun token refusal brought refused => congrArg Answer.token (refuses token refusal brought refused),
      (congrArg Core.machine core_eq).trans machine_eq, (congrArg Core.intake core_eq).trans intake_eq⟩

/-- Whatever a session has been asked for, a step of its machine that fails leaves the machine as it
was. A request for the next token that is answered with an error leaves the buffer and all counts as
they were. If it lets the text be read on, and a step fails behind others that emit nothing, that error
is the answer; and if the token of such a step is refused, be it the end marker, so is the refusal. -/
theorem failing_request_keeps (limits : ScanLimits) (preferences : LexicalPreferences)
    (source : CharSource) :
    (∀ emitted m r e m' r',
      Machine.Emits limits preferences.acceptCarriageReturn source emitted m r →
      m.step limits r = ⟨.error e, m', r'⟩ → m' = m) ∧
    ∀ requests request, request = .next ∨ request = .peek →
      let s := (start preferences source).serve limits requests
      let s' := s.perform limits request
      (∀ e, answer limits s request = .token (.error e) → Undisturbed s s') ∧
      (s.buffer.cursor = s.buffer.size → s.isFinished = false → s.failure = none →
        Machine.Emits limits preferences.acceptCarriageReturn source s.buffer.tokens.toList s.machine
          s.intake ∧
        ∀ m r, Machine.Quiet limits s.machine s.intake m r →
          (∀ e m' r', m.step limits r = ⟨.error e, m', r'⟩ →
            answer limits s request = .token (.error e) ∧ s'.machine = m ∧ s'.intake = r') ∧
          ∀ token m' r' refusal, m.step limits r = ⟨.ok (some token), m', r'⟩ →
            s.buffer.refusal? limits.maxTokens token = some refusal →
            answer limits s request = .token (.error (refusalError r'.position refusal)) ∧
              s'.machine = m' ∧ s'.intake = r') := by
  refine ⟨fun emitted m r e m' r' emits stepped => emits.eq_of_failed stepped, ?_⟩
  intro requests request asks s s'
  have tracks := serve_tracks (start_tracks_drain limits preferences source) requests
  refine ⟨fun e failed => undisturbed_perform tracks.cursor_le asks failed, ?_⟩
  intro reached unfinished unfailed
  have emits : Machine.Emits limits preferences.acceptCarriageReturn source s.buffer.tokens.toList
      s.machine s.intake := by
    obtain ⟨emitted, emitted_by⟩ := serve_emitted limits preferences source requests
    cases emitted_by with
    | running _ emits => exact emits
    | broken stuck => cases stuck.symm.trans unfailed
    | crowded stuck => cases stuck.symm.trans unfailed
  have goesOn : s.machine.phase ≠ .finished := by
    rw [Ne, (sound_serve limits preferences source requests).finished_iff unfailed]
    exact Bool.eq_false_iff.mp unfinished
  refine ⟨emits, ?_⟩
  intro m r quiet
  obtain ⟨pulled, -⟩ := quiet.pull_eq emits.agrees goesOn
  constructor
  · intro e m' r' stepped
    obtain ⟨fails, -, machine_eq, intake_eq⟩ := perform_of_pull reached ⟨unfinished, unfailed⟩
      (pulled.trans (Machine.pull_of_error stepped)) asks
    exact ⟨fails e rfl, machine_eq.trans ((emits.quiet quiet).eq_of_failed stepped), intake_eq⟩
  · intro token m' r' refusal stepped refused
    obtain ⟨-, refuses, machine_eq, intake_eq⟩ := perform_of_pull reached ⟨unfinished, unfailed⟩
      (pulled.trans (Machine.pull_of_token stepped)) asks
    exact ⟨refuses token refusal rfl refused, machine_eq, intake_eq⟩

/-- A closing bracket behind an opening parenthesis, a colon that is looked at, and the end marker of an
empty text where there is no room for a token. -/
theorem failing_request_keeps_of_mismatch :
    (∃ emitted m r m' r' e,
      Machine.Emits .development true ⟨.ofBytes [0x28, 0x5D], none, none⟩ emitted m r ∧
      m.step .development r = ⟨.error e, m', r'⟩ ∧ m.nesting.depth = 1 ∧ m' = m) ∧
    (∃ m r, let s := start {} ⟨.ofBytes [0x3A], none, none⟩
      Machine.Quiet .development s.machine s.intake m r ∧ m.phase = .productionRuleOp ∧
      answer .development s .peek = .token (.error (.unexpected .endOfInput "'::='" ⟨1, 1, 2⟩)) ∧
      (s.perform .development .peek).machine = m ∧ Undisturbed s (s.perform .development .peek)) ∧
    let limits : ScanLimits := ⟨8, 0, 8, 8⟩
    let s := start {} ⟨.ofBytes [], none, none⟩
    answer limits s .next = .token (.error (.tooManyTokens 1 .start)) ∧
      Undisturbed s (s.perform limits .next) := by
  refine ⟨?_, ?_, ?_⟩
  · obtain ⟨emitted, m, r, m', r', e, emits, stepped, depth⟩ : ∃ emitted m r m' r' e,
        Machine.Emits .development true ⟨.ofBytes [0x28, 0x5D], none, none⟩ emitted m r ∧
        m.step .development r = ⟨.error e, m', r'⟩ ∧ m.nesting.depth = 1 :=
      ⟨_, _, _, _, _, _, .step (.step (.step .fresh rfl) rfl) rfl, rfl, rfl⟩
    have keeps := (failing_request_keeps .development {} ⟨.ofBytes [0x28, 0x5D], none, none⟩).1
    exact ⟨emitted, m, r, m', r', e, emits, stepped, depth, keeps _ _ _ _ _ _ emits stepped⟩
  · obtain ⟨undisturbed, reading⟩ :=
      (failing_request_keeps .development {} ⟨.ofBytes [0x3A], none, none⟩).2 [] .peek (.inr rfl)
    have selected : (start {} ⟨.ofBytes [0x3A], none, none⟩).machine.step .development
        (start {} ⟨.ofBytes [0x3A], none, none⟩).intake = _ := rfl
    have quiet := Machine.Quiet.step .refl selected
    obtain ⟨answered, machine_eq, -⟩ := ((reading rfl rfl rfl).2 _ _ quiet).1 _ _ _ rfl
    exact ⟨_, _, quiet, rfl, answered, machine_eq, undisturbed _ answered⟩
  · intro limits s
    obtain ⟨undisturbed, reading⟩ :=
      (failing_request_keeps limits {} ⟨.ofBytes [], none, none⟩).2 [] .next (.inl rfl)
    obtain ⟨-, steps⟩ := reading rfl rfl rfl
    obtain ⟨refused, -⟩ := (steps _ _ .refl).2 _ _ _ (.tooManyTokens 1) rfl rfl
    exact ⟨refused, undisturbed _ refused⟩

end Session

end GrammarLex
