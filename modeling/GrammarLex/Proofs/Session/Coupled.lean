import GrammarLex.Proofs.Session.Sound

/-!
# Sessions on coupled sources

Two sessions whose sources are coupled answer every request alike, until the second source alone
fails. A source coupled with itself gives the invariant of a single session.
-/
namespace GrammarLex

namespace Session

variable {limits : ScanLimits} {s : Session} {token : Token} {e : ScanError} {b : CharSource}

/-! ### Answers -/

/-- What a session answers to a request. -/
inductive Answer where
  -- To a request for the next token, taken or only looked at.
  | token (answer : Except ScanError (Option Token))
  | item (item : Option (Except ScanError Token))
  | mark (m : Mark)
  | done
  deriving DecidableEq

def answer (limits : ScanLimits) (s : Session) : Request → Answer
  | .next => .token (answerOf (next limits s))
  | .peek => .token (answerOf (peek limits s))
  | .mark => .mark s.mark
  | .reset _ => .done
  | .iterate => .item (iterate limits s).1

/-- What a session answers to requests, one after the other. -/
def answers (limits : ScanLimits) (s : Session) : List Request → List Answer
  | [] => []
  | request :: requests => answer limits s request :: answers limits (perform limits s request) requests

/-- The error that a request is answered with. -/
def Answer.failure? : Answer → Option ScanError
  | .token (.error e) => some e
  | .item (some (.error e)) => some e
  | _ => none

private theorem failure_of_next {e : ScanError} (fails : answerOf (next limits s) = .error e) :
    (finalState (next limits s)).failure = some e := by
  have next := next_core limits s
  rw [fails] at next
  change (finalState (Session.next limits s)).core.failure = some e
  generalize (finalState (Session.next limits s)).core = k at next
  cases next with
  | failed _ _ stuck => exact stuck
  | broken => rfl
  | crowded => rfl

/-- The error that a request is answered with is the one the session keeps. -/
theorem failure_of_answer {request : Request} {e : ScanError}
    (fails : (answer limits s request).failure? = some e) :
    (s.perform limits request).failure = some e := by
  have token {a : Except ScanError (Option Token)} (failed : (Answer.token a).failure? = some e) :
      a = .error e := by
    cases a with
    | error e' => cases failed; rfl
    | ok => cases failed
  cases request with
  | next => exact failure_of_next (token fails)
  | peek =>
    obtain ⟨same, core_eq⟩ := peek_eq limits s
    have fails := failure_of_next (same.symm.trans (token fails))
    exact (congrArg Core.failure core_eq).trans fails
  | mark => cases fails
  | reset m => cases fails
  | iterate =>
    cases ended : s.iterated with
    | true =>
      rw [answer, iterate_of_ended ended] at fails
      cases fails
    | false =>
      obtain ⟨item_eq, core_eq⟩ := iterate_eq limits ended
      rw [answer, item_eq] at fails
      refine (congrArg Core.failure core_eq).trans (failure_of_next ?_)
      match found : answerOf (next limits s) with
      | .error e' =>
        rw [found] at fails
        cases fails
        rfl
      | .ok none => rw [found] at fails; cases fails
      | .ok (some token) => rw [found] at fails; cases fails

/-! ### Sessions that differ in their sources -/

def withSource (s : Session) (b : CharSource) : Session :=
  { s with intake := { s.intake with source := b } }

theorem begin_withSource : (s.withSource b).begin limits = (s.begin limits).withSource b := by
  by_cases started : s.started
  · simp only [begin, withSource, started, if_true]
  · simp [begin, withSource, started, note]

theorem finish_withSource : (s.withSource b).finish = s.finish.withSource b := by
  simp only [finish, withSource, depth]
  cases s.machine.nesting.top? <;> rfl

theorem acknowledge_withSource :
    (s.withSource b).acknowledge token = (s.acknowledge token).withSource b := by
  have preferences_eq : (s.withSource b).preferences = s.preferences := rfl
  simp only [acknowledge, preferences_eq]
  cases token.isEndOfStream with
  | true =>
    simp only [if_true]
    rw [← finish_withSource]
    cases s.preferences.logTokenEvents <;> rfl
  | false => cases s.preferences.logTokenEvents <;> rfl

theorem commit_withSource (limits : ScanLimits) (token : Token) (s : Session) (b : CharSource) :
    commit limits token (s.withSource b) = match commit limits token s with
    | .ok a s' => .ok a (s'.withSource b)
    | .error e s' => .error e (s'.withSource b) := by
  have buffer_eq : (s.withSource b).buffer = s.buffer := rfl
  have appended : ({ s.withSource b with buffer := s.buffer.append token } : Session) =
      ({ s with buffer := s.buffer.append token } : Session).withSource b := rfl
  simp only [commit, buffer_eq]
  cases s.buffer.refusal? limits.maxTokens token with
  | some refusal => rfl
  | none =>
    simp only [appended, acknowledge_withSource]
    rfl

/-! ### Reading on -/

/-- What a session makes of a run of its machine. -/
def settle (limits : ScanLimits) (s : Session) (ran : Ran) :
    EStateM.Result ScanError Session (Option Token) :=
  let s := { s with machine := ran.machine, intake := ran.intake,
                    metrics := s.metrics.recordPeak s.preferences ran.peak }
  match ran.outcome with
  | .ok (some token) => commit limits token s
  | .ok none => .ok none s
  | .error e => .error e (s.fail limits e)

theorem scan_eq (limits : ScanLimits) (s : Session) : scan limits s =
    settle limits (s.begin limits) ((s.begin limits).machine.run limits (s.begin limits).intake
      (s.begin limits).metrics.maxDepth) := rfl

end Session

namespace Coupling

open Session

variable {κ : Coupling} {limits : ScanLimits} {s t : Session}

/-- Sessions that differ in their sources only; these are coupled until there was an error. -/
structure Sessions (κ : Coupling) (s t : Session) : Prop where
  same : t = s.withSource t.intake.source
  joined : s.failure = none → κ.joined s.intake t.intake.source
  kept : κ.kept s.intake t.intake.source
  sound : s.Sound

/-- What two requests that may read on lead to. -/
def Serves (κ : Coupling) (action : Session.Action (Option Token)) (s t : Session) : Prop :=
  InStep action s t (fun _ s' t' => κ.Sessions s' t') (fun e s' t' => e.Surfaces ∧ κ.Sessions s' t')
    κ.Parts

/-- A failed session is left with sources that have been coupled. -/
private theorem Sessions.of_fail {e : ScanError} {b : CharSource} (kept : κ.kept s.intake b)
    (sound : (s.fail limits e).Sound) :
    κ.Sessions (s.fail limits e) ((s.withSource b).fail limits e) :=
  ⟨rfl, nofun, kept, sound⟩

/-- The token that a run has brought is buffered, or refused, in both sessions. -/
private theorem commit_serves {token : Token} {b : CharSource} (ready : s.Ready token)
    (joined : κ.joined s.intake b) :
    κ.Serves (commit limits token) s (s.withSource b) := by
  have other := commit_withSource limits token s b
  rcases ready.commit_eq limits with
    ⟨s', committed, sound, intake_eq, failure_eq⟩ | ⟨e, refused, surfaces, sound⟩
  · rw [committed] at other
    rw [← intake_eq] at joined
    exact .done committed other ⟨rfl, fun _ => joined, κ.keeps joined, sound⟩
  · rw [refused] at other
    exact .failed refused other ⟨surfaces, .of_fail (κ.keeps joined) sound⟩

/-- What two runs bring, or end with, is settled in the same way in both sessions. -/
private theorem settle_serves {b : CharSource} {ran ran' : Ran}
    (left : scan limits s = settle limits (s.begin limits) ran)
    (right : scan limits (s.withSource b) = settle limits ((s.begin limits).withSource b) ran')
    (runs : κ.RunsAlike s.machine ran ran') (sound : s.Sound) (unfailed : s.failure = none)
    (unfinished : s.buffer.finished = false) : κ.Serves (scan limits) s (s.withSource b) := by
  have core_eq : (s.begin limits).core = s.core := core_begin limits s
  have buffer_eq : (s.begin limits).buffer = s.buffer := congrArg Core.buffer core_eq
  have failure_eq : (s.begin limits).failure = s.failure := congrArg Core.failure core_eq
  have stillOpen : (s.begin limits).buffer.finished = false := by rw [buffer_eq, unfinished]
  have quiet : ¬(s.begin limits).NotesUnclosed := by
    rw [notesUnclosed_begin, sound.noted_iff, unfinished]
    exact fun noted => nomatch noted.1
  cases runs with
  | @token token m' r q peak together agrees brings =>
    obtain ⟨c, rfl⟩ : ∃ c, q = { r with source := c } := ⟨_, together.same⟩
    let metrics := (s.begin limits).metrics.recordPeak (s.begin limits).preferences peak
    let s' : Session := { s.begin limits with machine := m', intake := r, metrics }
    have ready : s'.Ready token := by
      refine ⟨⟨failure_eq.trans unfailed, stillOpen⟩, agrees, brings.finished_iff, ?_, quiet⟩
      change _ = token.kind.regroup (openGroups (s.begin limits).buffer.tokens.toList)
      rw [buffer_eq, ← sound.groups_eq unfailed]
      exact brings.groups_eq
    exact InStep.of_eq left right (commit_serves ready together.joined)
  | @failed e m' r q peak surfaces alike =>
    obtain ⟨c, rfl⟩ : ∃ c, q = { r with source := c } := ⟨_, alike.same⟩
    let metrics := (s.begin limits).metrics.recordPeak (s.begin limits).preferences peak
    let s' : Session := { s.begin limits with machine := m', intake := r, metrics }
    have kept : κ.kept s'.intake c := alike.kept
    exact .failed left right ⟨surfaces, .of_fail kept (.failed stillOpen quiet surfaces)⟩

/-- Reading on in an open session. -/
theorem scan_serves (sessions : κ.Sessions s t) (unfailed : s.failure = none)
    (unfinished : s.buffer.finished = false) : κ.Serves (scan limits) s t := by
  obtain ⟨b, rfl⟩ : ∃ b, t = s.withSource b := ⟨_, sessions.same⟩
  obtain ⟨-, joined, kept, sound⟩ := sessions
  have core_eq : (s.begin limits).core = s.core := core_begin limits s
  have intake_eq : (s.begin limits).intake = s.intake := congrArg Core.intake core_eq
  have machine_eq : (s.begin limits).machine = s.machine := congrArg Core.machine core_eq
  have reads (b : CharSource) : scan limits (s.withSource b) =
      settle limits ((s.begin limits).withSource b) (s.machine.run limits
        { s.intake with source := b } (s.begin limits).metrics.maxDepth) := by
    rw [scan_eq, begin_withSource]
    change settle limits ((s.begin limits).withSource b) ((s.begin limits).machine.run limits
      { (s.begin limits).intake with source := b } (s.begin limits).metrics.maxDepth) = _
    rw [machine_eq, intake_eq]
  have left := reads s.intake.source
  have right := reads b
  have goesOn : s.machine.phase ≠ .finished := by
    rw [Ne, sound.finished_iff unfailed, unfinished]
    exact nofun
  have runs := run_runsTo limits (s.begin limits).metrics.maxDepth
    (⟨rfl, joined unfailed⟩ : κ.Together s.intake { s.intake with source := b })
    (sound.agrees unfailed) goesOn
  generalize s.machine.run limits { s.intake with source := b } (s.begin limits).metrics.maxDepth =
    ran at runs right
  cases runs with
  | alike alike => exact settle_serves left right alike sound unfailed unfinished
  | parted parts alone =>
    exact .parted right parts (settle_serves left left alone sound unfailed unfinished).alone

/-! ### Requests -/

theorem next_serves (limits : ScanLimits) (sessions : κ.Sessions s t) : κ.Serves (next limits) s t := by
  obtain ⟨b, rfl⟩ : ∃ b, t = s.withSource b := ⟨_, sessions.same⟩
  have sound := sessions.sound
  rcases advanced : s.buffer.advance with ⟨found, buffer⟩
  have advanced' : (s.withSource b).buffer.advance = (found, buffer) := advanced
  cases found with
  | some token =>
    obtain ⟨-, moved⟩ := TokenBuffer.advance_of_some advanced
    refine .done (next_of_token advanced) (next_of_token advanced')
      ⟨rfl, sessions.joined, sessions.kept, ?_⟩
    rw [moved]
    exact sound.of_cursor _ _ _
  | none =>
    cases closed : s.buffer.finished with
    | true => exact .done (next_of_finished advanced closed) (next_of_finished advanced' closed) sessions
    | false =>
      cases stuck : s.failure with
      | some e =>
        exact .failed (next_of_failed advanced closed stuck) (next_of_failed advanced' closed stuck)
          ⟨sound.surfaces e stuck, sessions⟩
      | none =>
        exact .of_eq (next_of_open advanced closed stuck) (next_of_open advanced' closed stuck)
          (scan_serves sessions stuck closed)

theorem Sessions.of_cursor (sessions : κ.Sessions s t) (cursor : Nat) (metrics : Metrics)
    (iterated : Bool) :
    κ.Sessions
      { s with buffer := { s.buffer with cursor := cursor }, metrics := metrics, iterated := iterated }
      { t with buffer := { t.buffer with cursor := cursor }, metrics := metrics,
               iterated := iterated } := by
  refine ⟨?_, sessions.joined, sessions.kept, sessions.sound.of_cursor _ _ _⟩
  rw [sessions.same]
  rfl

/-- Going back to a mark, as a look ahead does. -/
private def wentBack (m : Mark) (replayed : Nat) (s : Session) : Session :=
  { s with buffer := s.buffer.reset m, metrics := { s.metrics with replayed } }

private theorem Sessions.wentBack (sessions : κ.Sessions s t) (m : Mark) (replayed : Nat) :
    κ.Sessions (Coupling.wentBack m replayed s) (Coupling.wentBack m replayed t) := by
  have moved := sessions.of_cursor (min m.index s.buffer.size) { s.metrics with replayed } s.iterated
  obtain ⟨b, rfl⟩ : ∃ b, t = s.withSource b := ⟨_, sessions.same⟩
  exact moved

private theorem peek_of_ok {found : Option Token} {s' : Session}
    (result : next limits s = .ok found s') :
    peek limits s = .ok found (wentBack s.mark s.metrics.replayed s') := by
  simp only [peek, result]
  rfl

private theorem peek_of_error {e : ScanError} {s' : Session} (result : next limits s = .error e s') :
    peek limits s = .error e (wentBack s.mark s.metrics.replayed s') := by
  simp only [peek, result]
  rfl

theorem peek_serves (sessions : κ.Sessions s t) : κ.Serves (peek limits) s t := by
  have mark_eq : t.mark = s.mark := by rw [sessions.same]; rfl
  have replayed_eq : t.metrics.replayed = s.metrics.replayed := by rw [sessions.same]; rfl
  cases next_serves limits sessions with
  | done left right sessions' =>
    have right' := peek_of_ok right
    rw [mark_eq, replayed_eq] at right'
    exact .done (peek_of_ok left) right' (sessions'.wentBack _ _)
  | failed left right holds =>
    have right' := peek_of_error right
    rw [mark_eq, replayed_eq] at right'
    exact .failed (peek_of_error left) right' ⟨holds.1, holds.2.wentBack _ _⟩
  | parted right parts alone =>
    refine .parted (peek_of_error right) parts ?_
    cases alone with
    | ok left sessions' => exact .ok (peek_of_ok left) (sessions'.wentBack _ _)
    | error left holds => exact .error (peek_of_error left) ⟨holds.1, holds.2.wentBack _ _⟩

/-- Two sessions answer a request alike, or the second one alone fails. -/
inductive Performs (κ : Coupling) (limits : ScanLimits) (s t : Session) (request : Request) : Prop where
  | alike (same : answer limits t request = answer limits s request)
      (sessions : κ.Sessions (s.perform limits request) (t.perform limits request))
  | parted {e : ScanError} (fails : (answer limits t request).failure? = some e) (parts : κ.Parts e)
      (alone : κ.Sessions (s.perform limits request) (s.perform limits request))

private theorem iterate_of_ok {found : Option Token} {s' : Session} (fresh : s.iterated = false)
    (result : next limits s = .ok found s') :
    iterate limits s = (found.map .ok, { s' with iterated := found.isNone || s'.iterated }) := by
  cases found <;> simp [iterate, fresh, result]

private theorem iterate_of_error {e : ScanError} {s' : Session} (fresh : s.iterated = false)
    (result : next limits s = .error e s') :
    iterate limits s = (some (.error e), { s' with iterated := true }) := by
  simp [iterate, fresh, result]

private theorem performs_of_serves {request : Request} {action : Session.Action (Option Token)}
    (answers : ∀ s, answer limits s request = .token (answerOf (action s)))
    (leaves : ∀ s, s.perform limits request = finalState (action s))
    (serves : κ.Serves action s t) : κ.Performs limits s t request := by
  cases serves with
  | done left right sessions =>
    refine .alike ?_ ?_
    · rw [answers, answers, left, right]
      rfl
    · rw [leaves, leaves, left, right]
      exact sessions
  | failed left right holds =>
    refine .alike ?_ ?_
    · rw [answers, answers, left, right]
      rfl
    · rw [leaves, leaves, left, right]
      exact holds.2
  | parted right parts alone =>
    refine .parted ?_ parts ?_
    · rw [answers, right]
      rfl
    · rw [leaves]
      cases alone with
      | ok left sessions =>
        rw [left]
        exact sessions
      | error left holds =>
        rw [left]
        exact holds.2

private theorem performs_of_iterate {found : Option (Except ScanError Token)} {s' t' : Session}
    (left : iterate limits s = (found, s')) (right : iterate limits t = (found, t'))
    (sessions : κ.Sessions s' t') : κ.Performs limits s t .iterate := by
  refine .alike ?_ ?_
  · simp only [answer, left, right]
  · simp only [perform, left, right]
    exact sessions

private theorem iterate_performs (sessions : κ.Sessions s t) : κ.Performs limits s t .iterate := by
  have iterated_eq : t.iterated = s.iterated := by rw [sessions.same]; rfl
  have ended_sessions : ∀ {s' t' : Session} (ended : Bool), κ.Sessions s' t' →
      κ.Sessions { s' with iterated := ended } { t' with iterated := ended } := by
    intro s' t' ended sessions'
    have kept := sessions'.of_cursor s'.buffer.cursor s'.metrics ended
    obtain ⟨b, rfl⟩ : ∃ b, t' = s'.withSource b := ⟨_, sessions'.same⟩
    exact kept
  cases ended : s.iterated with
  | true =>
    exact performs_of_iterate (iterate_of_ended ended) (iterate_of_ended (iterated_eq.trans ended))
      sessions
  | false =>
    have ended' := iterated_eq.trans ended
    cases next_serves limits sessions with
    | @done found s' t' left right sessions' =>
      have iterated_eq' : t'.iterated = s'.iterated := by rw [sessions'.same]; rfl
      have right' := iterate_of_ok ended' right
      rw [iterated_eq'] at right'
      exact performs_of_iterate (iterate_of_ok ended left) right' (ended_sessions _ sessions')
    | failed left right holds =>
      exact performs_of_iterate (iterate_of_error ended left) (iterate_of_error ended' right)
        (ended_sessions _ holds.2)
    | parted right parts alone =>
      refine .parted ?_ parts ?_
      · simp only [answer, iterate_of_error ended' right]
        rfl
      · cases alone with
        | ok left sessions' =>
          simp only [perform, iterate_of_ok ended left]
          exact ended_sessions _ sessions'
        | error left holds =>
          simp only [perform, iterate_of_error ended left]
          exact ended_sessions _ holds.2

theorem perform_performs (limits : ScanLimits) (sessions : κ.Sessions s t) (request : Request) :
    κ.Performs limits s t request := by
  cases request with
  | next => exact performs_of_serves (fun _ => rfl) (fun _ => rfl) (next_serves limits sessions)
  | peek => exact performs_of_serves (fun _ => rfl) (fun _ => rfl) (peek_serves sessions)
  | mark =>
    refine .alike ?_ sessions
    rw [sessions.same]
    rfl
  | reset m =>
    refine .alike rfl ?_
    have moved := sessions.of_cursor (min m.index s.buffer.size) s.metrics s.iterated
    obtain ⟨b, rfl⟩ : ∃ b, t = s.withSource b := ⟨_, sessions.same⟩
    exact moved
  | iterate => exact iterate_performs sessions

/-- Two sessions are served alike, or they are up to the request at which the second one alone
fails. -/
theorem serve_serves (limits : ScanLimits) (sessions : κ.Sessions s t) (requests : List Request) :
    (answers limits t requests = answers limits s requests ∧
      κ.Sessions (s.serve limits requests) (t.serve limits requests)) ∨
    ∃ before request after e, requests = before ++ request :: after ∧
      answers limits t before = answers limits s before ∧
      κ.Sessions (s.serve limits before) (t.serve limits before) ∧
      (answer limits (t.serve limits before) request).failure? = some e ∧ κ.Parts e ∧
      κ.Sessions (s.serve limits (before ++ [request])) (s.serve limits (before ++ [request])) := by
  -- On the requests; that the sessions are coupled is the invariant.
  induction requests generalizing s t with
  | nil => exact .inl ⟨rfl, sessions⟩
  | cons request requests ih =>
    cases perform_performs limits sessions request with
    | parted fails parts alone =>
      exact .inr ⟨[], request, requests, _, rfl, rfl, sessions, fails, parts, alone⟩
    | alike same sessions' =>
      rcases ih sessions' with ⟨others, final⟩ | ⟨before, last, after, e, rfl, others, stood, failing⟩
      · exact .inl ⟨List.cons_eq_cons.mpr ⟨same, others⟩, final⟩
      · exact .inr ⟨request :: before, last, after, e, rfl, List.cons_eq_cons.mpr ⟨same, others⟩,
          stood, failing⟩

/-- Where the second session cannot fail alone, both are served alike. -/
theorem serve_alike (limits : ScanLimits) (sessions : κ.Sessions s t)
    (together : ∀ p e, ¬κ.parted p e) (requests : List Request) :
    answers limits t requests = answers limits s requests ∧
      κ.Sessions (s.serve limits requests) (t.serve limits requests) := by
  rcases serve_serves limits sessions requests with
    served | ⟨_, _, _, _, _, _, _, _, ⟨p, e, parts, _⟩, _⟩
  · exact served
  · exact absurd parts (together p e)

/-- Two fresh sessions on coupled sources. -/
theorem sessions_start (preferences : LexicalPreferences) {a b : CharSource}
    (joined : κ.joined (.ofSource a) b) : κ.Sessions (start preferences a) (start preferences b) :=
  ⟨rfl, fun _ => joined, κ.keeps joined, sound_start preferences a⟩

end Coupling

theorem SourceCoupling.sessions_start {κ : SourceCoupling} (preferences : LexicalPreferences)
    {a b : CharSource} (joined : κ.joined .start a b) :
    κ.onIntakes.Sessions (.start preferences a) (.start preferences b) :=
  Coupling.sessions_start preferences joined

/-- What stays true of a source is true of it whatever its session is asked for, and so is the
invariant of the session. -/
theorem Session.stable_serve {Holds : CharSource → Prop} (stable : CharSource.Stable Holds)
    (limits : ScanLimits) (preferences : LexicalPreferences) {source : CharSource}
    (holds : Holds source) (requests : List Session.Request) :
    Holds ((Session.start preferences source).serve limits requests).intake.source ∧
      ((Session.start preferences source).serve limits requests).Sound := by
  have sessions : (SourceCoupling.holding stable).onIntakes.Sessions (.start preferences source)
      (.start preferences source) := SourceCoupling.sessions_start preferences ⟨rfl, holds⟩
  obtain ⟨-, final⟩ := Coupling.serve_alike limits sessions (fun _ _ => id) requests
  exact ⟨final.kept.2, final.sound⟩

/-- Whatever a fresh session is asked for, its invariant holds. -/
theorem Session.sound_serve (limits : ScanLimits) (preferences : LexicalPreferences)
    (source : CharSource) (requests : List Session.Request) :
    ((Session.start preferences source).serve limits requests).Sound :=
  (stable_serve .true limits preferences trivial requests).2

end GrammarLex
