import GrammarLex.Proofs.Scan.Trace
import GrammarLex.Session.Drain

/-!
# Sessions play a fixed tape

What a session answers is decided by its source before the first request: there is one list of
tokens, and an error or the end behind it. A session has the front of the list in its buffer, and
`Core.Tracks` says that its machine will bring the rest. Reading on is the only request that looks
at the machine.
-/
namespace GrammarLex

variable {limits : ScanLimits} {m m' : Machine} {r r' : Intake} {token : Token} {e : ScanError}

/-! ### What a machine brings to a buffer -/

/-- What a machine brings to a buffer that holds a number of tokens. -/
inductive Machine.Fills (limits : ScanLimits) :
    Machine → Intake → Nat → List Token → Option ScanError → Prop where
  | failed {m m' : Machine} {r r' : Intake} {held : Nat} {e : ScanError}
      (pulled : pull limits m r = ⟨.error e, m', r'⟩) : Fills limits m r held [] (some e)
  | full {m m' : Machine} {r r' : Intake} {held : Nat} {token : Token}
      (pulled : pull limits m r = ⟨.ok (some token), m', r'⟩) (crowded : limits.maxTokens ≤ held) :
      Fills limits m r held [] (some (.tooManyTokens (held + 1) r'.position))
  | ended {m m' : Machine} {r r' : Intake} {held : Nat} {token : Token}
      (pulled : pull limits m r = ⟨.ok (some token), m', r'⟩) (room : held < limits.maxTokens)
      (last : token.isEndOfStream = true) : Fills limits m r held [token] none
  | more {m m' : Machine} {r r' : Intake} {held : Nat} {token : Token} {tokens : List Token}
      {failure : Option ScanError} (pulled : pull limits m r = ⟨.ok (some token), m', r'⟩)
      (room : held < limits.maxTokens) (others : token.isEndOfStream = false)
      (behind : Fills limits m' r' (held + 1) tokens failure) :
      Fills limits m r held (token :: tokens) failure

/-- A trace fills the buffer as far as there is room. -/
theorem Machine.Trace.fills {tokens : List Token} {failure : Option ScanError}
    (trace : Trace limits m r tokens failure) (held : Nat) (fits : held ≤ limits.maxTokens) :
    (held + tokens.length ≤ limits.maxTokens ∧ Fills limits m r held tokens failure) ∨
      limits.maxTokens < held + tokens.length ∧ ∃ count p,
        Fills limits m r held (tokens.take (limits.maxTokens - held))
          (some (.tooManyTokens count p)) := by
  -- The buffer is full when `held` has reached the limit, and the next token is refused.
  induction trace generalizing held with
  | failed pulled => exact .inl ⟨fits, .failed pulled⟩
  | ended pulled last =>
    rcases Nat.lt_or_ge held limits.maxTokens with room | crowded
    · exact .inl ⟨room, .ended pulled room last⟩
    · rw [Nat.sub_eq_zero_of_le crowded, List.take_zero]
      exact .inr ⟨Nat.lt_succ_of_le crowded, _, _, .full pulled crowded⟩
  | more pulled others behind ih =>
    rcases Nat.lt_or_ge held limits.maxTokens with room | crowded
    · rw [List.length_cons]
      rcases ih (held + 1) room with ⟨fits, fills⟩ | ⟨tooMany, count, p, fills⟩
      · exact .inl ⟨by omega, .more pulled room others fills⟩
      · have left : limits.maxTokens - held = limits.maxTokens - (held + 1) + 1 := by omega
        rw [left, List.take_succ_cons]
        exact .inr ⟨by omega, count, p, .more pulled room others fills⟩
    · rw [Nat.sub_eq_zero_of_le crowded, List.take_zero, List.length_cons]
      exact .inr ⟨by omega, _, _, .full pulled crowded⟩

/-! ### Tapes -/

/-- The tokens of a text, and the error behind them if there is one. -/
structure Tape where
  tokens : List Token
  failure : Option ScanError

namespace Tape

/-- What is found under a cursor: a token, or the end or the error behind the last token. -/
def answer (tape : Tape) (cursor : Nat) : Except ScanError (Option Token) :=
  match tape.tokens[cursor]?, tape.failure with
  | some token, _ => .ok (some token)
  | none, none => .ok none
  | none, some e => .error e

/-- Where the cursor goes from there: it stays behind the last token. -/
def behind (tape : Tape) (cursor : Nat) : Nat :=
  if cursor < tape.tokens.length then cursor + 1 else cursor

variable {tape : Tape} {cursor : Nat}

theorem answer_of_token (found : tape.tokens[cursor]? = some token) :
    tape.answer cursor = .ok (some token) := by
  rw [answer, found]

theorem answer_of_end (reached : tape.tokens.length ≤ cursor) (whole : tape.failure = none) :
    tape.answer cursor = .ok none := by
  rw [answer, List.getElem?_eq_none reached, whole]

theorem answer_of_failure (reached : tape.tokens.length ≤ cursor) (stuck : tape.failure = some e) :
    tape.answer cursor = .error e := by
  rw [answer, List.getElem?_eq_none reached, stuck]

theorem behind_of_token (inside : cursor < tape.tokens.length) : tape.behind cursor = cursor + 1 :=
  if_pos inside

theorem behind_of_end (reached : tape.tokens.length ≤ cursor) : tape.behind cursor = cursor :=
  if_neg (Nat.not_lt_of_le reached)

end Tape

/-- What a session's answers depend on. -/
structure Core where
  intake : Intake
  machine : Machine
  buffer : TokenBuffer
  failure : Option ScanError
  iterated : Bool

namespace Core

/-- Nothing but reading on can tell what comes next. -/
def IsOpen (k : Core) : Prop := k.buffer.finished = false ∧ k.failure = none

/-- Everything a request for the next token can do: its answer and what it leaves. -/
inductive Next (limits : ScanLimits) (k : Core) : Except ScanError (Option Token) → Core → Prop where
  | buffered {token : Token} (found : k.buffer.tokens[k.buffer.cursor]? = some token) :
      Next limits k (.ok (some token))
        { k with buffer := { k.buffer with cursor := k.buffer.cursor + 1 } }
  | finished (empty : k.buffer.tokens[k.buffer.cursor]? = none)
      (closed : k.buffer.finished = true) : Next limits k (.ok none) k
  | failed {e : ScanError} (empty : k.buffer.tokens[k.buffer.cursor]? = none)
      (unfinished : k.buffer.finished = false) (stuck : k.failure = some e) :
      Next limits k (.error e) k
  | broken {e : ScanError} {m' : Machine} {r' : Intake}
      (empty : k.buffer.tokens[k.buffer.cursor]? = none) (isOpen : k.IsOpen)
      (pulled : k.machine.pull limits k.intake = ⟨.error e, m', r'⟩) :
      Next limits k (.error e) { k with machine := m', intake := r', failure := some e }
  | silent {m' : Machine} {r' : Intake}
      (empty : k.buffer.tokens[k.buffer.cursor]? = none) (isOpen : k.IsOpen)
      (pulled : k.machine.pull limits k.intake = ⟨.ok none, m', r'⟩) :
      Next limits k (.ok none) { k with machine := m', intake := r' }
  | crowded {token : Token} {m' : Machine} {r' : Intake}
      (empty : k.buffer.tokens[k.buffer.cursor]? = none) (isOpen : k.IsOpen)
      (pulled : k.machine.pull limits k.intake = ⟨.ok (some token), m', r'⟩)
      (crowded : limits.maxTokens ≤ k.buffer.size) :
      Next limits k (.error (.tooManyTokens (k.buffer.size + 1) r'.position))
        { k with
          machine := m', intake := r'
          failure := some (.tooManyTokens (k.buffer.size + 1) r'.position) }
  | read {token : Token} {m' : Machine} {r' : Intake}
      (empty : k.buffer.tokens[k.buffer.cursor]? = none) (isOpen : k.IsOpen)
      (pulled : k.machine.pull limits k.intake = ⟨.ok (some token), m', r'⟩)
      (room : k.buffer.size < limits.maxTokens) :
      Next limits k (.ok (some token))
        { k with machine := m', intake := r', buffer := (k.buffer.append token).advance.2 }

/-- What is to come behind the buffered tokens. -/
inductive Expects (limits : ScanLimits) (k : Core) : List Token → Option ScanError → Prop where
  | finished (closed : k.buffer.finished = true) : Expects limits k [] none
  | failed {e : ScanError} (unfinished : k.buffer.finished = false) (stuck : k.failure = some e) :
      Expects limits k [] (some e)
  | scanning {ahead : List Token} {failure : Option ScanError} (isOpen : k.IsOpen)
      (fills : k.machine.Fills limits k.intake k.buffer.size ahead failure) :
      Expects limits k ahead failure

/-- The session plays the tape. -/
structure Tracks (limits : ScanLimits) (tape : Tape) (k : Core) : Prop where
  cursor_le : k.buffer.cursor ≤ k.buffer.size
  expects : ∃ ahead, tape.tokens = k.buffer.tokens.toList ++ ahead ∧
    k.Expects limits ahead tape.failure

variable {k k' : Core} {answer : Except ScanError (Option Token)} {tape : Tape}

private theorem cursor_eq_size (within : k.buffer.cursor ≤ k.buffer.size)
    (empty : k.buffer.tokens[k.buffer.cursor]? = none) : k.buffer.cursor = k.buffer.size :=
  Nat.le_antisymm within (Array.getElem?_eq_none_iff.mp empty)

private theorem append_advance {b : TokenBuffer} (caughtUp : b.cursor = b.size) (token : Token) :
    (b.append token).advance.2 =
      ⟨b.tokens.push token, b.cursor + 1, b.finished || token.isEndOfStream⟩ := by
  have found : (b.append token).tokens[b.cursor]? = some token := by
    rw [caughtUp]
    exact Array.getElem?_push_size
  have current : (b.append token).current? = some token := found
  rw [TokenBuffer.advance, current]
  rfl

namespace Next

/-- Only a cursor that has caught up in an open session lets the text be read on. -/
theorem unread (next : k.Next limits answer k') (within : k.buffer.cursor ≤ k.buffer.size)
    (still : ¬(k.buffer.cursor = k.buffer.size ∧ k.IsOpen)) :
    k'.intake = k.intake ∧ k'.machine = k.machine := by
  cases next with
  | buffered => exact ⟨rfl, rfl⟩
  | finished => exact ⟨rfl, rfl⟩
  | failed => exact ⟨rfl, rfl⟩
  | broken empty isOpen => exact absurd ⟨cursor_eq_size within empty, isOpen⟩ still
  | silent empty isOpen => exact absurd ⟨cursor_eq_size within empty, isOpen⟩ still
  | crowded empty isOpen => exact absurd ⟨cursor_eq_size within empty, isOpen⟩ still
  | read empty isOpen => exact absurd ⟨cursor_eq_size within empty, isOpen⟩ still

theorem tokens_kept (next : k.Next limits answer k') :
    k.buffer.tokens.toList <+: k'.buffer.tokens.toList := by
  cases next with
  | read =>
    rw [TokenBuffer.tokens_taken]
    exact List.prefix_append _ _
  | buffered => exact List.prefix_rfl
  | finished => exact List.prefix_rfl
  | failed => exact List.prefix_rfl
  | broken => exact List.prefix_rfl
  | silent => exact List.prefix_rfl
  | crowded => exact List.prefix_rfl

theorem iterated_eq (next : k.Next limits answer k') : k'.iterated = k.iterated := by
  cases next <;> rfl

end Next

/-- What is to come depends neither on the cursor nor on iterations. -/
theorem Expects.of_cursor {ahead : List Token} {failure : Option ScanError} {cursor : Nat}
    {iterated : Bool} (expects : k.Expects limits ahead failure) :
    ({ k with buffer := { k.buffer with cursor := cursor }, iterated := iterated } : Core).Expects
      limits ahead failure := by
  cases expects with
  | finished closed => exact .finished closed
  | failed unfinished stuck => exact .failed unfinished stuck
  | scanning isOpen fills => exact .scanning isOpen fills

private theorem length_le_cursor {tokens : List Token} (caughtUp : k.buffer.cursor = k.buffer.size)
    (whole : tokens = k.buffer.tokens.toList ++ []) : tokens.length ≤ k.buffer.cursor := by
  rw [whole, List.append_nil, caughtUp, Array.length_toList]
  exact Nat.le_refl _

private theorem Expects.fills {ahead : List Token} {failure : Option ScanError}
    (expects : k.Expects limits ahead failure) (isOpen : k.IsOpen) :
    k.machine.Fills limits k.intake k.buffer.size ahead failure := by
  cases expects with
  | finished closed => exact absurd closed (Bool.eq_false_iff.mp isOpen.1)
  | failed _ stuck => cases stuck.symm.trans isOpen.2
  | scanning _ fills => exact fills

/-- A cursor that has caught up with an error is answered with it. -/
private theorem stuck_tracks {tokens : List Token} (caughtUp : k.buffer.cursor = k.buffer.size)
    (whole : tokens = k.buffer.tokens.toList ++ []) (unfinished : k.buffer.finished = false)
    (same : k'.buffer = k.buffer) (stuck : k'.failure = some e) :
    .error e = (Tape.mk tokens (some e)).answer k.buffer.cursor ∧
      k'.buffer.cursor = (Tape.mk tokens (some e)).behind k.buffer.cursor ∧
      k'.Tracks limits ⟨tokens, some e⟩ := by
  have reached := length_le_cursor caughtUp whole
  rw [← same] at caughtUp whole unfinished
  refine ⟨(Tape.answer_of_failure reached rfl).symm, ?_, Nat.le_of_eq caughtUp, [], whole,
    .failed unfinished stuck⟩
  rw [same]
  exact (Tape.behind_of_end reached).symm

/-- A token that has just been read is the next one of the tape. -/
private theorem read_tracks {ahead : List Token} {failure : Option ScanError} {finished : Bool}
    (caughtUp : k.buffer.cursor = k.buffer.size)
    (pushed : k'.buffer = ⟨k.buffer.tokens.push token, k.buffer.cursor + 1, finished⟩)
    (expects : k'.Expects limits ahead failure) :
    .ok (some token) =
        (Tape.mk (k.buffer.tokens.toList ++ token :: ahead) failure).answer k.buffer.cursor ∧
      k'.buffer.cursor =
        (Tape.mk (k.buffer.tokens.toList ++ token :: ahead) failure).behind k.buffer.cursor ∧
      k'.Tracks limits ⟨k.buffer.tokens.toList ++ token :: ahead, failure⟩ := by
  have held : (k.buffer.tokens.toList ++ token :: ahead)[k.buffer.cursor]? = some token := by
    rw [caughtUp, TokenBuffer.size, ← Array.length_toList, List.getElem?_append_right (Nat.le_refl _)]
    simp
  obtain ⟨before, _⟩ := List.getElem?_eq_some_iff.mp held
  refine ⟨(Tape.answer_of_token held).symm, ?_, ?_, ahead, ?_, expects⟩
  · rw [pushed]
    exact (Tape.behind_of_token before).symm
  · rw [pushed, TokenBuffer.size, Array.size_push, caughtUp]
    exact Nat.le_refl _
  · rw [pushed, Array.toList_push, List.append_assoc]
    rfl

/-- A request for the next token is answered by the tape, and leaves the session on it. -/
theorem Next.tracks (next : k.Next limits answer k') (tracks : k.Tracks limits tape) :
    answer = tape.answer k.buffer.cursor ∧ k'.buffer.cursor = tape.behind k.buffer.cursor ∧
      k'.Tracks limits tape := by
  obtain ⟨tokens, failure⟩ := tape
  obtain ⟨within, ahead, whole, expects⟩ := tracks
  change tokens = _ at whole
  change k.Expects limits ahead failure at expects
  -- What was to come before the request must agree with what the request has met.
  cases next with
  | @buffered token found =>
    obtain ⟨inside, _⟩ := Array.getElem?_eq_some_iff.mp found
    have held : tokens[k.buffer.cursor]? = some token := by
      rw [whole, List.getElem?_append_left (by simpa using inside), Array.getElem?_toList, found]
    obtain ⟨before, _⟩ := List.getElem?_eq_some_iff.mp held
    exact ⟨(Tape.answer_of_token held).symm, (Tape.behind_of_token before).symm, inside, ahead,
      whole, expects.of_cursor⟩
  | finished empty closed =>
    cases expects with
    | finished =>
      have reached := length_le_cursor (cursor_eq_size within empty) whole
      exact ⟨(Tape.answer_of_end reached rfl).symm, (Tape.behind_of_end reached).symm, within, [],
        whole, .finished closed⟩
    | failed unfinished => exact absurd closed (Bool.eq_false_iff.mp unfinished)
    | scanning isOpen => exact absurd closed (Bool.eq_false_iff.mp isOpen.1)
  | failed empty unfinished stuck =>
    cases expects with
    | finished closed => exact absurd closed (Bool.eq_false_iff.mp unfinished)
    | failed _ stuck' =>
      cases stuck.symm.trans stuck'
      exact stuck_tracks (cursor_eq_size within empty) whole unfinished rfl stuck
    | scanning isOpen => cases stuck.symm.trans isOpen.2
  | broken empty isOpen pulled =>
    cases expects.fills isOpen with
    | failed pulled' =>
      cases pulled.symm.trans pulled'
      exact stuck_tracks (cursor_eq_size within empty) whole isOpen.1 rfl rfl
    | full pulled' => cases pulled.symm.trans pulled'
    | ended pulled' => cases pulled.symm.trans pulled'
    | more pulled' => cases pulled.symm.trans pulled'
  | silent empty isOpen pulled =>
    -- The machine of an open session always has a token or an error.
    cases expects.fills isOpen with
    | failed pulled' => cases pulled.symm.trans pulled'
    | full pulled' => cases pulled.symm.trans pulled'
    | ended pulled' => cases pulled.symm.trans pulled'
    | more pulled' => cases pulled.symm.trans pulled'
  | crowded empty isOpen pulled crowded =>
    cases expects.fills isOpen with
    | failed pulled' => cases pulled.symm.trans pulled'
    | full pulled' =>
      cases pulled.symm.trans pulled'
      exact stuck_tracks (cursor_eq_size within empty) whole isOpen.1 rfl rfl
    | ended _ room => exact absurd crowded (Nat.not_le_of_lt room)
    | more _ room => exact absurd crowded (Nat.not_le_of_lt room)
  | @read token m' r' empty isOpen pulled room =>
    have caughtUp := cursor_eq_size within empty
    rw [append_advance caughtUp]
    -- The token is either the end marker, or the first of those to come.
    cases expects.fills isOpen with
    | failed pulled' => cases pulled.symm.trans pulled'
    | full _ crowded => exact absurd crowded (Nat.not_le_of_lt room)
    | ended pulled' _ last =>
      cases pulled.symm.trans pulled'
      rw [whole]
      refine read_tracks caughtUp rfl (.finished ?_)
      change (k.buffer.finished || token.isEndOfStream) = true
      rw [last, Bool.or_true]
    | more pulled' _ others behind =>
      cases pulled.symm.trans pulled'
      rw [whole]
      refine read_tracks caughtUp rfl (.scanning ⟨?_, isOpen.2⟩ ?_)
      · change (k.buffer.finished || token.isEndOfStream) = false
        rw [isOpen.1, others]
        rfl
      · change Machine.Fills limits _ _ (k.buffer.tokens.push token).size _ _
        rw [Array.size_push]
        exact behind

end Core

namespace Session

def core (s : Session) : Core := ⟨s.intake, s.machine, s.buffer, s.failure, s.iterated⟩

variable {s : Session}

@[simp] theorem core_begin (limits : ScanLimits) (s : Session) : (s.begin limits).core = s.core := by
  unfold begin
  split <;> rfl

@[simp] theorem core_finish (s : Session) : s.finish.core = s.core := by
  unfold finish
  split <;> rfl

@[simp] theorem core_acknowledge (token : Token) (s : Session) :
    (s.acknowledge token).core = s.core := by
  simp only [acknowledge]
  split
  · rw [core_finish]
    split <;> rfl
  · split <;> rfl

theorem core_fail (limits : ScanLimits) (e : ScanError) (s : Session) :
    (s.fail limits e).core = { s.core with failure := some e } := rfl

/-! ### The next token -/

/-- Reading on leaves the machine where it stops next. -/
private theorem scan_of_pull {outcome : Except ScanError (Option Token)}
    (pulled : s.machine.pull limits s.intake = ⟨outcome, m', r'⟩) :
    ∃ s', s'.core = { s.core with machine := m', intake := r' } ∧
      scan limits s = match outcome with
        | .ok (some token) => commit limits token s'
        | .ok none => .ok none s'
        | .error e => .error e (s'.fail limits e) := by
  have begun : (s.begin limits).core = s.core := core_begin limits s
  have machine_eq : (s.begin limits).machine = s.machine := congrArg Core.machine begun
  have intake_eq : (s.begin limits).intake = s.intake := congrArg Core.intake begun
  have ran : ((s.begin limits).machine.run limits (s.begin limits).intake
      (s.begin limits).metrics.maxDepth).toStepped = ⟨outcome, m', r'⟩ := by
    rw [Machine.run_toStepped, machine_eq, intake_eq, pulled]
  unfold scan
  simp only
  -- Only the peak that the run starts from differs from a pull.
  generalize (s.begin limits).machine.run limits (s.begin limits).intake
    (s.begin limits).metrics.maxDepth = result at ran
  obtain ⟨⟨outcome, machine, intake⟩, peak⟩ := result
  cases ran
  refine ⟨{ s.begin limits with
    machine := m', intake := r', metrics := (s.begin limits).metrics.recordPeak _ peak }, ?_, rfl⟩
  rw [← begun]
  rfl

private theorem commit_core (limits : ScanLimits) (token : Token) (isOpen : s.core.IsOpen) :
    (limits.maxTokens ≤ s.buffer.size ∧
      commit limits token s = .error (.tooManyTokens (s.buffer.size + 1) s.position)
        (s.fail limits (.tooManyTokens (s.buffer.size + 1) s.position))) ∨
    s.buffer.size < limits.maxTokens ∧ ∃ s', commit limits token s = .ok (some token) s' ∧
      s'.core = { s.core with buffer := (s.buffer.append token).advance.2 } := by
  have unfinished : s.buffer.finished = false := isOpen.1
  rcases Nat.lt_or_ge s.buffer.size limits.maxTokens with room | crowded
  · have accepted : s.buffer.refusal? limits.maxTokens token = none := by
      rw [TokenBuffer.refusal?_of_unfinished unfinished, if_neg (Nat.not_le_of_lt room)]
    have kept := core_acknowledge token { s with buffer := s.buffer.append token }
    refine .inr ⟨room, { acknowledge token { s with buffer := s.buffer.append token } with
      buffer := (s.buffer.append token).advance.2 }, ?_, ?_⟩
    · simp only [commit, accepted, acknowledge_buffer]
    · change { (acknowledge token { s with buffer := s.buffer.append token }).core with
        buffer := (s.buffer.append token).advance.2 } = _
      rw [kept]
      rfl
  · have refused : s.buffer.refusal? limits.maxTokens token =
        some (.tooManyTokens (s.buffer.size + 1)) := by
      rw [TokenBuffer.refusal?_of_unfinished unfinished, if_pos crowded]
    refine .inl ⟨crowded, ?_⟩
    simp only [commit, refused, refusalError]

private theorem scan_core (empty : s.buffer.tokens[s.buffer.cursor]? = none)
    (isOpen : s.core.IsOpen) :
    s.core.Next limits (answerOf (scan limits s)) (finalState (scan limits s)).core := by
  rcases pulled : s.machine.pull limits s.intake with ⟨outcome, m', r'⟩
  obtain ⟨s', core_eq, scanned⟩ := scan_of_pull pulled
  rw [scanned]
  match outcome with
  | .error e =>
    change s.core.Next limits (.error e) (s'.fail limits e).core
    rw [core_fail, core_eq]
    exact .broken empty isOpen pulled
  | .ok none =>
    change s.core.Next limits (.ok none) s'.core
    rw [core_eq]
    exact .silent empty isOpen pulled
  | .ok (some token) =>
    have buffer_eq : s'.buffer = s.buffer := congrArg Core.buffer core_eq
    have position_eq : s'.position = r'.position := congrArg (·.intake.position) core_eq
    have isOpen' : s'.core.IsOpen := by
      rw [core_eq]
      exact isOpen
    change s.core.Next limits (answerOf (commit limits token s'))
      (finalState (commit limits token s')).core
    rcases commit_core limits token isOpen' with ⟨crowded, committed⟩ | ⟨room, s'', committed, core_eq'⟩
    · rw [buffer_eq] at crowded
      rw [committed, buffer_eq, position_eq]
      change s.core.Next limits (.error _) (s'.fail limits _).core
      rw [core_fail, core_eq]
      exact .crowded empty isOpen pulled crowded
    · rw [buffer_eq] at room
      rw [committed]
      change s.core.Next limits (.ok (some token)) s''.core
      rw [core_eq', core_eq, buffer_eq]
      exact .read empty isOpen pulled room

/-- The buffer, the end marker and the first error answer without reading on. -/
theorem next_of_token {found : Token} {buffer : TokenBuffer}
    (advanced : s.buffer.advance = (some found, buffer)) :
    next limits s = .ok (some found) { s with buffer, metrics := s.metrics.recordReplay } := by
  simp only [next, advanced]

theorem next_of_finished {buffer : TokenBuffer} (advanced : s.buffer.advance = (none, buffer))
    (closed : s.buffer.finished = true) : next limits s = .ok none s := by
  simp only [next, advanced, isFinished, closed, if_true]

theorem next_of_failed {buffer : TokenBuffer} {e : ScanError}
    (advanced : s.buffer.advance = (none, buffer)) (unfinished : s.buffer.finished = false)
    (stuck : s.failure = some e) : next limits s = .error e s := by
  simp [next, advanced, isFinished, unfinished, stuck]

theorem next_of_open {buffer : TokenBuffer} (advanced : s.buffer.advance = (none, buffer))
    (unfinished : s.buffer.finished = false) (unfailed : s.failure = none) :
    next limits s = scan limits s := by
  simp [next, advanced, isFinished, unfinished, unfailed]

/-- What a request for the next token comes to. -/
inductive Asked (limits : ScanLimits) (s : Session) : Prop where
  | buffered {token : Token} (inside : s.buffer.cursor < s.buffer.size)
      (answered : next limits s = .ok (some token)
        { s with
          buffer := { s.buffer with cursor := s.buffer.cursor + 1 }
          metrics := s.metrics.recordReplay })
  | finished (closed : s.buffer.finished = true) (answered : next limits s = .ok none s)
  | failed {e : ScanError} (stuck : s.failure = some e) (answered : next limits s = .error e s)
  | reading (reached : s.buffer.size ≤ s.buffer.cursor) (isOpen : s.core.IsOpen)
      (answered : next limits s = scan limits s)

theorem asked (limits : ScanLimits) (s : Session) : Asked limits s := by
  rcases advanced : s.buffer.advance with ⟨found, buffer⟩
  cases found with
  | some token =>
    obtain ⟨inside, rfl⟩ := TokenBuffer.advance_of_some advanced
    exact .buffered inside (next_of_token advanced)
  | none =>
    cases closed : s.buffer.finished with
    | true => exact .finished closed (next_of_finished advanced closed)
    | false =>
      cases stuck : s.failure with
      | some e => exact .failed stuck (next_of_failed advanced closed stuck)
      | none =>
        have reached := TokenBuffer.advance_of_none advanced
        exact .reading reached ⟨closed, stuck⟩ (next_of_open advanced closed stuck)

theorem next_core (limits : ScanLimits) (s : Session) :
    s.core.Next limits (answerOf (next limits s)) (finalState (next limits s)).core := by
  simp only [next, TokenBuffer.advance, TokenBuffer.current?]
  cases found : s.buffer.tokens[s.buffer.cursor]? with
  | some token => exact .buffered found
  | none =>
    cases closed : s.isFinished with
    | true => exact .finished found closed
    | false =>
      cases stuck : s.failure with
      | some e => exact .failed found closed stuck
      | none => exact scan_core found ⟨closed, stuck⟩

end Session

end GrammarLex
