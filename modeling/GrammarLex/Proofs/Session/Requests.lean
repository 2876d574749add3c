import GrammarLex.Proofs.Reading.Dispatch
import GrammarLex.Proofs.Session.Tape

/-!
# Whatever is requested, the tape decides

Requests for tokens, looks ahead, marks, resets and iterations may come in any order. After any of
them the session is still on the tape of its text, which is what a fresh session hands out when it
is iterated to its end.
-/
namespace GrammarLex.Session

/-- What a session can be asked to do. -/
inductive Request where
  | next
  | peek
  | mark
  | reset (m : Mark)
  | iterate

/-- The requests that may read on. -/
def Request.reads : Request → Bool
  | .next | .peek | .iterate => true
  | .mark | .reset _ => false

def perform (limits : ScanLimits) (s : Session) : Request → Session
  | .next => finalState (next limits s)
  | .peek => finalState (peek limits s)
  | .mark => s
  | .reset m => s.reset m
  | .iterate => (iterate limits s).2

def serve (limits : ScanLimits) (s : Session) (requests : List Request) : Session :=
  requests.foldl (perform limits) s

theorem serve_concat (limits : ScanLimits) (s : Session) (requests : List Request) (request : Request) :
    s.serve limits (requests ++ [request]) = (s.serve limits requests).perform limits request := by
  rw [serve, List.foldl_append]
  rfl

/-- What an iteration makes of an answer. -/
def item : Except ScanError (Option Token) → Option (Except ScanError Token)
  | .ok (some token) => some (.ok token)
  | .ok none => none
  | .error e => some (.error e)

def isToken : Except ScanError (Option Token) → Bool
  | .ok (some _) => true
  | _ => false

/-- What a session iterated to its end has handed out. -/
def Drained.tape (drained : Drained) : Tape := ⟨drained.tokens.toList, drained.failure⟩

variable {limits : ScanLimits} {s : Session} {tape : Tape}

/-! ### Single requests -/

theorem next_tracks (tracks : s.core.Tracks limits tape) :
    answerOf (next limits s) = tape.answer s.buffer.cursor ∧
      (finalState (next limits s)).buffer.cursor = tape.behind s.buffer.cursor ∧
      (finalState (next limits s)).core.Tracks limits tape :=
  (next_core limits s).tracks tracks

theorem peek_eq (limits : ScanLimits) (s : Session) :
    answerOf (peek limits s) = answerOf (next limits s) ∧
      (finalState (peek limits s)).core = { (finalState (next limits s)).core with
        buffer := (finalState (next limits s)).buffer.reset s.mark } := by
  unfold peek
  cases next limits s <;> exact ⟨rfl, rfl⟩

theorem finalState_peek (limits : ScanLimits) (s : Session) :
    finalState (peek limits s) =
      { finalState (next limits s) with
        buffer := (finalState (next limits s)).buffer.reset s.mark
        metrics := { (finalState (next limits s)).metrics with replayed := s.metrics.replayed } } := by
  unfold peek
  cases next limits s <;> rfl

/-- An iteration that has not ended asks for the next token, and ends if there is none. -/
theorem iterate_of_fresh (limits : ScanLimits) (fresh : s.iterated = false) : iterate limits s =
    (item (answerOf (next limits s)),
      { finalState (next limits s) with iterated := !isToken (answerOf (next limits s)) }) := by
  have kept : (finalState (next limits s)).iterated = s.iterated := (next_core limits s).iterated_eq
  rw [fresh] at kept
  unfold iterate
  rw [fresh]
  match result : next limits s with
  | .ok (some token) s' =>
    rw [result] at kept
    change (some (Except.ok token), s') = (some (Except.ok token), { s' with iterated := false })
    rw [← kept]
    rfl
  | .ok none s' => rfl
  | .error e s' => rfl

theorem iterate_eq (limits : ScanLimits) (fresh : s.iterated = false) :
    (iterate limits s).1 = item (answerOf (next limits s)) ∧
      (iterate limits s).2.core = { (finalState (next limits s)).core with
        iterated := !isToken (answerOf (next limits s)) } := by
  rw [iterate_of_fresh limits fresh]
  exact ⟨rfl, rfl⟩

theorem iterate_of_ended (ended : s.iterated = true) : iterate limits s = (none, s) := by
  unfold iterate
  rw [if_pos ended]

/-- What holds of a session whatever it is asked for: every answer keeps it, and it depends on neither
the cursor nor the iteration. -/
structure Lasting (limits : ScanLimits) (Kept : Core → Prop) : Prop where
  next {k k' : Core} {answer : Except ScanError (Option Token)} (kept : Kept k)
    (next : k.Next limits answer k') : Kept k'
  of_cursor {k : Core} (kept : Kept k) (cursor : Nat) (iterated : Bool) :
    Kept { k with buffer := { k.buffer with cursor := cursor }, iterated := iterated }

theorem Lasting.perform {Kept : Core → Prop} (lasting : Lasting limits Kept) (kept : Kept s.core)
    (request : Request) : Kept (s.perform limits request).core := by
  have kept' := lasting.next kept (next_core limits s)
  cases request with
  | next => exact kept'
  | peek =>
    rw [Session.perform, (peek_eq limits s).2]
    exact lasting.of_cursor kept' _ _
  | mark => exact kept
  | reset m => exact lasting.of_cursor kept _ s.iterated
  | iterate =>
    cases ended : s.iterated with
    | true =>
      rw [Session.perform, iterate_of_ended ended]
      exact kept
    | false =>
      rw [Session.perform, (iterate_eq limits ended).2]
      exact lasting.of_cursor kept' (finalState (Session.next limits s)).buffer.cursor _

theorem Lasting.serve {Kept : Core → Prop} (lasting : Lasting limits Kept) (kept : Kept s.core)
    (requests : List Request) : Kept (s.serve limits requests).core := by
  induction requests generalizing s with
  | nil => exact kept
  | cons request requests ih => exact ih (lasting.perform kept request)

theorem reset_tracks {k : Core} (tracks : k.Tracks limits tape) (m : Mark) :
    ({ k with buffer := k.buffer.reset m } : Core).Tracks limits tape := by
  obtain ⟨_, ahead, whole, expects⟩ := tracks
  exact ⟨Nat.min_le_right _ _, ahead, whole, expects.of_cursor⟩

theorem peek_tracks (tracks : s.core.Tracks limits tape) :
    (finalState (peek limits s)).buffer.cursor = s.buffer.cursor ∧
      (finalState (peek limits s)).core.Tracks limits tape := by
  have core_eq := (peek_eq limits s).2
  obtain ⟨_, _, tracks'⟩ := next_tracks tracks
  -- The buffer has not shrunk, so the saved cursor is still within it.
  have grown : s.buffer.size ≤ (finalState (next limits s)).buffer.size := by
    have longer := (next_core limits s).tokens_kept.length_le
    rw [Array.length_toList, Array.length_toList] at longer
    exact longer
  constructor
  · have buffer_eq := congrArg (·.buffer.cursor) core_eq
    exact buffer_eq.trans (Nat.min_eq_left (Nat.le_trans tracks.cursor_le grown))
  · rw [core_eq]
    exact reset_tracks tracks' _

theorem iterate_tracks (tracks : s.core.Tracks limits tape) (fresh : s.iterated = false) :
    (iterate limits s).1 = item (tape.answer s.buffer.cursor) ∧
      (iterate limits s).2.buffer.cursor = tape.behind s.buffer.cursor ∧
      (iterate limits s).2.iterated = !isToken (tape.answer s.buffer.cursor) ∧
      (iterate limits s).2.core.Tracks limits tape := by
  obtain ⟨answer_eq, cursor_eq, tracks'⟩ := next_tracks tracks
  obtain ⟨item_eq, core_eq⟩ := iterate_eq limits fresh
  rw [answer_eq] at item_eq core_eq
  refine ⟨item_eq, ?_, congrArg Core.iterated core_eq, ?_⟩
  · rw [← cursor_eq]
    exact congrArg (·.buffer.cursor) core_eq
  · rw [core_eq]
    obtain ⟨within, ahead, whole, expects⟩ := tracks'
    exact ⟨within, ahead, whole, expects.of_cursor⟩

theorem perform_tracks (tracks : s.core.Tracks limits tape) (request : Request) :
    (s.perform limits request).core.Tracks limits tape := by
  cases request with
  | next => exact (next_tracks tracks).2.2
  | peek => exact (peek_tracks tracks).2
  | mark => exact tracks
  | reset m => exact reset_tracks tracks m
  | iterate =>
    cases ended : s.iterated with
    | true =>
      rw [perform, iterate_of_ended ended]
      exact tracks
    | false => exact (iterate_tracks tracks ended).2.2.2

theorem serve_tracks (tracks : s.core.Tracks limits tape) (requests : List Request) :
    (s.serve limits requests).core.Tracks limits tape := by
  -- On the requests; that the session tracks the tape is the invariant.
  induction requests generalizing s with
  | nil => exact tracks
  | cons request requests ih => exact ih (perform_tracks tracks request)

/-! ### Iterating to the end -/

private theorem drop_of_token {cursor : Nat} {token : Token}
    (found : item (tape.answer cursor) = some (.ok token)) :
    tape.tokens.drop cursor = token :: tape.tokens.drop (tape.behind cursor) := by
  unfold Tape.answer at found
  split at found
  next inside =>
    cases found
    obtain ⟨before, same⟩ := List.getElem?_eq_some_iff.mp inside
    rw [List.drop_eq_getElem_cons before, same, Tape.behind_of_token before]
  next => cases found
  next => cases found

private theorem drop_of_end {cursor : Nat} (found : item (tape.answer cursor) = none) :
    tape.tokens.drop cursor = [] ∧ tape.failure = none := by
  unfold Tape.answer at found
  split at found
  next => cases found
  next outside whole => exact ⟨List.drop_eq_nil_of_le (List.getElem?_eq_none_iff.mp outside), whole⟩
  next => cases found

private theorem drop_of_failure {cursor : Nat} {e : ScanError}
    (found : item (tape.answer cursor) = some (.error e)) :
    tape.tokens.drop cursor = [] ∧ tape.failure = some e := by
  unfold Tape.answer at found
  split at found
  next => cases found
  next => cases found
  next outside stuck =>
    cases found
    exact ⟨List.drop_eq_nil_of_le (List.getElem?_eq_none_iff.mp outside), stuck⟩

private theorem isToken_of_item {answer : Except ScanError (Option Token)} {token : Token}
    (found : item answer = some (.ok token)) : isToken answer = true := by
  unfold item at found
  split at found
  next => rfl
  next => cases found
  next => cases found

private theorem drainFrom_tracks (taken : Array Token) (tracks : s.core.Tracks limits tape)
    (fresh : s.iterated = false) :
    (drainFrom limits taken s).tokens.toList = taken.toList ++ tape.tokens.drop s.buffer.cursor ∧
      (drainFrom limits taken s).failure = tape.failure := by
  -- `taken` grows by the tokens that the cursor passes.
  fun_induction drainFrom limits taken s with
  | case1 taken s token s' handed ih =>
    obtain ⟨item_eq, cursor_eq, ended_eq, tracks'⟩ := iterate_tracks tracks fresh
    rw [handed] at item_eq cursor_eq ended_eq tracks'
    have fresh' : s'.iterated = false := by
      rw [ended_eq, isToken_of_item item_eq.symm]
      rfl
    obtain ⟨tokens_eq, failure_eq⟩ := ih tracks' fresh'
    rw [Array.toList_push, List.append_assoc, cursor_eq] at tokens_eq
    rw [drop_of_token item_eq.symm]
    exact ⟨tokens_eq, failure_eq⟩
  | case2 taken s e s' handed =>
    have item_eq := (iterate_tracks tracks fresh).1
    rw [handed] at item_eq
    obtain ⟨nothing, failure_eq⟩ := drop_of_failure item_eq.symm
    rw [nothing, List.append_nil]
    exact ⟨rfl, failure_eq.symm⟩
  | case3 taken s s' handed =>
    have item_eq := (iterate_tracks tracks fresh).1
    rw [handed] at item_eq
    obtain ⟨nothing, failure_eq⟩ := drop_of_end item_eq.symm
    rw [nothing, List.append_nil]
    exact ⟨rfl, failure_eq.symm⟩

/-- Iterating a fresh session to its end plays its tape once. -/
theorem drain_tape (tracks : s.core.Tracks limits tape) (fresh : s.iterated = false)
    (unread : s.buffer.cursor = 0) : (s.drain limits).tape = tape := by
  obtain ⟨tokens_eq, failure_eq⟩ := drainFrom_tracks #[] tracks fresh
  rw [unread, List.drop_zero] at tokens_eq
  rw [drain, Drained.tape, tokens_eq, failure_eq]
  rfl

/-! ### Fresh sessions -/

section

variable (limits : ScanLimits) (preferences : LexicalPreferences) (source : CharSource)

/-- A fresh session is at the start of some tape, which follows the reading of its source as far as
the buffer has room. -/
private theorem start_tracks : ∃ tokens failure tape,
    (Place.read preferences.acceptCarriageReturn ⟨source.contents.chars, .start, []⟩).Follows limits
      source.contents.fault tokens failure ∧
    (start preferences source).core.Tracks limits tape ∧
    ((tokens.length ≤ limits.maxTokens ∧ tape = ⟨tokens, failure⟩) ∨
      limits.maxTokens < tokens.length ∧ ∃ count p,
        tape = ⟨tokens.take limits.maxTokens, some (.tooManyTokens count p)⟩) := by
  obtain ⟨tokens, failure, trace, follows⟩ :=
    yields_read limits preferences.acceptCarriageReturn source
  have tracks : ∀ {tokens : List Token} {failure : Option ScanError},
      Machine.Fills limits (.initial preferences.acceptCarriageReturn) (.ofSource source) 0 tokens
        failure → (start preferences source).core.Tracks limits ⟨tokens, failure⟩ := by
    intro tokens failure fills
    exact ⟨Nat.le_refl _, tokens, rfl, .scanning ⟨rfl, rfl⟩ fills⟩
  rcases trace.fills 0 (Nat.zero_le _) with ⟨room, fills⟩ | ⟨crowded, count, p, fills⟩
  · rw [Nat.zero_add] at room
    exact ⟨tokens, failure, _, follows, tracks fills, .inl ⟨room, rfl⟩⟩
  · rw [Nat.zero_add] at crowded
    exact ⟨tokens, failure, _, follows, tracks fills, .inr ⟨crowded, count, p, rfl⟩⟩

theorem drain_follows : ∃ tokens failure,
    (Place.read preferences.acceptCarriageReturn ⟨source.contents.chars, .start, []⟩).Follows limits
      source.contents.fault tokens failure ∧
    ((tokens.length ≤ limits.maxTokens ∧
        ((start preferences source).drain limits).tape = ⟨tokens, failure⟩) ∨
      limits.maxTokens < tokens.length ∧ ∃ count p,
        ((start preferences source).drain limits).tape =
          ⟨tokens.take limits.maxTokens, some (.tooManyTokens count p)⟩) := by
  obtain ⟨tokens, failure, tape, follows, tracks, cut⟩ := start_tracks limits preferences source
  rw [drain_tape tracks rfl rfl]
  exact ⟨tokens, failure, follows, cut⟩

/-- A fresh session is at the start of the tape that it plays when it is iterated to its end. -/
theorem start_tracks_drain : (start preferences source).core.Tracks limits
    ((start preferences source).drain limits).tape := by
  obtain ⟨tokens, failure, tape, follows, tracks, cut⟩ := start_tracks limits preferences source
  rw [drain_tape tracks rfl rfl]
  exact tracks

/-- A session that is iterated to its end gets what its machine fills a buffer with. -/
theorem drain_fills : Machine.Fills limits (.initial preferences.acceptCarriageReturn)
    (.ofSource source) 0 ((start preferences source).drain limits).tape.tokens
    ((start preferences source).drain limits).tape.failure := by
  obtain ⟨-, ahead, tokens_eq, expects⟩ := start_tracks_drain limits preferences source
  rw [tokens_eq]
  generalize ((start preferences source).drain limits).tape.failure = stuck at expects ⊢
  cases expects with
  | finished closed => cases closed
  | failed unfinished stuck => cases stuck
  | scanning isOpen fills => exact fills

/-- A session that has come to the end of its text has buffered the whole reading of it. -/
theorem read_of_finished {requests : List Request}
    (ended : ((start preferences source).serve limits requests).isFinished = true) :
    source.contents.fault = none ∧
      ((start preferences source).serve limits requests).buffer.tokens.toList =
        (Place.read preferences.acceptCarriageReturn ⟨source.contents.chars, .start, []⟩).tokens ∧
      (Place.read preferences.acceptCarriageReturn ⟨source.contents.chars, .start, []⟩).failure =
        none := by
  have tracks := serve_tracks (start_tracks_drain limits preferences source) requests
  obtain ⟨tokens, failure, follows, cut⟩ := drain_follows limits preferences source
  obtain ⟨ahead, tokens_eq, expects⟩ := tracks.expects
  -- Behind the end marker nothing is expected, so the buffer holds the whole tape.
  have whole : ahead = [] ∧ ((start preferences source).drain limits).tape.failure = none := by
    generalize ((start preferences source).drain limits).tape.failure = stuck at expects
    cases expects with
    | finished => exact ⟨rfl, rfl⟩
    | failed unfinished => cases ended.symm.trans unfinished
    | scanning isOpen => cases ended.symm.trans isOpen.1
  obtain ⟨rfl, whole⟩ := whole
  rw [List.append_nil] at tokens_eq
  rcases cut with ⟨_, tape_eq⟩ | ⟨_, count, p, tape_eq⟩
  · rw [tape_eq] at whole tokens_eq
    obtain rfl : failure = none := whole
    obtain ⟨faultless, same, ends, _⟩ := follows.of_ended
    exact ⟨faultless, tokens_eq.symm.trans same, ends⟩
  · rw [tape_eq] at whole
    cases whole

end

/-! ### Backtracking -/

/-- A session answers every request as a cursor on the tape does. -/
structure Plays (limits : ScanLimits) (tape : Tape) (s : Session) : Prop where
  -- The buffer holds the front of the tape.
  buffered : s.buffer.tokens.toList <+: tape.tokens
  cursor_le : s.buffer.cursor ≤ s.buffer.size
  next_answer : answerOf (next limits s) = tape.answer s.buffer.cursor
  next_cursor : (s.perform limits .next).buffer.cursor = tape.behind s.buffer.cursor
  peek_answer : answerOf (peek limits s) = answerOf (next limits s)
  peek_cursor : (s.perform limits .peek).buffer.cursor = s.buffer.cursor
  mark_cursor : s.mark = ⟨s.buffer.cursor⟩
  -- Any mark will do; one beyond the buffered tokens leads to their end.
  reset_cursor : ∀ m, (s.perform limits (.reset m)).buffer.cursor = min m.index s.buffer.size
  -- An iteration hands out what is next until there is no token, and nothing from then on.
  iterate_item : (iterate limits s).1 =
    if s.iterated then none else item (tape.answer s.buffer.cursor)
  iterate_cursor : (s.perform limits .iterate).buffer.cursor =
    if s.iterated then s.buffer.cursor else tape.behind s.buffer.cursor
  iterate_ends : (s.perform limits .iterate).iterated =
    (s.iterated || !isToken (tape.answer s.buffer.cursor))
  -- No request shrinks or changes the buffer.
  keeps : ∀ request,
    s.buffer.tokens.toList <+: (s.perform limits request).buffer.tokens.toList
  -- Only a cursor that has caught up in an open session lets the text be read on.
  waits : ∀ request,
    ¬(request.reads ∧ s.buffer.cursor = s.buffer.size ∧ s.isFinished = false ∧ s.failure = none) →
    (s.perform limits request).intake = s.intake ∧ (s.perform limits request).machine = s.machine

/-- A request that may read on does to the machine and the buffered tokens what the next token
does; any other leaves both alone. -/
private theorem perform_core (limits : ScanLimits) (s : Session) (request : Request) :
    ∃ answer k, s.core.Next limits answer k ∧
      (((s.perform limits request).intake = k.intake ∧ (s.perform limits request).machine = k.machine ∧
          (s.perform limits request).buffer.tokens = k.buffer.tokens) ∧ request.reads = true ∨
        (s.perform limits request).intake = s.intake ∧ (s.perform limits request).machine = s.machine ∧
          (s.perform limits request).buffer.tokens = s.buffer.tokens) := by
  refine ⟨_, _, next_core limits s, ?_⟩
  -- A look ahead and an iteration do what the request for the next token does.
  cases request with
  | next => exact .inl ⟨⟨rfl, rfl, rfl⟩, rfl⟩
  | peek =>
    have core_eq := (peek_eq limits s).2
    exact .inl ⟨⟨congrArg Core.intake core_eq, congrArg Core.machine core_eq,
      congrArg (·.buffer.tokens) core_eq⟩, rfl⟩
  | mark => exact .inr ⟨rfl, rfl, rfl⟩
  | reset m => exact .inr ⟨rfl, rfl, rfl⟩
  | iterate =>
    cases ended : s.iterated with
    | true =>
      rw [perform, iterate_of_ended ended]
      exact .inr ⟨rfl, rfl, rfl⟩
    | false =>
      have core_eq := (iterate_eq limits ended).2
      exact .inl ⟨⟨congrArg Core.intake core_eq, congrArg Core.machine core_eq,
        congrArg (·.buffer.tokens) core_eq⟩, rfl⟩

private theorem plays_of_tracks (tracks : s.core.Tracks limits tape) : s.Plays limits tape where
  buffered := by
    obtain ⟨_, ahead, whole, _⟩ := tracks
    exact ⟨ahead, whole.symm⟩
  cursor_le := tracks.cursor_le
  next_answer := (next_tracks tracks).1
  next_cursor := (next_tracks tracks).2.1
  peek_answer := (peek_eq limits s).1
  peek_cursor := (peek_tracks tracks).1
  mark_cursor := rfl
  reset_cursor _ := rfl
  iterate_item := by
    cases ended : s.iterated with
    | true => rw [iterate_of_ended ended]; rfl
    | false => exact (iterate_tracks tracks ended).1
  iterate_cursor := by
    cases ended : s.iterated with
    | true => rw [perform, iterate_of_ended ended]; rfl
    | false => exact (iterate_tracks tracks ended).2.1
  iterate_ends := by
    cases ended : s.iterated with
    | true => rw [perform, iterate_of_ended ended]; exact ended
    | false => rw [Bool.false_or]; exact (iterate_tracks tracks ended).2.2.1
  keeps request := by
    obtain ⟨answer, k, next, ⟨⟨_, _, tokens_eq⟩, _⟩ | ⟨_, _, tokens_eq⟩⟩ :=
      perform_core limits s request
    · rw [tokens_eq]
      exact next.tokens_kept
    · exact tokens_eq ▸ List.prefix_rfl
  waits request still := by
    obtain ⟨answer, k, next, ⟨⟨intake_eq, machine_eq, _⟩, reads⟩ | ⟨intake_eq, machine_eq, _⟩⟩ :=
      perform_core limits s request
    · have closed : ¬(s.core.buffer.cursor = s.core.buffer.size ∧ s.core.IsOpen) :=
        fun isOpen => still ⟨reads, isOpen⟩
      obtain ⟨intake_eq', machine_eq'⟩ := next.unread tracks.cursor_le closed
      exact ⟨intake_eq.trans intake_eq', machine_eq.trans machine_eq'⟩
    · exact ⟨intake_eq, machine_eq⟩

/-- Backtracking is transparent: after any requests whatever, a session answers as a cursor on the
tokens of the straight run does. -/
theorem backtracking_transparent (limits : ScanLimits) (preferences : LexicalPreferences)
    (source : CharSource) (requests : List Request) :
    ((start preferences source).serve limits requests).Plays limits
      ((start preferences source).drain limits).tape :=
  plays_of_tracks (serve_tracks (start_tracks_drain limits preferences source) requests)

end GrammarLex.Session
