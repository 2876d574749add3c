import GrammarLex.Proofs.Journal.Publishing
import GrammarLex.Proofs.Session.Observation

/-!
# The log of a session

What a session wants to have logged follows from what it has come to: that it has begun, the tokens it
has buffered, and how it has ended. `Session.story` reads the notices off a session, and every request
notes just what the story gains by it (`perform_tells`). So the entries that reach the service of an
attended session tell its life once, in order, whatever it is asked for.
-/
namespace GrammarLex

namespace Session

variable {limits : ScanLimits} {s s' s'' : Session} {token : Token} {tape : Tape}

/-! ### The story of a session -/

/-- The notices of the end of a text. -/
def ending (s : Session) : List Notice :=
  (s.machine.nesting.top?.map (unclosedNotice s.depth)).toList ++ [completionNotice s.metrics]

def opening (limits : ScanLimits) (s : Session) : List Notice :=
  if s.started then [startNotice limits] else []

def recognition (s : Session) : List Notice :=
  if s.preferences.logTokenEvents then s.buffer.tokens.toList.map tokenNotice else []

def closing (limits : ScanLimits) (s : Session) : List Notice :=
  match s.failure with
  | some e => [failureNotice limits s.preferences s.buffer.size e]
  | none => if s.buffer.finished then s.ending else []

/-- Everything a session has noted since its start, whether collected or not. -/
def story (limits : ScanLimits) (s : Session) : List Notice :=
  s.opening limits ++ s.recognition ++ s.closing limits

/-- What is noted on the way from one session to another is what the story gains. -/
def Tells (limits : ScanLimits) (s s' : Session) : Prop :=
  ∃ gained, s'.notices = s.notices ++ gained ∧ s'.story limits = s.story limits ++ gained

theorem Tells.of_eq (notices : s'.notices = s.notices) (story : s'.story limits = s.story limits) :
    Tells limits s s' :=
  ⟨[], by rw [notices, List.append_nil], by rw [story, List.append_nil]⟩

theorem Tells.trans (first : Tells limits s s') (second : Tells limits s' s'') :
    Tells limits s s'' := by
  obtain ⟨early, notices, story⟩ := first
  obtain ⟨late, notices', story'⟩ := second
  refine ⟨early ++ late, ?_, ?_⟩
  · rw [notices', notices, List.append_assoc]
  · rw [story', story, List.append_assoc]

theorem notices_note (notice : Notice) (s : Session) :
    (s.note notice).notices = s.notices ++ [notice] :=
  List.reverse_cons

/-! ### Keeping the books -/

/-- A session that has counted every token and knows whether it has begun, and how it has ended. -/
structure Settled (s : Session) : Prop where
  counted : s.metrics.total = s.buffer.size
  closed_eq : s.buffer.finished = s.buffer.tokens.toList.any Token.isEndOfStream
  started_iff : s.started = true ↔ s.buffer.tokens.toList ≠ [] ∨ s.failure ≠ none
  whole : s.buffer.finished = true → s.failure = none

/-- A session that is reading on. -/
structure Underway (s : Session) : Prop where
  counted : s.metrics.total = s.buffer.size
  closed_eq : s.buffer.finished = s.buffer.tokens.toList.any Token.isEndOfStream
  started : s.started = true
  isOpen : s.core.IsOpen

theorem settled_start (preferences : LexicalPreferences) (source : CharSource) :
    (start preferences source).Settled where
  counted := rfl
  closed_eq := rfl
  started_iff := by simp [start]
  whole _ := rfl

theorem story_of_open (limits : ScanLimits) (isOpen : s.core.IsOpen) :
    s.story limits = s.opening limits ++ s.recognition := by
  have unfailed : s.failure = none := isOpen.2
  have unfinished : s.buffer.finished = false := isOpen.1
  simp [story, closing, unfailed, unfinished]

/-- Beginning to read comes before everything else that is noted. -/
private theorem begin_tells (limits : ScanLimits) (settled : s.Settled) (isOpen : s.core.IsOpen) :
    Tells limits s (s.begin limits) ∧ (s.begin limits).Underway := by
  cases started : s.started with
  | true =>
    have same : s.begin limits = s := by rw [begin, if_pos started]
    rw [same]
    exact ⟨.of_eq rfl rfl, settled.counted, settled.closed_eq, started, isOpen⟩
  | false =>
    let begun : Session := { s with started := true }.note (startNotice limits)
    have begun_eq : s.begin limits = begun := by
      rw [begin, started]
      rfl
    have stillOpen : begun.core.IsOpen := isOpen
    have empty : s.buffer.tokens.toList = [] := by
      have idle := settled.started_iff.not.mp (by rw [started]; exact Bool.false_ne_true)
      exact not_not.mp fun filled => idle (.inl filled)
    have unread : s.recognition = [] := by simp [recognition, empty]
    have unopened : s.opening limits = [] := by simp [opening, started]
    rw [begun_eq]
    refine ⟨⟨[startNotice limits], notices_note _ _, ?_⟩,
      settled.counted, settled.closed_eq, rfl, stillOpen⟩
    rw [story_of_open limits isOpen, story_of_open limits stillOpen, unread, unopened]
    exact congrArg (startNotice limits :: ·) unread

/-- Reading on moves the machine and the intake, of which nothing is told before the end. -/
private theorem Underway.moved (limits : ScanLimits) (underway : s.Underway) (machine : Machine)
    (intake : Intake) (peak : Nat) :
    Tells limits s { s with machine, intake, metrics := s.metrics.recordPeak s.preferences peak } ∧
      ({ s with machine, intake, metrics := s.metrics.recordPeak s.preferences peak } : Session).Underway := by
  have counted : (s.metrics.recordPeak s.preferences peak).total = s.metrics.total := by
    unfold Metrics.recordPeak
    split <;> rfl
  have stillOpen : ({ s with
      machine, intake, metrics := s.metrics.recordPeak s.preferences peak } : Session).core.IsOpen :=
    underway.isOpen
  refine ⟨.of_eq rfl ?_, counted.trans underway.counted, underway.closed_eq, underway.started, stillOpen⟩
  rw [story_of_open limits stillOpen, story_of_open limits underway.isOpen]
  rfl

private theorem Underway.failed (limits : ScanLimits) (underway : s.Underway) (e : ScanError) :
    Tells limits s (s.fail limits e) ∧ (s.fail limits e).Settled := by
  have unfinished : s.buffer.finished = false := underway.isOpen.1
  refine ⟨⟨[failureNotice limits s.preferences s.buffer.size e], notices_note _ _, ?_⟩,
    underway.counted, underway.closed_eq, ?_, ?_⟩
  · rw [story_of_open limits underway.isOpen]
    rfl
  · exact iff_of_true underway.started (.inr (Option.some_ne_none e))
  · intro finished
    cases finished.symm.trans unfinished

/-! ### Buffering a token -/

theorem total_recordToken (preferences : LexicalPreferences) (token : Token) (metrics : Metrics) :
    (metrics.recordToken preferences token).total = metrics.total + 1 := by
  unfold Metrics.recordToken Metrics.countClass
  cases token.kind.tokenClass <;> rfl

theorem finish_eq (s : Session) :
    s.finish.notices = s.notices ++ s.ending ∧ s.finish = { s with journal := s.finish.journal } := by
  unfold finish ending
  cases s.machine.nesting.top? with
  | none => exact ⟨notices_note _ _, rfl⟩
  | some frame =>
    refine ⟨?_, rfl⟩
    rw [notices_note, notices_note, List.append_assoc]
    rfl

/-- A token is counted, then noted if token events are wanted, and the end marker ends the story. -/
theorem acknowledge_eq (token : Token) (s : Session) :
    (s.acknowledge token).notices =
      s.notices ++ (if s.preferences.logTokenEvents then [tokenNotice token] else []) ++
        (if token.isEndOfStream then
          { s with metrics := s.metrics.recordToken s.preferences token }.ending else []) ∧
      s.acknowledge token =
        { s with
          metrics := s.metrics.recordToken s.preferences token
          journal := (s.acknowledge token).journal } := by
  cases wanted : s.preferences.logTokenEvents with
  | false =>
    cases last : token.isEndOfStream with
    | false => simp [acknowledge, wanted, last, notices]
    | true =>
      have finished := finish_eq { s with metrics := s.metrics.recordToken s.preferences token }
      simp only [acknowledge, wanted, last, if_true, Bool.false_eq_true, if_false, List.append_nil]
      exact finished
  | true =>
    cases last : token.isEndOfStream with
    | false =>
      simp only [acknowledge, wanted, last, if_true, Bool.false_eq_true, if_false, List.append_nil]
      exact ⟨notices_note _ _, rfl⟩
    | true =>
      obtain ⟨noted, finished⟩ := finish_eq
        ({ s with metrics := s.metrics.recordToken s.preferences token }.note (tokenNotice token))
      simp only [acknowledge, wanted, last, if_true]
      refine ⟨?_, finished⟩
      rw [noted, notices_note]
      rfl

/-- A session that has buffered a token and handed it out. -/
def taking (token : Token) (journal : List Notice) (s : Session) : Session :=
  { s with
    buffer := (s.buffer.append token).advance.2
    metrics := s.metrics.recordToken s.preferences token
    journal }

/-- What is noted of a token: itself, and the end if it is the end marker. -/
def tidings (token : Token) (s : Session) : List Notice :=
  (if s.preferences.logTokenEvents then [tokenNotice token] else []) ++
    if token.isEndOfStream then
      { s with metrics := s.metrics.recordToken s.preferences token }.ending else []

theorem commit_of_room (accepted : s.buffer.refusal? limits.maxTokens token = none) :
    ∃ journal, commit limits token s = .ok (some token) (s.taking token journal) ∧
      journal.reverse = s.notices ++ s.tidings token := by
  obtain ⟨noted, acknowledged⟩ := acknowledge_eq token { s with buffer := s.buffer.append token }
  refine ⟨(acknowledge token { s with buffer := s.buffer.append token }).journal, ?_, ?_⟩
  · simp only [commit, accepted]
    rw [acknowledged]
    rfl
  · rw [List.append_assoc] at noted
    exact noted

theorem taking_tokens (token : Token) (journal : List Notice) (s : Session) :
    (s.taking token journal).buffer.tokens.toList = s.buffer.tokens.toList ++ [token] :=
  s.buffer.tokens_taken token

private theorem Underway.taking_finished (underway : s.Underway) (token : Token)
    (journal : List Notice) : (s.taking token journal).buffer.finished = token.isEndOfStream :=
  TokenBuffer.finished_taken underway.isOpen.1 token

private theorem Underway.taking_settled (underway : s.Underway) (token : Token)
    (journal : List Notice) : (s.taking token journal).Settled := by
  have tokens_eq := taking_tokens token journal s
  constructor
  · have counted : (s.taking token journal).metrics.total = s.metrics.total + 1 :=
      total_recordToken _ _ _
    have sized : (s.taking token journal).buffer.size = s.buffer.size + 1 := by
      simpa [TokenBuffer.size] using congrArg List.length tokens_eq
    rw [counted, underway.counted, sized]
  · have others : s.buffer.tokens.toList.any Token.isEndOfStream = false :=
      underway.closed_eq.symm.trans underway.isOpen.1
    rw [underway.taking_finished, tokens_eq, List.any_append, others]
    simp
  · refine iff_of_true underway.started (.inl ?_)
    rw [tokens_eq]
    simp
  · exact fun _ => underway.isOpen.2

private theorem Underway.taking_story (underway : s.Underway) (limits : ScanLimits) (token : Token)
    (journal : List Notice) :
    (s.taking token journal).story limits = s.story limits ++ s.tidings token := by
  have unfailed : (s.taking token journal).failure = none := underway.isOpen.2
  have wanted_eq : (s.taking token journal).preferences = s.preferences := rfl
  have opening_eq : (s.taking token journal).opening limits = s.opening limits := rfl
  have ending_eq : (s.taking token journal).ending =
      { s with metrics := s.metrics.recordToken s.preferences token }.ending := rfl
  have recognition_eq : (s.taking token journal).recognition =
      s.recognition ++ if s.preferences.logTokenEvents then [tokenNotice token] else [] := by
    simp only [recognition, taking_tokens, wanted_eq]
    cases s.preferences.logTokenEvents <;> simp
  have closing_eq : (s.taking token journal).closing limits = if token.isEndOfStream then
      { s with metrics := s.metrics.recordToken s.preferences token }.ending else [] := by
    simp only [closing, unfailed, underway.taking_finished, ending_eq]
  rw [story_of_open limits underway.isOpen, story, opening_eq, recognition_eq, closing_eq, tidings]
  simp only [List.append_assoc]

private theorem commit_tells (limits : ScanLimits) (token : Token) (underway : s.Underway) :
    Tells limits s (finalState (commit limits token s)) ∧
      (finalState (commit limits token s)).Settled := by
  cases refused : s.buffer.refusal? limits.maxTokens token with
  | some refusal =>
    simp only [commit, refused]
    exact underway.failed limits _
  | none =>
    obtain ⟨journal, committed, noted⟩ := commit_of_room refused
    rw [committed]
    exact ⟨⟨_, noted, underway.taking_story limits token journal⟩,
      underway.taking_settled token journal⟩

/-! ### Requests -/

/-- The machine of an open session brings a token or fails. -/
private theorem run_brings (tracks : s.core.Tracks limits tape) (isOpen : s.core.IsOpen)
    (peak : Nat) : (s.machine.run limits s.intake peak).outcome ≠ .ok none := by
  intro silent
  have pulled : s.machine.pull limits s.intake =
      ⟨.ok none, (s.machine.run limits s.intake peak).machine,
        (s.machine.run limits s.intake peak).intake⟩ := by
    rw [← Machine.run_toStepped, ← silent]
  obtain ⟨tokens, failure⟩ := tape
  obtain ⟨_, ahead, _, expects⟩ := tracks
  change s.core.Expects limits ahead failure at expects
  cases expects with
  | finished closed => cases closed.symm.trans isOpen.1
  | failed _ stuck => cases stuck.symm.trans isOpen.2
  | scanning _ fills =>
    cases fills with
    | failed brought => cases pulled.symm.trans brought
    | full brought => cases pulled.symm.trans brought
    | ended brought => cases pulled.symm.trans brought
    | more brought => cases pulled.symm.trans brought

private theorem scan_tells (settled : s.Settled) (tracks : s.core.Tracks limits tape)
    (isOpen : s.core.IsOpen) :
    Tells limits s (finalState (scan limits s)) ∧ (finalState (scan limits s)).Settled := by
  obtain ⟨begun, underway⟩ := begin_tells limits settled isOpen
  have core_eq : (s.begin limits).core = s.core := core_begin limits s
  have brings := run_brings (core_eq ▸ tracks) underway.isOpen (s.begin limits).metrics.maxDepth
  rw [scan_eq]
  generalize (s.begin limits).machine.run limits (s.begin limits).intake
    (s.begin limits).metrics.maxDepth = ran at brings
  obtain ⟨⟨outcome, machine, intake⟩, peak⟩ := ran
  obtain ⟨moved, underway'⟩ := underway.moved limits machine intake peak
  match outcome, brings with
  | .ok (some token), _ =>
    obtain ⟨committed, settled'⟩ := commit_tells limits token underway'
    exact ⟨(begun.trans moved).trans committed, settled'⟩
  | .ok none, brings => exact absurd rfl brings
  | .error e, _ =>
    obtain ⟨failed, settled'⟩ := underway'.failed limits e
    exact ⟨(begun.trans moved).trans failed, settled'⟩

/-- Where the cursor stands, what has been replayed and whether an iteration has ended is not told. -/
private theorem tells_of_cursor (limits : ScanLimits) (s : Session) (cursor replayed : Nat)
    (iterated : Bool) : Tells limits s
      { s with
        buffer := { s.buffer with cursor }, metrics := { s.metrics with replayed }, iterated } :=
  .of_eq rfl rfl

private theorem Settled.of_cursor (settled : s.Settled) (cursor replayed : Nat) (iterated : Bool) :
    ({ s with
      buffer := { s.buffer with cursor }, metrics := { s.metrics with replayed }, iterated } :
        Session).Settled :=
  ⟨settled.counted, settled.closed_eq, settled.started_iff, settled.whole⟩

private theorem next_tells (settled : s.Settled) (tracks : s.core.Tracks limits tape) :
    Tells limits s (finalState (next limits s)) ∧ (finalState (next limits s)).Settled := by
  cases asked limits s with
  | buffered inside answered =>
    rw [answered]
    exact ⟨tells_of_cursor limits s _ _ s.iterated, settled.of_cursor _ _ s.iterated⟩
  | finished closed answered =>
    rw [answered]
    exact ⟨.of_eq rfl rfl, settled⟩
  | failed stuck answered =>
    rw [answered]
    exact ⟨.of_eq rfl rfl, settled⟩
  | reading reached isOpen answered =>
    rw [answered]
    exact scan_tells settled tracks isOpen

private theorem next_quiet (within : s.buffer.cursor ≤ s.buffer.size)
    (still : ¬(s.buffer.cursor = s.buffer.size ∧ s.core.IsOpen)) :
    (finalState (next limits s)).notices = s.notices := by
  cases asked limits s with
  | buffered inside answered =>
    rw [answered]
    rfl
  | finished closed answered => rw [answered, finalState_ok]
  | failed stuck answered => rw [answered, finalState_error]
  | reading reached isOpen answered =>
    exact absurd ⟨Nat.le_antisymm within reached, isOpen⟩ still

/-- Only a request that reads on notes anything. -/
theorem perform_quiet (within : s.buffer.cursor ≤ s.buffer.size) {request : Request}
    (still : ¬(request.reads = true ∧ s.buffer.cursor = s.buffer.size ∧ s.core.IsOpen)) :
    (s.perform limits request).notices = s.notices := by
  cases request with
  | next => exact next_quiet within fun stands => still ⟨rfl, stands⟩
  | peek =>
    rw [perform, finalState_peek]
    exact next_quiet within fun stands => still ⟨rfl, stands⟩
  | mark => rfl
  | reset m => rfl
  | iterate =>
    cases ended : s.iterated with
    | true => rw [perform, iterate_of_ended ended]
    | false =>
      rw [perform, iterate_of_fresh limits ended]
      exact next_quiet within fun stands => still ⟨rfl, stands⟩

/-- Every request notes what the story gains by it, and keeps the books. -/
theorem perform_tells (settled : s.Settled) (tracks : s.core.Tracks limits tape) (request : Request) :
    Tells limits s (s.perform limits request) ∧ (s.perform limits request).Settled := by
  obtain ⟨told, settled'⟩ := next_tells settled tracks
  cases request with
  | next => exact ⟨told, settled'⟩
  | peek =>
    rw [perform, finalState_peek]
    exact ⟨told.trans (tells_of_cursor limits _ _ _ _), settled'.of_cursor _ _ _⟩
  | mark => exact ⟨.of_eq rfl rfl, settled⟩
  | reset m =>
    exact ⟨tells_of_cursor limits s _ s.metrics.replayed s.iterated,
      settled.of_cursor _ s.metrics.replayed s.iterated⟩
  | iterate =>
    cases ended : s.iterated with
    | true =>
      rw [perform, iterate_of_ended ended]
      exact ⟨.of_eq rfl rfl, settled⟩
    | false =>
      rw [perform, iterate_of_fresh limits ended]
      exact ⟨told.trans (tells_of_cursor limits _ _ (finalState (next limits s)).metrics.replayed _),
        settled'.of_cursor _ (finalState (next limits s)).metrics.replayed _⟩

end Session

/-! ### Attended sessions -/

namespace Attended

variable {limits : ScanLimits} {a : Attended} {tape : Tape}

/-- The entries that reach the service of an attended session, in order. -/
def logged (limits : ScanLimits) (a : Attended) : List Call → List Entry
  | [] => []
  | call :: calls =>
    a.station.logged call.1 (a.session.perform limits call.2).notices ++
      (a.perform limits call).logged limits calls

/-- The service takes in the logged entries, one behind the other. -/
theorem service_serve (limits : ScanLimits) (a : Attended) (calls : List Call) :
    (a.serve limits calls).station.service = a.station.service.map fun service =>
      (a.logged limits calls).foldl (fun service e => (service.force e).1) service := by
  induction calls generalizing a with
  | nil => simp [serve, logged]
  | cons call calls ih =>
    change ((a.perform limits call).serve limits calls).station.service = _
    rw [ih]
    change ((a.station.publishAll call.1 (a.session.perform limits call.2).notices).service).map _ = _
    rw [Station.service_publishAll, Option.map_map]
    simp only [logged, List.foldl_append]
    rfl

/-- The entry renders the notice, at whatever time. -/
def Renders (log : LogLimits) (e : Entry) (notice : Notice) : Prop :=
  e = .ofNotice log.maxMessage e.time notice

/-- What remains true of an attended session, of whose notices the service hears some levels. -/
structure Hearing (limits : ScanLimits) (log : LogLimits) (tape : Tape) (hears : LogLevel → Bool)
    (a : Attended) : Prop where
  settled : a.session.Settled
  tracks : a.session.core.Tracks limits tape
  collected : a.session.notices = []
  heard : ∀ level, a.station.hears level = hears level
  limits_eq : a.station.limits.log = log

/-- What remains true of an attended session whose service hears everything. -/
abbrev Telling (limits : ScanLimits) (log : LogLimits) (tape : Tape) (a : Attended) : Prop :=
  a.Hearing limits log tape fun _ => true

variable {hears : LogLevel → Bool}

private theorem logged_eq (hearing : a.Hearing limits log tape hears) (now : Instant)
    (notices : List Notice) :
    List.Forall₂ (Renders log) (a.station.logged now notices)
      (notices.filter fun notice => hears notice.level) := by
  simp only [Station.logged, hearing.heard]
  rw [List.forall₂_map_left_iff, List.forall₂_same]
  intro notice _
  rw [← hearing.limits_eq]
  rfl

/-- What is logged during a request is what the service hears of that which the story gains. -/
private theorem perform_hearing (hearing : a.Hearing limits log tape hears) (call : Call) :
    (a.perform limits call).Hearing limits log tape hears ∧
      ∃ gained, (a.perform limits call).session.story limits = a.session.story limits ++ gained ∧
        List.Forall₂ (Renders log) (a.station.logged call.1 (a.session.perform limits call.2).notices)
          (gained.filter fun notice => hears notice.level) := by
  obtain ⟨⟨gained, noted, story_eq⟩, settled⟩ :=
    Session.perform_tells hearing.settled hearing.tracks call.2
  rw [hearing.collected, List.nil_append] at noted
  have tracks := Session.perform_tracks hearing.tracks call.2
  have grows := Station.grows_publishAll call.1 (a.session.perform limits call.2).notices a.station
  have books : (a.perform limits call).session.Settled :=
    ⟨settled.counted, settled.closed_eq, settled.started_iff, settled.whole⟩
  refine ⟨⟨books, tracks, rfl, ?_, ?_⟩, gained, story_eq, ?_⟩
  · intro level
    exact (grows.hears_eq level).trans (hearing.heard level)
  · exact (congrArg Limits.log grows.limits_eq).trans hearing.limits_eq
  · rw [noted]
    exact logged_eq hearing call.1 gained

/-- Whatever is requested, what is logged is what the service hears of that which the story gains. -/
theorem serve_hearing (hearing : a.Hearing limits log tape hears) (calls : List Call) :
    (a.serve limits calls).Hearing limits log tape hears ∧
      ∃ gained, (a.serve limits calls).session.story limits = a.session.story limits ++ gained ∧
        List.Forall₂ (Renders log) (a.logged limits calls)
          (gained.filter fun notice => hears notice.level) := by
  -- On the calls; a call tells what its request gains, and the later ones tell the rest.
  induction calls generalizing a with
  | nil => exact ⟨hearing, [], (List.append_nil _).symm, .nil⟩
  | cons call calls ih =>
    obtain ⟨hearing', early, story_eq, rendered⟩ := perform_hearing hearing call
    obtain ⟨final, late, story_eq', rendered'⟩ := ih hearing'
    refine ⟨final, early ++ late, ?_, ?_⟩
    · rw [← List.append_assoc, ← story_eq]
      exact story_eq'
    · rw [List.filter_append]
      exact List.rel_append rendered rendered'

/-- Whatever is requested, what is logged is what the story gains. -/
theorem serve_telling (telling : a.Telling limits log tape) (calls : List Call) :
    (a.serve limits calls).Telling limits log tape ∧
      ∃ gained, (a.serve limits calls).session.story limits = a.session.story limits ++ gained ∧
        List.Forall₂ (Renders log) (a.logged limits calls) gained := by
  obtain ⟨final, gained, story_eq, rendered⟩ := serve_hearing telling calls
  exact ⟨final, gained, story_eq, List.filter_true gained ▸ rendered⟩

end Attended

/-! ### What the log tells -/

/-- The entry is of a level, with a code, a place and a text, which may have been cut. -/
structure Entry.States (log : LogLimits) (level : LogLevel) (code text : String) (span : Option Span)
    (e : Entry) : Prop where
  level_eq : e.level = level
  code_eq : e.code = code
  message_eq : e.message = cutMessage log.maxMessage text
  span_eq : e.span = span

/-- The value of a named detail. -/
def Entry.detail? (e : Entry) (name : String) : Option String := e.details.lookup name

theorem Attended.Renders.states {log : LogLimits} {e : Entry} {notice : Notice}
    (renders : Renders log e notice) :
    e.States log notice.level notice.code notice.message notice.span := by
  rw [renders]
  exact ⟨rfl, rfl, rfl, rfl⟩

theorem Attended.Renders.detail?_eq {log : LogLimits} {e : Entry} {notice : Notice}
    (renders : Renders log e notice) (name : String) :
    e.detail? name = notice.details.reverse.lookup name := by
  rw [renders]
  exact Entry.lookup_sortDetails name notice.details

namespace Session

/-- The beginning is told as soon as the text has been looked at. -/
inductive Opens (log : LogLimits) (s : Session) : List Entry → Prop where
  | idle (unread : s.buffer.tokens.toList = []) (unfailed : s.failure = none) : Opens log s []
  | begun {e : Entry} (read : s.buffer.tokens.toList ≠ [] ∨ s.failure ≠ none)
      (states : e.States log .debug Code.plainDebug "Starting lexical analysis" none) : Opens log s [e]

/-- The entry tells of the token. -/
structure TellsOf (log : LogLimits) (e : Entry) (token : Token) : Prop where
  states : e.States log .debug Code.plainDebug "Token recognised" none
  kind : e.detail? "kind" = some token.kind.name
  lexeme : e.detail? "lexeme" = some token.lexeme
  line : e.detail? "line" = some (toString token.line)
  column : e.detail? "column" = some (toString token.column)

/-- Every buffered token is told of if token events are wanted. -/
inductive Recognises (log : LogLimits) (s : Session) : List Entry → Prop where
  | silent (unwanted : s.preferences.logTokenEvents = false) : Recognises log s []
  | each {entries : List Entry} (wanted : s.preferences.logTokenEvents = true)
      (tell : List.Forall₂ (TellsOf log) entries s.buffer.tokens.toList) : Recognises log s entries

/-- The end is told once the end marker has been buffered, and a failure once the session has
failed. -/
inductive Closes (limits : ScanLimits) (log : LogLimits) (s : Session) : List Entry → Prop where
  | going (unended : ∀ token ∈ s.buffer.tokens, token.isEndOfStream = false)
      (unfailed : s.failure = none) : Closes limits log s []
  | ended {warnings : List Entry} {e : Entry}
      (ended : ∃ token ∈ s.buffer.tokens, token.isEndOfStream = true) (unfailed : s.failure = none)
      (few : warnings.length ≤ 1)
      (warn : ∀ warning ∈ warnings, warning.States log .warning Code.unclosedConstruct
        "Input ended inside an open construct" none)
      (states : e.States log .info Code.scanComplete "Lexical analysis completed" none)
      (total : e.detail? "total_tokens" = some (toString s.buffer.size)) :
      Closes limits log s (warnings ++ [e])
  | failed {failure : ScanError} {e : Entry}
      (unended : ∀ token ∈ s.buffer.tokens, token.isEndOfStream = false)
      (failed : s.failure = some failure)
      (states : e.States log .error failure.code (failure.message limits)
        (if s.preferences.includePositionInErrors then some (.single failure.position) else none))
      (scanned : e.detail? "tokens_scanned" = some (toString s.buffer.size)) :
      Closes limits log s [e]

variable {limits : ScanLimits} {log : LogLimits} {s : Session} {entries : List Entry}

private theorem opens_of_rendered (settled : s.Settled)
    (rendered : List.Forall₂ (Attended.Renders log) entries (s.opening limits)) :
    s.Opens log entries := by
  unfold opening at rendered
  cases started : s.started with
  | false =>
    rw [started] at rendered
    cases rendered
    have idle := settled.started_iff.not.mp (by rw [started]; exact Bool.false_ne_true)
    rw [not_or, not_not, not_not] at idle
    exact .idle idle.1 idle.2
  | true =>
    rw [started] at rendered
    cases rendered with
    | cons renders none =>
      cases none
      exact .begun (settled.started_iff.mp started) renders.states

private theorem recognises_of_rendered
    (rendered : List.Forall₂ (Attended.Renders log) entries s.recognition) :
    s.Recognises log entries := by
  unfold recognition at rendered
  cases wanted : s.preferences.logTokenEvents with
  | false =>
    rw [wanted] at rendered
    cases rendered
    exact .silent wanted
  | true =>
    rw [wanted, if_pos rfl, List.forall₂_map_right_iff] at rendered
    refine .each wanted (rendered.imp fun e token renders => ⟨renders.states, ?_, ?_, ?_, ?_⟩)
    all_goals
      rw [renders.detail?_eq]
      rfl

private theorem closes_of_rendered (settled : s.Settled)
    (rendered : List.Forall₂ (Attended.Renders log) entries (s.closing limits)) :
    s.Closes limits log entries := by
  have marked : s.buffer.finished = false → ∀ token ∈ s.buffer.tokens, token.isEndOfStream = false := by
    intro unfinished token member
    rw [settled.closed_eq, List.any_eq_false] at unfinished
    exact Bool.eq_false_iff.mpr (unfinished token (Array.mem_toList_iff.mpr member))
  unfold closing at rendered
  cases stuck : s.failure with
  | some e =>
    rw [stuck] at rendered
    have unfinished : s.buffer.finished = false := Bool.eq_false_iff.mpr fun closed =>
      nomatch stuck.symm.trans (settled.whole closed)
    cases rendered with
    | cons renders none =>
      cases none
      refine .failed (marked unfinished) stuck ?_ ?_
      · have states := renders.states
        unfold failureNotice at states
        split at states
        next wanted => rwa [if_pos wanted]
        next unwanted => rwa [if_neg unwanted]
      · rw [renders.detail?_eq]
        unfold failureNotice
        split <;> rfl
  | none =>
    rw [stuck] at rendered
    cases closed : s.buffer.finished with
    | false =>
      rw [closed] at rendered
      cases rendered
      exact .going (marked closed) stuck
    | true =>
      rw [closed, if_pos rfl, ending] at rendered
      have found : ∃ token ∈ s.buffer.tokens, token.isEndOfStream = true := by
        have last := settled.closed_eq.symm.trans closed
        obtain ⟨token, member, isEnd⟩ := List.any_eq_true.mp last
        exact ⟨token, Array.mem_toList_iff.mp member, isEnd⟩
      have total {e : Entry} (renders : Attended.Renders log e (completionNotice s.metrics)) :
          e.detail? "total_tokens" = some (toString s.buffer.size) := by
        rw [renders.detail?_eq, ← settled.counted]
        rfl
      cases top : s.machine.nesting.top? with
      | none =>
        rw [top] at rendered
        cases rendered with
        | cons completes none =>
          cases none
          change Closes _ _ _ ([] ++ [_])
          exact .ended found stuck (Nat.zero_le 1) nofun completes.states
            (total completes)
      | some frame =>
        rw [top] at rendered
        rcases rendered with _ | ⟨warns, _ | ⟨completes, ⟨⟩⟩⟩
        change Closes _ _ _ ([_] ++ [_])
        refine .ended found stuck (Nat.le_refl 1) ?_ completes.states
          (total completes)
        intro warning member
        rw [List.mem_singleton.mp member]
        exact warns.states

/-- The log of a session tells its life once. Whatever a session is asked for, the entries that its
service takes in are, in order: that it has begun, as soon as the text has been looked at; every
buffered token, if token events are wanted; and how it has ended, if it has. A request that does not
read on is not told of. -/
theorem logs_its_life (limits : ScanLimits) (preferences : LexicalPreferences) (source : CharSource)
    (station : Station) {service : Service} (installed : station.service = some service)
    (accepts : service.accepts .debug = true) (talkative : ¬station.level < .debug)
    (calls : List Attended.Call) :
    let a : Attended := ⟨start preferences source, station⟩
    let b := a.serve limits calls
    b.station.service = some
        ((a.logged limits calls).foldl (fun service e => (service.force e).1) service) ∧
      (∃ opening recognised closing, a.logged limits calls = opening ++ recognised ++ closing ∧
        b.session.Opens station.limits.log opening ∧
        b.session.Recognises station.limits.log recognised ∧
        b.session.Closes limits station.limits.log closing) ∧
      ∀ now request, ¬(request.reads = true ∧ b.session.buffer.cursor = b.session.buffer.size ∧
        b.session.isFinished = false ∧ b.session.failure = none) →
        b.logged limits [(now, request)] = [] := by
  intro a b
  have telling : a.Telling limits station.limits.log ((start preferences source).drain limits).tape :=
    ⟨settled_start preferences source, start_tracks_drain limits preferences source, rfl,
      fun level => Station.hears_all installed accepts talkative level, rfl⟩
  obtain ⟨final, gained, story_eq, rendered⟩ := Attended.serve_telling telling calls
  have fresh : a.session.story limits = [] := by
    change (start preferences source).story limits = []
    simp [story, opening, recognition, closing, start]
  rw [fresh, List.nil_append] at story_eq
  refine ⟨?_, ?_, ?_⟩
  · rw [Attended.service_serve]
    change station.service.map _ = _
    rw [installed]
    rfl
  · rw [← story_eq, story, List.append_assoc] at rendered
    have rest := List.forall₂_drop_append _ _ _ rendered
    refine ⟨_, _, _, ?_, opens_of_rendered final.settled (List.forall₂_take_append _ _ _ rendered),
      recognises_of_rendered (List.forall₂_take_append _ _ _ rest),
      closes_of_rendered final.settled (List.forall₂_drop_append _ _ _ rest)⟩
    rw [List.append_assoc, List.take_append_drop, List.take_append_drop]
  · intro now request still
    have quiet : (b.session.perform limits request).notices = b.session.notices :=
      perform_quiet final.tracks.cursor_le still
    rw [Attended.logged, quiet, final.collected]
    rfl

/-- A text that fails behind its first token, which is looked at, taken and replayed, with token events: the
log tells of the beginning, the token and the failure, and of nothing that is asked for after that. -/
theorem logs_its_life_of_colon :
    let station : Station := { installed := some ⟨false, false, .debug⟩,
                               service := some ⟨.keep (.empty 8), .debug⟩ }
    let a : Attended := ⟨start { logTokenEvents := true } ⟨.ofText "a:", none, none⟩, station⟩
    let calls : List Attended.Call :=
      [(.epoch, .peek), (.epoch, .next), (.epoch, .next), (.epoch, .reset ⟨0⟩), (.epoch, .iterate)]
    let b := a.serve .development calls
    let e : ScanError := .unexpected .endOfInput "'::='" ⟨2, 1, 3⟩
    b.session.failure = some e ∧
      b.station.service = some
        ((a.logged .development calls).foldl (fun service e => (service.force e).1)
          ⟨.keep (.empty 8), .debug⟩) ∧
      (∃ begun told failed, a.logged .development calls = [begun, told, failed] ∧
        begun.States station.limits.log .debug Code.plainDebug "Starting lexical analysis" none ∧
        TellsOf station.limits.log told ⟨"a", .terminalSymbol, 1, 1⟩ ∧
        failed.States station.limits.log .error e.code (e.message .development)
          (some (.single e.position))) ∧
      ∀ now request, b.logged .development [(now, request)] = [] := by
  intro station a calls b e
  have failure_eq : b.session.failure = some e := by decide +kernel
  have tokens_eq : b.session.buffer.tokens.toList = [⟨"a", .terminalSymbol, 1, 1⟩] := by decide +kernel
  have wanted : b.session.preferences.logTokenEvents = true := by decide +kernel
  have pointed : b.session.preferences.includePositionInErrors = true := by decide +kernel
  obtain ⟨service_eq, ⟨opening, recognised, closing, logged_eq, opens, recognises, closes⟩, quiet⟩ :=
    logs_its_life .development { logTokenEvents := true } ⟨.ofText "a:", none, none⟩ station rfl
      (by decide) (by decide) calls
  refine ⟨failure_eq, service_eq, ?_, ?_⟩
  · cases opens with
    | idle unread => cases tokens_eq.symm.trans unread
    | @begun begun _ begins =>
      cases recognises with
      | silent unwanted => cases wanted.symm.trans unwanted
      | each _ tell =>
        rw [tokens_eq] at tell
        cases tell with
        | @cons told _ _ _ tells rest =>
          cases rest
          cases closes with
          | going _ unfailed => cases failure_eq.symm.trans unfailed
          | ended _ unfailed => cases failure_eq.symm.trans unfailed
          | @failed failure failed _ failure_eq' fails =>
            cases failure_eq.symm.trans failure_eq'
            rw [if_pos pointed] at fails
            exact ⟨begun, told, failed, logged_eq, begins, tells, fails⟩
  · intro now request
    refine quiet now request fun ⟨_, _, _, unfailed⟩ => ?_
    cases failure_eq.symm.trans unfailed

end Session

end GrammarLex
