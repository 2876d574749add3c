import GrammarLex.Proofs.Scan.Stops
import GrammarLex.Proofs.Session.Chronicle
import GrammarLex.Proofs.Session.Course

/-!
# The span of a failure

The entry of a failure points at a place by a span. An error that tells which character it has found
points right in front of it, so the span ought to end where reading that character leads. The span is
made without looking at the character, though: it takes one byte and stays on the line. So it covers the
character if that is a single byte and no newline, as every closing delimiter is, and no other character.
-/
namespace GrammarLex

/-- The stretch of one character. -/
def Span.ofChar (p : Position) (c : Char) : Span := ⟨p, p.advance c⟩

theorem Span.single_eq_ofChar_iff {p : Position} {c : Char} :
    single p = ofChar p c ↔ c.utf8Size = 1 ∧ c ≠ '\n' := by
  constructor
  · intro same
    have stop_eq : (⟨p.offset + 1, p.line, p.column + 1⟩ : Position) = p.advance c :=
      congrArg Span.stop same
    have offset_eq : p.offset + 1 = (p.advance c).offset := congrArg Position.offset stop_eq
    rw [Position.offset_advance] at offset_eq
    refine ⟨by omega, ?_⟩
    rintro rfl
    have line_eq : p.line = p.line + 1 := congrArg Position.line stop_eq
    omega
  · rintro ⟨size, other⟩
    rw [single, ofChar, Position.advance, if_neg other, size]

theorem Span.size?_single (p : Position) : (single p).size? = .ok 1 := by
  simp [single, size?]

namespace ScanError

/-- The character that an error says it has found. -/
def found? : ScanError → Option Char
  | .unexpected (.char c) _ _ | .mismatched _ c _ => some c
  | _ => none

/-- The error is about a closing delimiter. -/
def isMismatch : ScanError → Bool
  | .mismatched .. => true
  | _ => false

end ScanError

/-! ### Where the character stands -/

/-- Only at the closing delimiter of a group and in enclosures it matters which construct is open. -/
private theorem Phase.stride_of_top (acceptReturn : Bool) (fault : Option DecodeError)
    (top : Option (FrameKind × Char)) {phase : Phase} (chars : List Char)
    (others : phase ≠ .closeGroup ∧ phase ≠ .scanEnclosed ∧ phase ≠ .closeEnclosure) :
    phase.stride acceptReturn fault top chars = phase.stride acceptReturn fault none chars := by
  obtain ⟨noGroup, noText, noEnclosure⟩ := others
  cases phase with
  | closeGroup => exact absurd rfl noGroup
  | scanEnclosed => exact absurd rfl noText
  | closeEnclosure => exact absurd rfl noEnclosure
  | dispatch | whitespace | actionName | actionArgs | actionClose | finished => rfl
  | _ => cases chars <;> rfl

namespace Spot

variable {limits : ScanLimits} {acceptReturn : Bool} {s s' : Spot} {token : Option Token}
  {tokens : List Token} {held : Nat} {e : ScanError} {c : Char}

/-- A closing delimiter of the wrong kind is met where one is looked at. -/
private theorem phase_of_mismatched (agrees : s.Agrees acceptReturn) {expected found : Char}
    (stops : (s.stride acceptReturn).landing = .error (.mismatched expected found)) :
    s.phase = .closeGroup := by
  have met := Phase.stride_meets acceptReturn s.left.fault s.top s.phase s.left.chars _ stops
  obtain ⟨-, kind, top_eq, group⟩ := met
  obtain ⟨frame, innermost, same⟩ := Option.map_eq_some_iff.mp top_eq
  cases same
  obtain ⟨frames, frames_eq⟩ := List.head?_eq_some_iff.mp innermost
  -- Inside an enclosure the innermost construct is no group.
  have enclosed (inside : ∃ frame groups, s.frames = frame :: groups ∧
      frame.kind.isEnclosure = true ∧ OnlyGroups groups) : False := by
    obtain ⟨other, groups, same, enclosure, -⟩ := inside
    cases frames_eq.symm.trans same
    cases group.symm.trans (FrameKind.isGroup_of_enclosure enclosure)
  have nests := agrees.nests
  by_contra other
  have noText : s.phase ≠ .scanEnclosed := by
    intro phase
    rw [phase] at nests
    exact enclosed nests
  have noEnclosure : s.phase ≠ .closeEnclosure := by
    intro phase
    rw [phase] at nests
    exact enclosed nests
  -- Elsewhere the handler would meet the same if nothing were open, and then nothing has a closer.
  rw [stride, Phase.stride_of_top acceptReturn s.left.fault s.top s.left.chars
    ⟨other, noText, noEnclosure⟩] at stops
  obtain ⟨-, kind, nothing, -⟩ :=
    Phase.stride_meets acceptReturn s.left.fault none s.phase s.left.chars _ stops
  cases nothing

private theorem closes_of_mismatched (agrees : s.Agrees acceptReturn) {expected found : Char}
    (stops : (s.stride acceptReturn).landing = .error (.mismatched expected found)) :
    found = ')' ∨ found = ']' := by
  have phase := phase_of_mismatched agrees stops
  have selects : s.phase.isSelected = true := by rw [phase]; rfl
  obtain ⟨c, rest, front, -⟩ := agrees.shown selects
  have starts := agrees.starts front selects
  rw [phase] at starts
  rw [stride, phase, front] at stops
  change (Stride.groupEnd s.top c rest).landing = _ at stops
  unfold Stride.groupEnd at stops
  split at stops
  next => cases stops
  next =>
    split at stops
    next =>
      split at stops
      next => cases stops
      next =>
        cases stops
        exact starts
    next => cases stops

/-- The character stands in front of the spot, and the error points at it. -/
structure Finds (s : Spot) (e : ScanError) (c : Char) : Prop where
  stands : ∃ passed rest, s.left.chars = passed ++ c :: rest ∧ e.position = s.position.advanceBy passed
  closes : e.isMismatch = true → c = ')' ∨ c = ']'

/-- A step that fails on a character stops right in front of it. -/
theorem Agrees.finds (agrees : s.Agrees acceptReturn) (next_eq : s.next limits acceptReturn = .error e)
    (found : e.found? = some c) : s.Finds e c := by
  rcases take_eq_error next_eq with ⟨long, rfl⟩ | ⟨obstacle, stops, rfl⟩ | ⟨landing, lands, turned⟩
  · cases found
  · have whole := s.stride_whole acceptReturn
    have met := Phase.stride_meets acceptReturn s.left.fault s.top s.phase s.left.chars obstacle stops
    have stands (behind : (s.stride acceptReturn).rest.head? = some c) :
        ∃ passed rest, s.left.chars = passed ++ c :: rest ∧
          (obstacle.error (s.position.advanceBy (s.stride acceptReturn).used)).position =
            s.position.advanceBy passed := by
      obtain ⟨rest, rest_eq⟩ := List.head?_eq_some_iff.mp behind
      refine ⟨(s.stride acceptReturn).used, rest, ?_, by cases obstacle <;> rfl⟩
      rw [← whole, rest_eq]
    cases obstacle with
    | unexpected what words =>
      obtain ⟨what_eq, -⟩ := met
      change what = .ofNext (s.stride acceptReturn).rest.head? at what_eq
      refine ⟨stands ?_, nofun⟩
      cases behind : (s.stride acceptReturn).rest.head? with
      | none =>
        rw [behind] at what_eq
        subst what_eq
        cases found
      | some d =>
        rw [behind] at what_eq
        subst what_eq
        exact found
    | mismatched expected other =>
      obtain ⟨behind, -⟩ := met
      cases found
      exact ⟨stands behind, fun _ => closes_of_mismatched agrees stops⟩
    | broken => cases found
  · obtain ⟨-, -, rfl⟩ := agrees.turn_refused lands turned
    cases found

/-- What is found behind a step is found in front of it. -/
theorem Finds.of_next (next_eq : s.next limits acceptReturn = .ok (token, s'))
    (finds : s'.Finds e c) : s.Finds e c := by
  obtain ⟨-, whole, position_eq⟩ := next_covers next_eq
  obtain ⟨⟨passed, rest, chars_eq, there⟩, closes⟩ := finds
  refine ⟨⟨(s.stride acceptReturn).used ++ passed, rest, ?_, ?_⟩, closes⟩
  · rw [← whole, chars_eq, List.append_assoc]
  · rw [there, position_eq, Position.advanceBy_append]

/-- Whatever is brought, the character of the error at the end stands in the text. -/
theorem Brings.finds (brings : s.Brings limits acceptReturn held tokens (some e))
    (found : e.found? = some c) : s.Finds e c := by
  -- On what is brought; each step on the way leaves the character in front of the next spot.
  generalize failure_eq : some e = failure at brings
  induction brings with
  | failed agrees next_eq =>
    cases failure_eq
    exact agrees.finds next_eq found
  | silent _ next_eq _ ih => exact (ih failure_eq).of_next next_eq
  | full =>
    cases failure_eq
    cases found
  | ended => cases failure_eq
  | more _ next_eq _ _ _ ih => exact (ih failure_eq).of_next next_eq

end Spot

/-! ### The entry of a failure -/

namespace Session

variable {limits : ScanLimits} {log : LogLimits} {s : Session} {tape : Tape} {e : ScanError}
  {entries : List Entry} {hears : LogLevel → Bool}

/-- A session fails with the error that its tape ends in. -/
theorem Settled.tape_failure (settled : s.Settled) (tracks : s.core.Tracks limits tape)
    (failed : s.failure = some e) : tape.failure = some e := by
  obtain ⟨-, ahead, -, expects⟩ := tracks
  generalize failure_eq : tape.failure = failure at expects
  cases expects with
  | finished closed => cases failed.symm.trans (settled.whole closed)
  | failed unfinished stuck => exact stuck.symm.trans failed
  | scanning isOpen fills => cases failed.symm.trans isOpen.2

/-- Of the story of a session only the end can be an error. -/
theorem errors_of_story (limits : ScanLimits) (failed : s.failure = some e) :
    (s.story limits).filter (fun notice => notice.level = .error) =
      [failureNotice limits s.preferences s.buffer.size e] := by
  have opening_eq : (s.opening limits).filter (fun notice => notice.level = .error) = [] := by
    unfold opening
    split <;> rfl
  have recognition_eq : s.recognition.filter (fun notice => notice.level = .error) = [] := by
    unfold recognition
    split
    · rw [List.filter_map, List.map_eq_nil_iff, List.filter_eq_nil_iff]
      exact fun token _ => nofun
    · rfl
  have level_eq : (failureNotice limits s.preferences s.buffer.size e).level = .error := by
    unfold failureNotice
    split <;> rfl
  rw [story, List.filter_append, List.filter_append, opening_eq, recognition_eq, closing, failed,
    List.append_nil, List.nil_append]
  exact List.filter_cons_of_pos (decide_eq_true level_eq)

/-! ### Preferences -/

private theorem preferences_begin (limits : ScanLimits) (s : Session) :
    (s.begin limits).preferences = s.preferences := by
  unfold begin
  split <;> rfl

private theorem preferences_commit (limits : ScanLimits) (token : Token) (s : Session) :
    (finalState (commit limits token s)).preferences = s.preferences := by
  cases refused : s.buffer.refusal? limits.maxTokens token with
  | some refusal =>
    simp only [commit, refused]
    rfl
  | none =>
    obtain ⟨journal, committed, -⟩ := commit_of_room refused
    rw [committed]
    rfl

private theorem preferences_next (limits : ScanLimits) (s : Session) :
    (finalState (next limits s)).preferences = s.preferences := by
  cases asked limits s with
  | buffered inside answered => rw [answered, finalState_ok]
  | finished closed answered => rw [answered, finalState_ok]
  | failed stuck answered => rw [answered, finalState_error]
  | reading reached isOpen answered =>
    rw [answered, scan_eq, ← preferences_begin limits s]
    generalize (s.begin limits).machine.run limits (s.begin limits).intake
      (s.begin limits).metrics.maxDepth = ran
    obtain ⟨⟨outcome, machine, intake⟩, peak⟩ := ran
    match outcome with
    | .ok (some token) => exact preferences_commit limits token _
    | .ok none => rfl
    | .error e => rfl

/-- Nobody changes the preferences of a session. -/
theorem preferences_perform (limits : ScanLimits) (s : Session) (request : Request) :
    (s.perform limits request).preferences = s.preferences := by
  have kept := preferences_next limits s
  cases request with
  | next => exact kept
  | peek =>
    rw [perform, finalState_peek]
    exact kept
  | mark => rfl
  | reset m => rfl
  | iterate =>
    cases ended : s.iterated with
    | true => rw [perform, iterate_of_ended ended]
    | false =>
      rw [perform, iterate_of_fresh limits ended]
      exact kept

end Session

theorem Attended.preferences_serve (limits : ScanLimits) (a : Attended) (calls : List Call) :
    (a.serve limits calls).session.preferences = a.session.preferences := by
  induction calls generalizing a with
  | nil => rfl
  | cons call calls ih => exact (ih _).trans (Session.preferences_perform limits a.session call.2)

namespace Session

variable {limits : ScanLimits} {preferences : LexicalPreferences} {source : CharSource}
  {station : Station} {service : Service} {calls : List Attended.Call} {e : ScanError} {c : Char}

private theorem hearing_start (limits : ScanLimits) (preferences : LexicalPreferences)
    (source : CharSource) (station : Station) :
    (⟨start preferences source, station⟩ : Attended).Hearing limits station.limits.log
      ((start preferences source).drain limits).tape station.hears :=
  ⟨settled_start preferences source, start_tracks_drain limits preferences source, rfl,
    fun _ => rfl, rfl⟩

/-- What a failed session has logged as an error is its failure, told once. -/
private theorem logged_errors (installed : station.service = some service)
    (failed : ((⟨start preferences source, station⟩ : Attended).serve limits calls).session.failure =
      some e) :
    ∃ entry scanned, ((⟨start preferences source, station⟩ : Attended).logged limits calls).filter
        (fun entry => entry.level = .error) = [entry] ∧
      Attended.Renders station.limits.log entry (failureNotice limits preferences scanned e) := by
  obtain ⟨-, gained, story_eq, rendered⟩ :=
    Attended.serve_hearing (hearing_start limits preferences source station) calls
  have fresh : (start preferences source).story limits = [] := by
    simp [story, opening, recognition, closing, start]
  rw [fresh, List.nil_append] at story_eq
  subst story_eq
  have levels : ∀ ⦃entry : Entry⦄ ⦃notice : Notice⦄, Attended.Renders station.limits.log entry notice →
      (decide (entry.level = .error) = true ↔ decide (notice.level = .error) = true) := by
    intro entry notice renders
    rw [renders.states.level_eq]
  have errors := List.rel_filter levels rendered
  have audible (notices : List Notice) :
      (notices.filter fun notice => station.hears notice.level).filter
          (fun notice => notice.level = .error) =
        notices.filter fun notice => notice.level = .error := by
    rw [List.filter_filter]
    refine List.filter_congr fun notice _ => ?_
    by_cases level : notice.level = .error
    · rw [level, Station.hears_error installed, Bool.and_true]
    · rw [decide_eq_false level, Bool.false_and]
  rw [audible, errors_of_story limits failed, Attended.preferences_serve] at errors
  obtain ⟨entry, others, renders, nothing, logged_eq⟩ := List.forall₂_cons_right_iff.mp errors
  cases nothing
  exact ⟨entry, _, logged_eq, renders⟩

/-- A character that a failed session has found stands in the text where its error points. -/
private theorem failure_finds (limits : ScanLimits) {calls : List Attended.Call}
    (failed : ((⟨start preferences source, station⟩ : Attended).serve limits calls).session.failure =
      some e) (found : e.found? = some c) :
    ({ left := source.contents } : Spot).Finds e c := by
  obtain ⟨final, -⟩ :=
    Attended.serve_hearing (hearing_start limits preferences source station) calls
  have brings := drain_brings limits preferences source
  rw [final.settled.tape_failure final.tracks failed] at brings
  exact brings.finds found

/-- **The span of a failure takes one byte.** Whatever a session is asked for, and whatever its service
passes on, a failure is logged as an error once, with a span that starts at the place of the error, takes
one byte and stays on the line. If the error tells which character it has found, that character stands
there in the text, and the span covers it just if it is a single byte and no newline; a closing delimiter
of the wrong kind always is. -/
theorem failure_span (limits : ScanLimits) (preferences : LexicalPreferences) (source : CharSource)
    (station : Station) {service : Service} (installed : station.service = some service)
    (positions : preferences.includePositionInErrors = true) (calls : List Attended.Call)
    (e : ScanError)
    (failed : ((⟨start preferences source, station⟩ : Attended).serve limits calls).session.failure =
      some e) :
    ∃ entry span, ((⟨start preferences source, station⟩ : Attended).logged limits calls).filter
        (fun entry => entry.level = .error) = [entry] ∧
      entry.States station.limits.log .error e.code (e.message limits) (some span) ∧
      span.start = e.position ∧ span.stop.line = e.position.line ∧ span.size? = .ok 1 ∧
      ∀ c, e.found? = some c →
        (∃ before rest, source.contents.chars = before ++ c :: rest ∧
          e.position = Position.start.advanceBy before ∧
          e.position.advance c = Position.start.advanceBy (before ++ [c])) ∧
        (span = .ofChar e.position c ↔ c.utf8Size = 1 ∧ c ≠ '\n') ∧
        (e.isMismatch = true → span = .ofChar e.position c) := by
  obtain ⟨entry, scanned, errors, renders⟩ := logged_errors installed failed
  have states := renders.states
  rw [failureNotice, positions] at states
  refine ⟨entry, .single e.position, errors, states, rfl, rfl, Span.size?_single _, fun c found => ?_⟩
  obtain ⟨⟨before, rest, chars_eq, position_eq⟩, closes⟩ := failure_finds limits failed found
  refine ⟨⟨before, rest, chars_eq, position_eq, ?_⟩, Span.single_eq_ofChar_iff, fun mismatch => ?_⟩
  · rw [position_eq, Position.advanceBy_append]
    rfl
  · refine Span.single_eq_ofChar_iff.mpr ?_
    rcases closes mismatch with rfl | rfl <;> decide

/-- A character of two bytes where an operator has to go on: the span ends inside it. -/
theorem failure_span_of_accent :
    let station : Station := { service := some ⟨.keep (.empty 8), .error⟩ }
    let a : Attended := ⟨start {} ⟨.ofText ":é", none, none⟩, station⟩
    let e : ScanError := .unexpected (.char 'é') "'::='" ⟨1, 1, 2⟩
    (a.serve .development [(.epoch, .next)]).session.failure = some e ∧
      ∃ entry span, (a.logged .development [(.epoch, .next)]).filter
          (fun entry => entry.level = .error) = [entry] ∧
        entry.States station.limits.log .error e.code (e.message .development) (some span) ∧
        span.start = ⟨1, 1, 2⟩ ∧ span.size? = .ok 1 ∧ span ≠ .ofChar ⟨1, 1, 2⟩ 'é' ∧
        (Span.ofChar ⟨1, 1, 2⟩ 'é').size? = .ok 2 := by
  intro station a e
  have failed : (a.serve .development [(.epoch, .next)]).session.failure = some e := by
    decide +kernel
  obtain ⟨entry, span, errors, states, starts, -, size, covers⟩ :=
    failure_span .development {} ⟨.ofText ":é", none, none⟩ station rfl rfl [(.epoch, .next)] e failed
  obtain ⟨-, covers, -⟩ := covers 'é' rfl
  refine ⟨failed, entry, span, errors, states, starts, size, ?_, by decide⟩
  intro whole
  exact absurd (covers.mp whole).1 (by decide)

end Session

end GrammarLex
