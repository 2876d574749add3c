import GrammarLex.Proofs.Reading.Basic
import GrammarLex.Proofs.Scan.Handlers
import GrammarLex.Proofs.Scan.Trace
import Mathlib.Data.List.Forall2

/-!
# Following a reading within limits

A reading knows neither limits nor faulty input. A machine that follows it brings the same tokens,
and stops where the reading does unless it meets a limit or the fault of its source before.
`Reading.Stops` lists the errors a machine may stop with in front of a reading.
-/
namespace GrammarLex

/-- The error names a limit that has been exceeded. -/
def ScanError.exceedsLimit : ScanError → Bool
  | .lexemeTooLong .. | .nestedTooDeep .. | .tooManyTokens .. => true
  | _ => false

/-- The limits leave room for the piece. -/
structure Piece.Fits (limits : ScanLimits) (piece : Piece) : Prop where
  lexeme_le : piece.token.lexeme.length ≤ limits.maxLexeme
  raw_le : piece.raw.length ≤ limits.maxLexeme
  depth_le : piece.depth ≤ limits.maxDepth

theorem Piece.fits_of_lexeme {limits : ScanLimits} {lexeme : List Char} {kind : TokenKind}
    {p : Position} {depth : Nat} (room : lexeme.length ≤ limits.maxLexeme)
    (shallow : depth ≤ limits.maxDepth) :
    Piece.Fits limits ⟨.ofPosition (String.ofList lexeme) kind p, lexeme, depth⟩ := by
  refine ⟨?_, room, shallow⟩
  change (String.ofList lexeme).length ≤ _
  rw [String.length_ofList]
  exact room

namespace Reading

def cons (piece : Piece) (reading : Reading) : Reading :=
  ⟨piece :: reading.pieces, reading.failure⟩

/-- The errors that may stop a machine in front of a reading. -/
inductive Stops (limits : ScanLimits) (fault : Option DecodeError) : Reading → ScanError → Prop where
  | refused {e : ScanError} : Stops limits fault ⟨[], some e⟩ e
  -- A construct in error may meet a limit before its error.
  | unread {e limit : ScanError} (exceeds : limit.exceedsLimit = true) :
      Stops limits fault ⟨[], some e⟩ limit
  -- A delimiter counts against the limit while it is taken, although it is not kept.
  | noRoom {reading : Reading} {p : Position} (none : limits.maxLexeme = 0) :
      Stops limits fault reading (.lexemeTooLong (limits.maxLexeme + 1) p)
  | tooLong {piece : Piece} {reading : Reading} {p : Position}
      (long : limits.maxLexeme < piece.raw.length) :
      Stops limits fault (reading.cons piece) (.lexemeTooLong (limits.maxLexeme + 1) p)
  | tooDeep {piece : Piece} {reading : Reading} {depth : Nat} {p : Position}
      (deep : limits.maxDepth < piece.depth) :
      Stops limits fault (reading.cons piece) (.nestedTooDeep depth p)
  | broken {reading : Reading} {e : DecodeError} {p : Position} (found : fault = some e) :
      Stops limits fault reading (Intake.decodeError e p)

/-- What a machine with limits makes of a reading. -/
inductive Follows (limits : ScanLimits) (fault : Option DecodeError) :
    Reading → List Token → Option ScanError → Prop where
  | stopped {reading : Reading} {e : ScanError} (stops : reading.Stops limits fault e) :
      Follows limits fault reading [] (some e)
  | ended (whole : fault = none) : Follows limits fault ⟨[], none⟩ [] none
  | token {piece : Piece} {reading : Reading} {tokens : List Token} {failure : Option ScanError}
      (fits : piece.Fits limits) (behind : Follows limits fault reading tokens failure) :
      Follows limits fault (reading.cons piece) (piece.token :: tokens) failure

variable {limits : ScanLimits} {fault : Option DecodeError} {reading : Reading}
  {tokens : List Token} {failure : Option ScanError}

/-- Within the limits nothing comes between a machine and the reading of a faultless text. -/
theorem Follows.eq_reading (follows : reading.Follows limits none tokens failure)
    (within : ∀ e, failure = some e → e.exceedsLimit = false) :
    tokens = reading.tokens ∧ failure = reading.failure := by
  -- All ways to stop but the error of the reading itself are excluded.
  induction follows with
  | stopped stops =>
    have unlimited := within _ rfl
    cases stops with
    | refused => exact ⟨rfl, rfl⟩
    | unread exceeds => rw [exceeds] at unlimited; cases unlimited
    | noRoom => cases unlimited
    | tooLong => cases unlimited
    | tooDeep => cases unlimited
    | broken found => cases found
  | ended => exact ⟨rfl, rfl⟩
  | token fits behind ih =>
    obtain ⟨tokens_eq, failure_eq⟩ := ih within
    exact ⟨congrArg _ tokens_eq, failure_eq⟩

/-- A machine that comes to the end has brought the whole reading, and had room for all of it. -/
theorem Follows.of_ended (follows : reading.Follows limits fault tokens none) :
    fault = none ∧ tokens = reading.tokens ∧ reading.failure = none ∧
      ∀ piece ∈ reading.pieces, piece.Fits limits := by
  generalize ending : (none : Option ScanError) = failure at follows
  induction follows with
  | stopped => cases ending
  | ended whole => exact ⟨whole, rfl, rfl, fun _ member => nomatch member⟩
  | token fits behind ih =>
    obtain ⟨whole, tokens_eq, failure_eq, others⟩ := ih ending
    refine ⟨whole, congrArg _ tokens_eq, failure_eq, ?_⟩
    intro piece member
    rcases List.mem_cons.mp member with rfl | behind
    · exact fits
    · exact others piece behind

theorem Follows.lexeme_le (follows : reading.Follows limits fault tokens failure) (token : Token)
    (member : token ∈ tokens) : token.lexeme.length ≤ limits.maxLexeme := by
  induction follows with
  | stopped => cases member
  | ended => cases member
  | token fits behind ih =>
    rcases List.mem_cons.mp member with rfl | behind
    · exact fits.lexeme_le
    · exact ih behind

/-- A reading that would end, at a depth there is room for, is left only for a lexeme that is too
long. -/
theorem Follows.of_failed {e : ScanError} (follows : reading.Follows limits none tokens (some e))
    (room : 0 < limits.maxLexeme) (ends : reading.failure = none)
    (shallow : ∀ piece ∈ reading.pieces, piece.depth ≤ limits.maxDepth) :
    (∃ p, e = .lexemeTooLong (limits.maxLexeme + 1) p) ∧ tokens <+: reading.tokens ∧
      ∃ piece ∈ reading.pieces, limits.maxLexeme < piece.raw.length := by
  generalize failing : some e = failure at follows
  -- Nothing but the limit on lexemes is left to stop the machine anywhere.
  induction follows with
  | stopped stops =>
    cases failing
    cases stops with
    | refused => cases ends
    | unread => cases ends
    | noRoom none => omega
    | tooLong long => exact ⟨⟨_, rfl⟩, List.nil_prefix, _, List.mem_cons_self, long⟩
    | tooDeep deep => exact absurd (shallow _ List.mem_cons_self) (Nat.not_le_of_lt deep)
    | broken found => cases found
  | ended => cases failing
  | token fits behind ih =>
    obtain ⟨error, begun, piece, member, long⟩ :=
      ih ends (fun piece member => shallow piece (List.mem_cons_of_mem _ member)) failing
    exact ⟨error, List.cons_prefix_cons.mpr ⟨rfl, begun⟩, piece, List.mem_cons_of_mem _ member, long⟩

end Reading

/-! ### Constructs in the middle of a reading -/

@[simp] theorem Construct.followedBy_cons (piece : Piece) (construct : Construct)
    (behind : Place → Reading) :
    (construct.cons piece).followedBy behind = (construct.followedBy behind).cons piece := by
  obtain ⟨pieces, _ | _⟩ := construct <;> rfl

/-- The frames of the open groups, given the closers of the groups. -/
def Groups (frames : List Frame) (closers : List Char) : Prop :=
  List.Forall₂ (fun frame closer => frame.closer = closer ∧
    frame.kind = if closer = ')' then FrameKind.paren else .bracket) frames closers

section

variable (limits : ScanLimits) (acceptReturn : Bool) (fault : Option DecodeError)

/-- A machine that stands at the place, between two constructs, follows the reading. -/
def Resumes (place : Place) (reading : Reading) : Prop :=
  ∀ ⦃r : Intake⦄ ⦃nesting : Nesting⦄ ⦃lexeme : List Char⦄ ⦃start : Position⦄,
    r.Stands ⟨place.rest, fault⟩ place.position lexeme start →
    Groups nesting.frames place.closers →
    Machine.Yields limits ⟨.dispatch, nesting, acceptReturn⟩ r (reading.Follows limits fault)

/-- A machine at the given phase follows the construct, and then whatever it follows from the place
behind the construct. -/
def Completes (phase : Phase) (nesting : Nesting) (r : Intake) (construct : Construct) : Prop :=
  ∀ behind : Place → Reading,
    (∀ next, construct.next = .ok next → Resumes limits acceptReturn fault next (behind next)) →
    Machine.Yields limits ⟨phase, nesting, acceptReturn⟩ r
      ((construct.followedBy behind).Follows limits fault)

end

variable {limits : ScanLimits} {acceptReturn : Bool} {fault : Option DecodeError}

/-- A step that emits nothing leaves the reading as it is. -/
theorem continues_silent {reading : Reading} {next : Phase} {nesting : Nesting} {r : Intake}
    (unfinished : next ≠ .finished)
    (yields : Machine.Yields limits ⟨next, nesting, acceptReturn⟩ r
      (reading.Follows limits fault)) :
    Machine.Continues limits acceptReturn (reading.Follows limits fault) (next, none)
      ⟨r, nesting⟩ :=
  ⟨unfinished, yields⟩

/-- An emitted token is the next one of the reading. -/
theorem continues_token {piece : Piece} {reading : Reading} {next : Phase} {nesting : Nesting}
    {r : Intake} (fits : piece.Fits limits) (others : piece.token.isEndOfStream = false)
    (yields : Machine.Yields limits ⟨next, nesting, acceptReturn⟩ r
      (reading.Follows limits fault)) :
    Machine.Continues limits acceptReturn ((reading.cons piece).Follows limits fault)
      (next, some piece.token) ⟨r, nesting⟩ := by
  obtain ⟨tokens, failure, trace, follows⟩ := yields
  simp only [Machine.Continues, others]
  exact ⟨tokens, failure, trace, .token fits follows⟩

end GrammarLex
