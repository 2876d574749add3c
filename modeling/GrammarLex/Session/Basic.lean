import GrammarLex.Journal.Notice
import GrammarLex.Scan.Machine
import GrammarLex.Session.Metrics
import GrammarLex.Token.Buffer

/-!
# Sessions

A session hands out the tokens of one text, one at a time. A token that is already buffered is
handed out from the buffer; only when the cursor has caught up is the text read on. The first error
stays: every later request that would have to read on is answered with it.

What a session wants to have logged it keeps in its journal until somebody collects it, so that
logging has no say in what a session answers.
-/
namespace GrammarLex

/-- The tokens of one text, as far as they have been asked for. -/
structure Session where
  intake : Intake
  machine : Machine
  preferences : LexicalPreferences
  buffer : TokenBuffer := {}
  metrics : Metrics := {}
  failure : Option ScanError := none
  -- The text has been looked at.
  started : Bool := false
  -- Iterating has come to its end.
  iterated : Bool := false
  -- Notices not yet collected, the latest first.
  journal : List Notice := []
  deriving Repr

namespace Session

/-- A request to a session. It may fail, and what it changed stays changed. -/
abbrev Action (α : Type) := EStateM ScanError Session α

def start (preferences : LexicalPreferences) (source : CharSource) : Session where
  intake := .ofSource source
  machine := .initial preferences.acceptCarriageReturn
  preferences := preferences

def position (s : Session) : Position := s.intake.position

def depth (s : Session) : Nat := s.machine.nesting.depth

def isFinished (s : Session) : Bool := s.buffer.finished

/-- The error of the session is noted with the span of one character, which does not fit its
words. -/
def spanOverflowed (s : Session) : Bool :=
  s.preferences.includePositionInErrors &&
    s.failure.any fun e => !decide (Span.single e.position).stop.Fits

/-- Some position, count or span computed so far does not fit its words. -/
def overflowed (s : Session) : Bool := s.intake.overflowed || s.spanOverflowed

def notices (s : Session) : List Notice := s.journal.reverse

/-- Forget the notices; they have been collected. -/
def clearJournal (s : Session) : Session := { s with journal := [] }

def note (notice : Notice) (s : Session) : Session := { s with journal := notice :: s.journal }

/-! ### What is noted -/

def startNotice (limits : ScanLimits) : Notice :=
  (Notice.debug "Starting lexical analysis")
    |>.detail "max_tokens_allowed" (toString limits.maxTokens)
    |>.detail "max_lexeme_length" (toString limits.maxLexeme)
    |>.detail "max_enclosure_depth" (toString limits.maxDepth)

def tokenNotice (token : Token) : Notice :=
  (Notice.debug "Token recognised")
    |>.detail "kind" token.kind.name
    |>.detail "lexeme" token.lexeme
    |>.detail "line" (toString token.line)
    |>.detail "column" (toString token.column)

/-- The notice of a construct that is still open at the end of the text, given the number of open
constructs. -/
def unclosedNotice (depth : Nat) (innermost : Frame) : Notice :=
  (Notice.coded Code.unclosedConstruct "Input ended inside an open construct")
    |>.detail "open_frames" (toString depth)
    |>.detail "expected_closer" innermost.closer.toString
    |>.detail "opened_at" innermost.openedAt.render

def completionNotice (metrics : Metrics) : Notice :=
  (Notice.success Code.scanComplete "Lexical analysis completed")
    |>.detail "total_tokens" (toString metrics.total)
    |>.detail "symbol_tokens" (toString metrics.symbol)
    |>.detail "operator_tokens" (toString metrics.operator)
    |>.detail "action_tokens" (toString metrics.action)
    |>.detail "max_enclosure_depth" (toString metrics.maxDepth)

/-- The notice of an error. It points at one character if positions are wanted. -/
def failureNotice (limits : ScanLimits) (preferences : LexicalPreferences) (scanned : Nat)
    (e : ScanError) : Notice :=
  let notice := (Notice.error e.code (e.message limits)).detail "tokens_scanned" (toString scanned)
  if preferences.includePositionInErrors then notice.about (.single e.position) else notice

/-! ### Requests -/

def begin (limits : ScanLimits) (s : Session) : Session :=
  if s.started then s else { s with started := true }.note (startNotice limits)

/-- Note the end of the text, and a construct left open there. -/
def finish (s : Session) : Session :=
  let s := match s.machine.nesting.top? with
    | some frame => s.note (unclosedNotice s.depth frame)
    | none => s
  s.note (completionNotice s.metrics)

def fail (limits : ScanLimits) (e : ScanError) (s : Session) : Session :=
  { s.note (failureNotice limits s.preferences s.buffer.size e) with failure := some e }

def refusalError (p : Position) : BufferRefusal → ScanError
  | .tooManyTokens count => .tooManyTokens count p
  | .alreadyFinished _ => .unexpected .endOfInput "no token after end of stream" p

def acknowledge (token : Token) (s : Session) : Session :=
  let s := { s with metrics := s.metrics.recordToken s.preferences token }
  let s := if s.preferences.logTokenEvents then s.note (tokenNotice token) else s
  if token.isEndOfStream then s.finish else s

/-- Append a recognised token to the buffer and hand it out, unless the buffer refuses it. -/
def commit (limits : ScanLimits) (token : Token) : Action (Option Token) := fun s =>
  match s.buffer.refusal? limits.maxTokens token with
  | some refusal =>
    let e := refusalError s.position refusal
    .error e (s.fail limits e)
  | none =>
    -- The token is counted and noted before it is handed out: a note tells the counts with it.
    let s := { s with buffer := s.buffer.append token }.acknowledge token
    .ok (some token) { s with buffer := s.buffer.advance.2 }

def scan (limits : ScanLimits) : Action (Option Token) := fun s =>
  let s := s.begin limits
  match s.machine.run limits s.intake s.metrics.maxDepth with
  | ⟨⟨outcome, machine, intake⟩, peak⟩ =>
    let s := { s with machine, intake, metrics := s.metrics.recordPeak s.preferences peak }
    match outcome with
    | .ok (some token) => commit limits token s
    -- Only a machine that was finished before has no token for the session.
    | .ok none => .ok none s
    | .error e => .error e (s.fail limits e)

/-- The next token; `none` behind the end marker. -/
def next (limits : ScanLimits) : Action (Option Token) := fun s =>
  match s.buffer.advance with
  | (some token, buffer) => .ok (some token) { s with buffer, metrics := s.metrics.recordReplay }
  | (none, _) =>
    -- Behind the end marker there is nothing, whatever happened on the way to it.
    if s.isFinished then .ok none s
    else match s.failure with
      | some e => .error e s
      | none => scan limits s

def mark (s : Session) : Mark := s.buffer.mark

def reset (m : Mark) (s : Session) : Session := { s with buffer := s.buffer.reset m }

/-- The next token, without moving on. Looking ahead is no replay. -/
def peek (limits : ScanLimits) : Action (Option Token) := fun s =>
  let m := s.mark
  let replayed := s.metrics.replayed
  let goBack (s : Session) : Session :=
    { s with buffer := s.buffer.reset m, metrics := { s.metrics with replayed } }
  match next limits s with
  | .ok token s => .ok token (goBack s)
  | .error e s => .error e (goBack s)

/-- The next item of an iteration: a token, or the error that ends it. An iteration that has ended
stays ended. -/
def iterate (limits : ScanLimits) (s : Session) : Option (Except ScanError Token) × Session :=
  if s.iterated then (none, s)
  else match next limits s with
    | .ok (some token) s => (some (.ok token), s)
    | .ok none s => (none, { s with iterated := true })
    | .error e s => (some (.error e), { s with iterated := true })

end Session

end GrammarLex
