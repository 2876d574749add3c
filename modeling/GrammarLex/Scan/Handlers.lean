import GrammarLex.Scan.Intake
import GrammarLex.Scan.Nesting
import GrammarLex.Scan.Phase
import GrammarLex.Token.Basic
import GrammarLex.Unicode.Alphanumeric
import GrammarLex.Unicode.Blank

/-!
# Handlers

One handler per phase. A handler consumes characters, opens or closes constructs, emits at most one
token and names the next phase. What it changed stays changed when it fails.
-/
namespace GrammarLex

/-- What handlers work on: the characters and the open constructs. -/
structure Scan where
  -- The characters still to come and the lexeme being collected.
  intake : Intake
  nesting : Nesting
  deriving Repr

namespace Scan

abbrev Action (α : Type) := EStateM ScanError Scan α

/-- The next phase, and the token emitted on the way. -/
abbrev Outcome := Phase × Option Token

def onIntake {α : Type} (action : Intake.Action α) : Action α := fun s =>
  match s with
  | ⟨intake, nesting⟩ =>
    match action intake with
    | .ok a intake => .ok a ⟨intake, nesting⟩
    | .error e intake => .error e ⟨intake, nesting⟩

instance : MonadLift Intake.Action Action := ⟨onIntake⟩

/-- Replace the open constructs by what a computation makes of them, unless it fails. -/
def renest (f : Nesting → Except ScanError Nesting) : Action Unit := fun s =>
  match s with
  | ⟨intake, nesting⟩ =>
    match f nesting with
    | .ok nesting => .ok () ⟨intake, nesting⟩
    | .error e => .error e ⟨intake, nesting⟩

def position : Action Position := do return (← get).intake.position

def top? : Action (Option Frame) := do return (← get).nesting.top?

def popFrame : Action Unit := modify fun s => { s with nesting := s.nesting.pop }

/-- A token of everything collected, at the place where the token being collected started. -/
def emit (kind : TokenKind) : Action Token := do
  let start := (← get).intake.tokenStart
  return .ofPosition (← Intake.takeLexeme) kind start

variable (limits : ScanLimits)

/-- Collect the expected character, or say what was there instead. The words for what is expected
may be given. -/
def expect (c : Char) (words : String := "'" ++ c.toString ++ "'") : Action Unit := do
  let here ← position
  let next ← Intake.peek
  if next = some c then
    let _ ← Intake.bump limits
  else
    throw (.unexpected (.ofNext next) words here)

/-- Collect whatever character is next; the end of the input is an error. -/
def expectAny (words : String) : Action Char := do
  let here ← position
  match ← Intake.bump limits with
  | some c => return c
  | none => throw (.unexpected .endOfInput words here)

/-- Collect the next character, whatever it is, as a token of its own. -/
def single (kind : TokenKind) : Action Outcome := do
  let _ ← Intake.bump limits
  return (.dispatch, some (← emit kind))

/-- Select the handler for the next character; at the end of the input emit the end marker. -/
def dispatch (acceptReturn : Bool) : Action Outcome := do
  Intake.clear
  match ← Intake.peek with
  | none => return (.finished, some (.ofPosition "" .endOfStream (← position)))
  | some c => return (.ofLookahead acceptReturn c, none)

def whitespace (acceptReturn : Bool) : Action Outcome := do
  let _ ← Intake.skipWhile (isSeparator acceptReturn)
  Intake.clear
  return (.dispatch, none)

/-- Two exclamation marks end a rule, one negates. -/
def endOfRule : Action Outcome := do
  expect limits '!'
  if ← Intake.peekIs '!' then
    let _ ← Intake.bump limits
    return (.dispatch, some (← emit .endOfRule))
  else
    return (.dispatch, some (← emit .not))

def productionRuleOp : Action Outcome := do
  expect limits ':' "'::='"
  expect limits ':' "'::='"
  expect limits '=' "'::='"
  return (.dispatch, some (← emit .productionRuleOp))

def moreDots : Nat → Action Unit
  | 0 => return ()
  | count + 1 => do
    if ← Intake.peekIs '.' then
      let _ ← Intake.bump limits
      moreDots count

def sequence : Action Outcome := do
  expect limits '.'
  moreDots limits 2
  return (.dispatch, some (← emit .sequence))

/-- Open a quoted or angle-bracketed text. The token will start at the opening delimiter, which is
not part of the lexeme. -/
def openEnclosure : Action Outcome := do
  let start ← position
  let opener ← expectAny limits "'<' or quote"
  renest (·.openWith limits opener start)
  Intake.clear
  Intake.markStart start
  return (.scanEnclosed, none)

/-- Collect the text up to the innermost closer or the end of the input. -/
def scanEnclosed : Action Outcome := do
  match ← top? with
  | none => return (.dispatch, none)
  | some frame =>
    let _ ← Intake.bumpUntil limits frame.closer
    let kind := if frame.kind = .nonTerminal then TokenKind.nonTerminalSymbol else .terminalSymbol
    return (.closeEnclosure, some (← emit kind))

/-- Drop the innermost construct and collect its closer, if that comes next. -/
def closeInnermost : Action Unit := do
  match ← top? with
  | none => return ()
  | some frame =>
    popFrame
    if (← Intake.peek) = some frame.closer then
      let _ ← Intake.bump limits

/-- Consume the closer of the text just collected, if it is there. -/
def closeEnclosure : Action Outcome := do
  closeInnermost limits
  Intake.clear
  return (.dispatch, none)

def openGroup : Action Outcome := do
  let start ← position
  let opener ← expectAny limits "'(' or '['"
  renest (·.openWith limits opener start)
  let bracket := (← top?).any fun frame => frame.kind = .bracket
  return (.dispatch, some (← emit (if bracket then .bracketLeft else .parenLeft)))

/-- Close a group. With no group open the delimiter is plain punctuation. -/
def closeGroup : Action Outcome := do
  let here ← position
  match ← Intake.peek with
  | none => return (.dispatch, none)
  | some closer =>
    match (← get).nesting.closeGroup closer here with
    | .ok (frame, nesting) =>
      modify fun s => { s with nesting := nesting }
      let _ ← Intake.bump limits
      let kind := if frame.kind = .bracket then TokenKind.bracketRight else .parenRight
      return (.dispatch, some (← emit kind))
    | .error e => if e.isSoft then return (.bareTerminal, none) else throw e

def actionOpen : Action Outcome := do
  let start ← position
  expect limits '{'
  renest (·.openWith limits '{' start)
  Intake.clear
  return (.actionName, none)

/-- The name of an action reaches to the opening parenthesis; white space around it is dropped. -/
def actionName (acceptReturn : Bool) : Action Outcome := do
  let _ ← Intake.skipWhile (isSeparator acceptReturn)
  Intake.clear
  let _ ← Intake.bumpWhile limits fun c => c != '(' && c != '}'
  let here ← position
  match ← Intake.peek with
  | some '(' =>
    let start := (← get).intake.tokenStart
    let name := Unicode.trimEnd (← Intake.takeLexeme)
    if name.isEmpty then
      throw (.unexpected (.char '(') "action name" here)
    else
      let _ ← Intake.bump limits
      Intake.clear
      return (.actionArgs, some (.ofPosition name .action start))
  | next => throw (.unexpected (.ofNext next) "'('" here)

/-- One argument of an action, or the parenthesis behind the last. Commas and white space separate
arguments, in any number. -/
def actionArgs (acceptReturn : Bool) : Action Outcome := do
  let _ ← Intake.skipWhile fun c => c == ',' || isSeparator acceptReturn c
  Intake.clear
  match ← Intake.peek with
  | none => throw (.unexpected .endOfInput "')'" (← position))
  | some ')' =>
    let _ ← Intake.bump limits
    Intake.clear
    return (.actionClose, none)
  | some _ =>
    let _ ← Intake.bumpWhile limits fun c => c != ')' && c != ',' && !isSeparator acceptReturn c
    return (.actionArgs, some (← emit .actionArg))

/-- Collect the brace that ends an action. The end of the input stands for it as well. -/
def closingBrace : Action Unit := do
  match ← Intake.peek with
  | some '}' => let _ ← Intake.bump limits
  | none => return ()
  | some c => throw (.unexpected (.char c) "'\x7d'" (← position))

def actionClose (acceptReturn : Bool) : Action Outcome := do
  let _ ← Intake.skipWhile (isSeparator acceptReturn)
  closingBrace limits
  popFrame
  Intake.clear
  return (.dispatch, none)

/-- A word of letters and digits, or one character that can be seen. -/
def bareTerminal : Action Outcome := do
  let here ← position
  match ← Intake.peek with
  | none => return (.dispatch, none)
  | some c =>
    if Unicode.isAlphanumeric c then
      let _ ← Intake.bumpWhile limits Unicode.isAlphanumeric
      return (.dispatch, some (← emit .terminalSymbol))
    else if !Unicode.isBlank c && !Unicode.isControl c then
      let _ ← Intake.bump limits
      return (.dispatch, some (← emit .terminalSymbol))
    else
      throw (.unexpected (.char c) "grammar symbol" here)

def handler (acceptReturn : Bool) : Phase → Action Outcome
  | .dispatch => dispatch acceptReturn
  | .whitespace => whitespace acceptReturn
  | .endOfRule => endOfRule limits
  | .productionRuleOp => productionRuleOp limits
  | .or => single limits .or
  | .assign => single limits .assign
  | .and => single limits .and
  | .sequence => sequence limits
  | .openEnclosure => openEnclosure limits
  | .scanEnclosed => scanEnclosed limits
  | .closeEnclosure => closeEnclosure limits
  | .openGroup => openGroup limits
  | .closeGroup => closeGroup limits
  | .actionOpen => actionOpen limits
  | .actionName => actionName limits acceptReturn
  | .actionArgs => actionArgs limits acceptReturn
  | .actionClose => actionClose limits acceptReturn
  | .bareTerminal => bareTerminal limits
  | .finished => return (.finished, none)

end Scan

end GrammarLex
