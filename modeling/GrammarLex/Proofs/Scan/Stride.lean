import GrammarLex.Proofs.Reading.Basic
import GrammarLex.Proofs.Text.Contents
import GrammarLex.Scan.Nesting
import GrammarLex.Settings.Limits
import Mathlib.Data.List.DropRight

/-!
# Strides

What one handler does, as a function of the characters in front of it. A stride says which characters
are passed, which are taken behind them, how many count against the limit on lexemes, and where this
leads or what stops it. It knows neither positions nor limits: a spot, which knows where it is and
which constructs are open, adds them. So two runs that go over different texts can be compared stride
by stride.
-/
namespace GrammarLex

/-- What a handler does to the open constructs. -/
inductive Turn where
  | stay
  | opens (opener : Char)
  -- The innermost construct is dropped.
  | closes
  deriving DecidableEq

/-- What stops a handler, the place left aside. -/
inductive Obstacle where
  | unexpected (found : Found) (expected : String)
  | mismatched (expected found : Char)
  -- The source breaks.
  | broken (e : DecodeError)
  deriving DecidableEq

def Obstacle.error (p : Position) : Obstacle → ScanError
  | .unexpected found expected => .unexpected found expected p
  | .mismatched expected found => .mismatched expected found p
  | .broken e => .decode e.message p

/-- Where a handler leads that nothing stops. -/
structure Landing where
  next : Phase
  -- The kind of the token, and the characters of its lexeme.
  token : Option (TokenKind × List Char) := none
  turn : Turn := .stay
  deriving DecidableEq

structure Stride where
  -- The characters passed before a token may start.
  front : List Char := []
  -- The characters taken from there.
  body : List Char := []
  rest : List Char
  -- How many characters count against the limit on lexemes.
  counted : Nat := 0
  landing : Except Obstacle Landing

namespace Stride

/-- Everything that is taken off the text. -/
def used (stride : Stride) : List Char := stride.front ++ stride.body

/-- A token that is its lexeme. -/
def token (kind : TokenKind) (lexeme rest : List Char) : Stride where
  body := lexeme
  rest := rest
  counted := lexeme.length
  landing := .ok { next := .dispatch, token := some (kind, lexeme) }

/-- Behind the characters something else is required. -/
def refused (words : String) (body rest : List Char) : Stride where
  body := body
  rest := rest
  counted := body.length
  landing := .error (.unexpected (.ofNext rest.head?) words)

/-- Nothing is taken. -/
def still (next : Phase) (chars : List Char) : Stride where
  rest := chars
  landing := .ok { next := next }

/-- An opening delimiter is taken. -/
def opening (next : Phase) (opener : Char) (token : Option (TokenKind × List Char))
    (rest : List Char) : Stride where
  body := [opener]
  rest := rest
  counted := 1
  landing := .ok { next := next, token := token, turn := .opens opener }

variable (acceptReturn : Bool) (fault : Option DecodeError)

/-- The handler looks at the character behind what it has taken. If there is none, the source may
break. -/
def facing (stride : Stride) : Stride :=
  match stride.rest, fault with
  | [], some e => { stride with landing := .error (.broken e) }
  | _, _ => stride

/-! ### The handlers -/

def dispatch : List Char → Stride
  | [] =>
    facing fault { rest := [], landing := .ok { next := .finished, token := some (.endOfStream, []) } }
  | c :: rest => still (.ofLookahead acceptReturn c) (c :: rest)

def whitespace (chars : List Char) : Stride :=
  facing fault
    { body := chars.takeWhile (isSeparator acceptReturn)
      rest := chars.dropWhile (isSeparator acceptReturn)
      landing := .ok { next := .dispatch } }

def exclamation (c : Char) : List Char → Stride
  | '!' :: rest => token .endOfRule [c, '!'] rest
  | rest => facing fault (token .not [c] rest)

def productionRule (c : Char) : List Char → Stride
  | ':' :: '=' :: rest => token .productionRuleOp [c, ':', '='] rest
  | ':' :: rest => facing fault (refused "'::='" [c, ':'] rest)
  | rest => facing fault (refused "'::='" [c] rest)

def dots (c : Char) : List Char → Stride
  | '.' :: '.' :: rest => token .sequence [c, '.', '.'] rest
  | '.' :: rest => facing fault (token .sequence [c, '.'] rest)
  | rest => facing fault (token .sequence [c] rest)

/-- The text up to a closer. -/
def enclosed (kind : FrameKind) (closer : Char) (chars : List Char) : Stride :=
  let body := chars.takeWhile (· != closer)
  let symbol := if kind = .nonTerminal then TokenKind.nonTerminalSymbol else .terminalSymbol
  facing fault
    { body, rest := chars.dropWhile (· != closer), counted := body.length
      landing := .ok { next := .closeEnclosure, token := some (symbol, body) } }

/-- The closer behind the text. At the end of the text it may be missing. -/
def enclosureEnd (closer : Char) : List Char → Stride
  | [] => facing fault { rest := [], landing := .ok { next := .dispatch, turn := .closes } }
  | c :: rest =>
    if c = closer then
      { body := [c], rest, counted := 1, landing := .ok { next := .dispatch, turn := .closes } }
    else { rest := c :: rest, landing := .ok { next := .dispatch, turn := .closes } }

def groupOpener (c : Char) (rest : List Char) : Stride :=
  let kind := if FrameKind.ofOpener? c = some .bracket then TokenKind.bracketLeft else .parenLeft
  opening .dispatch c (some (kind, [c])) rest

/-- The closing delimiter of a group. If the innermost construct is no group it is read as plain
punctuation. -/
def groupEnd (top : Option (FrameKind × Char)) (c : Char) (rest : List Char) : Stride :=
  match top with
  | none => still .bareTerminal (c :: rest)
  | some (kind, closer) =>
    if kind.isGroup then
      if closer = c then
        let symbol := if kind = .bracket then TokenKind.bracketRight else .parenRight
        { token symbol [c] rest with
          landing := .ok { next := .dispatch, token := some (symbol, [c]), turn := .closes } }
      else { rest := c :: rest, landing := .error (.mismatched closer c) }
    else still .bareTerminal (c :: rest)

/-- The name of an action behind white space. -/
def named (front behind : List Char) : Stride :=
  let raw := behind.takeWhile Place.isNameChar
  match behind.dropWhile Place.isNameChar with
  | '(' :: rest =>
    let name := raw.rdropWhile Unicode.isBlank
    if name = [] then { refused "action name" raw ('(' :: rest) with front }
    else
      { front, body := raw ++ ['('], rest, counted := raw.length
        landing := .ok { next := .actionArgs, token := some (.action, name) } }
  | rest => facing fault { refused "'('" raw rest with front }

def actionName (chars : List Char) : Stride :=
  named fault (chars.takeWhile (isSeparator acceptReturn)) (chars.dropWhile (isSeparator acceptReturn))

/-- An argument behind separators, or the parenthesis behind the last. -/
def argued (front behind : List Char) : Stride :=
  match behind with
  | [] => facing fault { refused "')'" [] [] with front }
  | ')' :: rest =>
    { front, body := [')'], rest, counted := 1, landing := .ok { next := .actionClose } }
  | behind =>
    let argument := behind.takeWhile (Place.isArgumentChar acceptReturn)
    facing fault
      { front, body := argument, rest := behind.dropWhile (Place.isArgumentChar acceptReturn)
        counted := argument.length
        landing := .ok { next := .actionArgs, token := some (.actionArg, argument) } }

def actionArgs (chars : List Char) : Stride :=
  argued acceptReturn fault (chars.takeWhile (Place.isArgumentSeparator acceptReturn))
    (chars.dropWhile (Place.isArgumentSeparator acceptReturn))

/-- The brace that ends an action, behind white space. The end of the text stands for it as well. -/
def braced (spaces : List Char) : List Char → Stride
  | [] =>
    facing fault { body := spaces, rest := [], landing := .ok { next := .dispatch, turn := .closes } }
  | c :: rest =>
    if c = '\x7d' then
      { body := spaces ++ [c], rest, counted := 1
        landing := .ok { next := .dispatch, turn := .closes } }
    else
      { body := spaces, rest := c :: rest, landing := .error (.unexpected (.char c) "'\x7d'") }

def actionEnd (chars : List Char) : Stride :=
  braced fault (chars.takeWhile (isSeparator acceptReturn)) (chars.dropWhile (isSeparator acceptReturn))

/-- A word of letters and digits, or one character that can be seen. -/
def word (c : Char) (rest : List Char) : Stride :=
  if Unicode.isAlphanumeric c then
    facing fault (token .terminalSymbol (c :: rest.takeWhile Unicode.isAlphanumeric)
      (rest.dropWhile Unicode.isAlphanumeric))
  else if Unicode.isBlank c || Unicode.isControl c then
    { rest := c :: rest, landing := .error (.unexpected (.char c) "grammar symbol") }
  else token .terminalSymbol [c] rest

/-! ### Cases -/

section

variable {acceptReturn} {fault} {c : Char} {rest : List Char} {stride : Stride}

theorem facing_cases (fault : Option DecodeError) (stride : Stride) :
    facing fault stride = stride ∨
      ∃ e, facing fault stride = { stride with landing := .error (.broken e) } := by
  unfold facing
  split
  · exact .inr ⟨_, rfl⟩
  · exact .inl rfl

@[simp] theorem facing_front : (facing fault stride).front = stride.front := by
  rcases facing_cases fault stride with same | ⟨e, same⟩ <;> rw [same]

@[simp] theorem facing_body : (facing fault stride).body = stride.body := by
  rcases facing_cases fault stride with same | ⟨e, same⟩ <;> rw [same]

@[simp] theorem facing_rest : (facing fault stride).rest = stride.rest := by
  rcases facing_cases fault stride with same | ⟨e, same⟩ <;> rw [same]

@[simp] theorem facing_counted : (facing fault stride).counted = stride.counted := by
  rcases facing_cases fault stride with same | ⟨e, same⟩ <;> rw [same]

theorem facing_of_whole (whole : stride.rest = [] → fault = none) : facing fault stride = stride := by
  unfold facing
  split
  · simp_all
  · rfl

theorem facing_of_broken {e : DecodeError} (empty : stride.rest = []) (broken : fault = some e) :
    facing fault stride = { stride with landing := .error (.broken e) } := by
  simp only [facing, empty, broken]

theorem exclamation_of_other (other : rest.head? ≠ some '!') :
    exclamation fault c rest = facing fault (token .not [c] rest) := by
  unfold exclamation
  split
  next => exact absurd rfl other
  next => rfl

theorem productionRule_of_ne_colon (other : rest.head? ≠ some ':') :
    productionRule fault c rest = facing fault (refused "'::='" [c] rest) := by
  unfold productionRule
  split
  next => exact absurd rfl other
  next => exact absurd rfl other
  next => rfl

theorem productionRule_of_ne_equals (other : rest.head? ≠ some '=') :
    productionRule fault c (':' :: rest) = facing fault (refused "'::='" [c, ':'] rest) := by
  unfold productionRule
  split
  next same => cases same; exact absurd rfl other
  next same => cases same; rfl
  next none => exact absurd rfl (none rest)

theorem dots_of_other (other : rest.head? ≠ some '.') :
    dots fault c rest = facing fault (token .sequence [c] rest) := by
  unfold dots
  split
  next => exact absurd rfl other
  next => exact absurd rfl other
  next => rfl

theorem dots_of_dot (other : rest.head? ≠ some '.') :
    dots fault c ('.' :: rest) = facing fault (token .sequence [c, '.'] rest) := by
  unfold dots
  split
  next same => cases same; exact absurd rfl other
  next same => cases same; rfl
  next none => exact absurd rfl (none rest)

theorem enclosureEnd_of_other {closer : Char} {chars : List Char} (other : chars.head? ≠ some closer) :
    enclosureEnd fault closer chars =
      facing fault { rest := chars, landing := .ok { next := .dispatch, turn := .closes } } := by
  cases chars with
  | nil => rfl
  | cons c rest =>
    have different : c ≠ closer := by simpa using other
    rw [enclosureEnd, if_neg different]
    rfl

variable {front behind : List Char}

theorem named_front : (named fault front behind).front = front := by
  unfold named
  split
  · dsimp only
    split <;> rfl
  · rw [facing_front]

theorem named_counted :
    (named fault front behind).counted = (behind.takeWhile Place.isNameChar).length := by
  unfold named
  split
  · dsimp only
    split <;> rfl
  · rw [facing_counted]
    rfl

theorem named_of_other (other : (behind.dropWhile Place.isNameChar).head? ≠ some '(') :
    named fault front behind = facing fault { refused "'('" (behind.takeWhile Place.isNameChar)
      (behind.dropWhile Place.isNameChar) with front } := by
  unfold named
  split
  next left => rw [left] at other; exact absurd rfl other
  next => rfl

theorem argued_of_other (other : c ≠ ')') :
    argued acceptReturn fault front (c :: rest) = facing fault
      { front
        body := (c :: rest).takeWhile (Place.isArgumentChar acceptReturn)
        rest := (c :: rest).dropWhile (Place.isArgumentChar acceptReturn)
        counted := ((c :: rest).takeWhile (Place.isArgumentChar acceptReturn)).length
        landing := .ok { next := .actionArgs
                         token := some (.actionArg,
                           (c :: rest).takeWhile (Place.isArgumentChar acceptReturn)) } } := by
  unfold argued
  split
  next none => cases none
  next round => cases round; exact absurd rfl other
  next => rfl

end

end Stride

/-- What the handler of a phase does, with the kind and the closer of the innermost construct. A phase
that a character selects has one in front of it. -/
def Phase.stride (acceptReturn : Bool) (fault : Option DecodeError) (top : Option (FrameKind × Char)) :
    Phase → List Char → Stride
  | .dispatch, chars => .dispatch acceptReturn fault chars
  | .whitespace, chars => .whitespace acceptReturn fault chars
  | .scanEnclosed, chars => match top with
    | some (kind, closer) => .enclosed fault kind closer chars
    | none => .still .dispatch chars
  | .closeEnclosure, chars => match top with
    | some (_, closer) => .enclosureEnd fault closer chars
    | none => .still .dispatch chars
  | .actionName, chars => .actionName acceptReturn fault chars
  | .actionArgs, chars => .actionArgs acceptReturn fault chars
  | .actionClose, chars => .actionEnd acceptReturn fault chars
  | .finished, chars => .still .finished chars
  | .endOfRule, c :: rest => .exclamation fault c rest
  | .productionRuleOp, c :: rest => .productionRule fault c rest
  | .or, c :: rest => .token .or [c] rest
  | .assign, c :: rest => .token .assign [c] rest
  | .and, c :: rest => .token .and [c] rest
  | .sequence, c :: rest => .dots fault c rest
  | .openEnclosure, c :: rest => .opening .scanEnclosed c none rest
  | .openGroup, c :: rest => .groupOpener c rest
  | .closeGroup, c :: rest => .groupEnd top c rest
  | .actionOpen, c :: rest => .opening .actionName c none rest
  | .bareTerminal, c :: rest => .word fault c rest
  | _, [] => .still .dispatch []

/-! ### Nothing of the text is lost -/

namespace Stride

/-- What opens a construct on landing. -/
def opener? (stride : Stride) : Option Char :=
  match stride.landing with
  | .ok ⟨_, _, .opens opener⟩ => some opener
  | _ => none

/-- What a stride takes and what it leaves are the text, and it opens nothing. -/
structure Plain (stride : Stride) (chars : List Char) : Prop where
  whole : stride.used ++ stride.rest = chars
  opens_none : stride.opener? = none

variable {acceptReturn : Bool} {fault : Option DecodeError} {chars : List Char} {stride : Stride}

theorem Plain.facing (plain : stride.Plain chars) : (facing fault stride).Plain chars := by
  constructor
  · simpa only [used, facing_front, facing_body, facing_rest] using plain.whole
  · rcases facing_cases fault stride with same | ⟨e, same⟩
    · rw [same]
      exact plain.opens_none
    · rw [same]
      rfl

theorem Plain.of_separated {keep : Char → Bool}
    (plain : stride.Plain (chars.takeWhile keep ++ chars.dropWhile keep)) : stride.Plain chars := by
  rwa [List.takeWhile_append_dropWhile] at plain

theorem dispatch_plain (chars : List Char) : (dispatch acceptReturn fault chars).Plain chars := by
  cases chars with
  | nil => exact Plain.facing ⟨rfl, rfl⟩
  | cons c rest => exact ⟨rfl, rfl⟩

theorem exclamation_plain (c : Char) (rest : List Char) :
    (exclamation fault c rest).Plain (c :: rest) := by
  unfold exclamation
  split
  · exact ⟨rfl, rfl⟩
  · exact Plain.facing ⟨rfl, rfl⟩

theorem productionRule_plain (c : Char) (rest : List Char) :
    (productionRule fault c rest).Plain (c :: rest) := by
  unfold productionRule
  split
  · exact ⟨rfl, rfl⟩
  · exact Plain.facing ⟨rfl, rfl⟩
  · exact Plain.facing ⟨rfl, rfl⟩

theorem dots_plain (c : Char) (rest : List Char) : (dots fault c rest).Plain (c :: rest) := by
  unfold dots
  split
  · exact ⟨rfl, rfl⟩
  · exact Plain.facing ⟨rfl, rfl⟩
  · exact Plain.facing ⟨rfl, rfl⟩

theorem enclosureEnd_plain (closer : Char) (chars : List Char) :
    (enclosureEnd fault closer chars).Plain chars := by
  cases chars with
  | nil => exact Plain.facing ⟨rfl, rfl⟩
  | cons c rest =>
    rw [enclosureEnd]
    split <;> exact ⟨rfl, rfl⟩

theorem groupEnd_plain (top : Option (FrameKind × Char)) (c : Char) (rest : List Char) :
    (groupEnd top c rest).Plain (c :: rest) := by
  unfold groupEnd
  split
  · exact ⟨rfl, rfl⟩
  · split
    · split <;> exact ⟨rfl, rfl⟩
    · exact ⟨rfl, rfl⟩

theorem word_plain (c : Char) (rest : List Char) : (word fault c rest).Plain (c :: rest) := by
  unfold word
  split
  · exact Plain.facing ⟨congrArg (c :: ·) List.takeWhile_append_dropWhile, rfl⟩
  · split <;> exact ⟨rfl, rfl⟩

theorem named_plain (front behind : List Char) :
    (named fault front behind).Plain (front ++ behind) := by
  have whole : behind.takeWhile Place.isNameChar ++ behind.dropWhile Place.isNameChar = behind :=
    List.takeWhile_append_dropWhile
  unfold named
  split
  next rest left =>
    rw [left] at whole
    dsimp only
    split
    · refine ⟨?_, rfl⟩
      rw [used, List.append_assoc]
      exact congrArg (front ++ ·) whole
    · refine ⟨?_, rfl⟩
      rw [used, List.append_assoc, List.append_assoc]
      exact congrArg (front ++ ·) whole
  next =>
    refine Plain.facing ⟨?_, rfl⟩
    rw [used, List.append_assoc]
    exact congrArg (front ++ ·) whole

theorem argued_plain (front behind : List Char) :
    (argued acceptReturn fault front behind).Plain (front ++ behind) := by
  unfold argued
  split
  · refine Plain.facing ⟨?_, rfl⟩
    rw [used, List.append_assoc]
    rfl
  · refine ⟨?_, rfl⟩
    rw [used, List.append_assoc]
    rfl
  · refine Plain.facing ⟨?_, rfl⟩
    rw [used, List.append_assoc]
    exact congrArg (front ++ ·) List.takeWhile_append_dropWhile

theorem braced_plain (spaces behind : List Char) :
    (braced fault spaces behind).Plain (spaces ++ behind) := by
  cases behind with
  | nil => exact Plain.facing ⟨rfl, rfl⟩
  | cons c rest =>
    rw [braced]
    split
    · refine ⟨?_, rfl⟩
      rw [used, List.nil_append, List.append_assoc]
      rfl
    · exact ⟨rfl, rfl⟩

end Stride

/-- The phases whose handlers open a construct. -/
def Phase.isOpening : Phase → Bool
  | .openEnclosure | .openGroup | .actionOpen => true
  | _ => false

theorem Phase.stride_plain (acceptReturn : Bool) (fault : Option DecodeError)
    (top : Option (FrameKind × Char)) {phase : Phase} (other : phase.isOpening = false)
    (chars : List Char) : (phase.stride acceptReturn fault top chars).Plain chars := by
  have separated (keep : Char → Bool) : chars.takeWhile keep ++ chars.dropWhile keep = chars :=
    List.takeWhile_append_dropWhile
  cases phase with
  | dispatch => exact Stride.dispatch_plain chars
  | whitespace => exact Stride.Plain.facing ⟨separated _, rfl⟩
  | scanEnclosed =>
    cases top with
    | none => exact ⟨rfl, rfl⟩
    | some top => exact Stride.Plain.facing ⟨separated _, rfl⟩
  | closeEnclosure =>
    cases top with
    | none => exact ⟨rfl, rfl⟩
    | some top => exact Stride.enclosureEnd_plain top.2 chars
  | actionName => exact .of_separated (Stride.named_plain _ _)
  | actionArgs => exact .of_separated (Stride.argued_plain _ _)
  | actionClose => exact .of_separated (Stride.braced_plain _ _)
  | finished => exact ⟨rfl, rfl⟩
  | endOfRule =>
    cases chars with
    | nil => exact ⟨rfl, rfl⟩
    | cons c rest => exact Stride.exclamation_plain c rest
  | productionRuleOp =>
    cases chars with
    | nil => exact ⟨rfl, rfl⟩
    | cons c rest => exact Stride.productionRule_plain c rest
  | sequence =>
    cases chars with
    | nil => exact ⟨rfl, rfl⟩
    | cons c rest => exact Stride.dots_plain c rest
  | closeGroup =>
    cases chars with
    | nil => exact ⟨rfl, rfl⟩
    | cons c rest => exact Stride.groupEnd_plain top c rest
  | bareTerminal =>
    cases chars with
    | nil => exact ⟨rfl, rfl⟩
    | cons c rest => exact Stride.word_plain c rest
  | or | assign | and => cases chars <;> exact ⟨rfl, rfl⟩
  | openEnclosure | openGroup | actionOpen => cases other

/-- Everything that a handler takes and leaves is the text in front of it. -/
theorem Phase.stride_whole (acceptReturn : Bool) (fault : Option DecodeError)
    (top : Option (FrameKind × Char)) (phase : Phase) (chars : List Char) :
    (phase.stride acceptReturn fault top chars).used ++
      (phase.stride acceptReturn fault top chars).rest = chars := by
  cases opening : phase.isOpening with
  | false => exact (stride_plain acceptReturn fault top opening chars).whole
  | true =>
    cases phase with
    | openEnclosure | openGroup | actionOpen => cases chars <;> rfl
    | _ => cases opening

/-! ### Spots -/

/-- What a turn makes of the open constructs. -/
def Turn.apply (limits : ScanLimits) (p : Position) (frames : List Frame) :
    Turn → Except ScanError (List Frame)
  | .stay => .ok frames
  | .opens opener => (Nesting.openWith limits opener p ⟨frames, 0⟩).map Nesting.frames
  | .closes => .ok frames.tail

/-- Where a machine is, in front of what is left of a text. -/
structure Spot where
  phase : Phase := .dispatch
  -- Open constructs, innermost first.
  frames : List Frame := []
  left : Contents
  position : Position := .start

namespace Spot

/-- Where the token being collected starts. The text between delimiters starts at its opener. -/
def start (s : Spot) : Position :=
  match s.phase, s.frames with
  | .scanEnclosed, frame :: _ => frame.openedAt
  | _, _ => s.position

/-- The kind and the closer of the innermost construct. -/
def top (s : Spot) : Option (FrameKind × Char) :=
  s.frames.head?.map fun frame => (frame.kind, frame.closer)

def stride (acceptReturn : Bool) (s : Spot) : Stride :=
  s.phase.stride acceptReturn s.left.fault s.top s.left.chars

/-- What is taken at a spot and what is left there are the text in front of it. -/
theorem stride_whole (acceptReturn : Bool) (s : Spot) :
    (s.stride acceptReturn).used ++ (s.stride acceptReturn).rest = s.left.chars :=
  Phase.stride_whole acceptReturn s.left.fault s.top s.phase s.left.chars

/-- What a stride comes to at a spot: a token or none, and the next spot. -/
def take (limits : ScanLimits) (s : Spot) (stride : Stride) : Except ScanError (Option Token × Spot) :=
  if limits.maxLexeme < stride.counted then
    .error (.lexemeTooLong (limits.maxLexeme + 1) (s.start.advanceBy stride.front))
  else
    let there := s.position.advanceBy stride.used
    match stride.landing with
    | .error obstacle => .error (obstacle.error there)
    | .ok landing =>
      (landing.turn.apply limits s.position s.frames).map fun frames =>
        (landing.token.map fun (kind, lexeme) =>
            .ofPosition (String.ofList lexeme) kind (s.start.advanceBy stride.front),
          ⟨landing.next, frames, ⟨stride.rest, s.left.fault⟩, there⟩)

def next (limits : ScanLimits) (acceptReturn : Bool) (s : Spot) :
    Except ScanError (Option Token × Spot) :=
  s.take limits (s.stride acceptReturn)

end Spot

end GrammarLex
