import GrammarLex.Scan.Phase
import GrammarLex.Scan.ScanError
import GrammarLex.Token.Basic
import GrammarLex.Unicode.Alphanumeric
import GrammarLex.Unicode.Blank

/-!
# Reading a text in one pass

The definition of the token language without a machine. A reading carries the rest of the text, the
position in front of it and the closers of the open groups, and takes one construct after another.
It has no limits and no suspended state: what a machine collects, clears and remembers between two
tokens has no counterpart here. Each token is kept with what it asks of a machine that has limits.
-/
namespace GrammarLex

/-- A token of a reading, and what it asks of a machine with limits. -/
structure Piece where
  token : Token
  -- The characters the lexeme is made of; an action's name still has its white space behind it.
  raw : List Char
  -- Number of open constructs, its own included; zero if it opens none.
  depth : Nat
  deriving DecidableEq, Repr

/-- Where a reading has come to. -/
structure Place where
  rest : List Char
  position : Position := .start
  -- The closers of the open groups, innermost first.
  closers : List Char := []
  deriving DecidableEq, Repr

/-- The tokens of one construct, and the place behind it unless the construct is in error. -/
structure Construct where
  -- The tokens, as far as there are any.
  pieces : List Piece
  next : Except ScanError Place

/-- A text read to its end or to its first error. -/
structure Reading where
  -- The tokens, the end marker included.
  pieces : List Piece
  failure : Option ScanError

def Reading.tokens (reading : Reading) : List Token := reading.pieces.map Piece.token

namespace Construct

def fail (e : ScanError) : Construct := ⟨[], .error e⟩

def cons (piece : Piece) (construct : Construct) : Construct :=
  ⟨piece :: construct.pieces, construct.next⟩

def followedBy (construct : Construct) (behind : Place → Reading) : Reading :=
  match construct.next with
  | .ok next => ⟨construct.pieces ++ (behind next).pieces, (behind next).failure⟩
  | .error e => ⟨construct.pieces, some e⟩

end Construct

namespace Place

/-- The place behind a character that is taken, with `rest` behind the character. -/
def behind (c : Char) (rest : List Char) (place : Place) : Place :=
  { place with rest := rest, position := place.position.advance c }

/-- The place behind the longest run of characters that satisfy a predicate. -/
def skip (keep : Char → Bool) (place : Place) : Place :=
  { place with
    rest := place.rest.dropWhile keep
    position := place.position.advanceBy (place.rest.takeWhile keep) }

variable (place : Place)

/-- A token that consists of its lexeme, with `rest` behind it. -/
def bare (kind : TokenKind) (lexeme rest : List Char) : Construct :=
  ⟨[⟨.ofPosition (String.ofList lexeme) kind place.position, lexeme, 0⟩],
    .ok { place with rest := rest, position := place.position.advanceBy lexeme }⟩

def productionRule (rest : List Char) : Construct :=
  match rest with
  | ':' :: '=' :: rest => place.bare .productionRuleOp [':', ':', '='] rest
  | ':' :: rest =>
    .fail (.unexpected (.ofNext rest.head?) "'::='" (place.position.advanceBy [':', ':']))
  | rest => .fail (.unexpected (.ofNext rest.head?) "'::='" (place.position.advance ':'))

def dots (rest : List Char) : Construct :=
  let more := (rest.takeWhile (· == '.')).take 2
  place.bare .sequence ('.' :: more) (rest.drop more.length)

/-- A text between delimiters, behind its opener. It reaches to the closer or to the end of the
text; the closer is dropped. -/
def enclosed (opener : Char) (rest : List Char) : Construct :=
  let closer := if opener = '<' then '>' else opener
  let kind := if opener = '<' then TokenKind.nonTerminalSymbol else .terminalSymbol
  let body := rest.takeWhile (· != closer)
  let behind := rest.dropWhile (· != closer)
  ⟨[⟨.ofPosition (String.ofList body) kind place.position, body, place.closers.length + 1⟩],
    .ok { place with
      rest := behind.drop 1
      position := place.position.advanceBy (opener :: (body ++ behind.take 1)) }⟩

def groupCloser (opener : Char) : Char := if opener = '(' then ')' else ']'

def groupOpener (opener : Char) (rest : List Char) : Construct :=
  let kind := if opener = '(' then TokenKind.parenLeft else .bracketLeft
  ⟨[⟨.ofPosition (String.ofList [opener]) kind place.position, [opener],
      place.closers.length + 1⟩],
    .ok ⟨rest, place.position.advance opener, groupCloser opener :: place.closers⟩⟩

/-- The closing delimiter of a group; with no group open it is plain punctuation. -/
def groupEnd (closer : Char) (rest : List Char) : Construct :=
  match place.closers with
  | [] => place.bare .terminalSymbol [closer] rest
  | expected :: closers =>
    if expected = closer then
      let kind := if closer = ')' then TokenKind.parenRight else .bracketRight
      ⟨[⟨.ofPosition (String.ofList [closer]) kind place.position, [closer], 0⟩],
        .ok ⟨rest, place.position.advance closer, closers⟩⟩
    else .fail (.mismatched expected closer place.position)

/-- A word of letters and digits, or one character that can be seen. -/
def word (c : Char) (rest : List Char) : Construct :=
  if Unicode.isAlphanumeric c then
    place.bare .terminalSymbol (c :: rest.takeWhile Unicode.isAlphanumeric)
      (rest.dropWhile Unicode.isAlphanumeric)
  else if Unicode.isBlank c || Unicode.isControl c then
    .fail (.unexpected (.char c) "grammar symbol" place.position)
  else place.bare .terminalSymbol [c] rest

/-! ### Actions -/

variable (acceptReturn : Bool)

def isArgumentSeparator (c : Char) : Bool := c == ',' || isSeparator acceptReturn c

def isArgumentChar (c : Char) : Bool := c != ')' && c != ',' && !isSeparator acceptReturn c

/-- The brace that ends an action, behind the parenthesis that ends its arguments. The end of the
text stands for it as well. -/
def actionEnd : Construct :=
  let here := place.skip (isSeparator acceptReturn)
  match here.rest with
  | [] => ⟨[], .ok here⟩
  | c :: rest =>
    if c = '\x7d' then ⟨[], .ok (here.behind c rest)⟩
    else .fail (.unexpected (.char c) "'\x7d'" here.position)

/-- The arguments of an action and everything behind them that belongs to it. -/
def arguments (place : Place) : Construct :=
  let here := place.skip (isArgumentSeparator acceptReturn)
  match _found : here.rest with
  | [] => .fail (.unexpected .endOfInput "')'" here.position)
  | c :: rest =>
    if c = ')' then (here.behind c rest).actionEnd acceptReturn
    else
      let argument := c :: rest.takeWhile (isArgumentChar acceptReturn)
      let next : Place := { here with
        rest := rest.dropWhile (isArgumentChar acceptReturn)
        position := here.position.advanceBy argument }
      (arguments next).cons
        ⟨.ofPosition (String.ofList argument) .actionArg here.position, argument,
          here.closers.length + 1⟩
termination_by place.rest.length
decreasing_by
  have shorter : (rest.dropWhile (isArgumentChar acceptReturn)).length ≤ rest.length :=
    (List.dropWhile_suffix _).length_le
  have skipped : here.rest.length ≤ place.rest.length := (List.dropWhile_suffix _).length_le
  rw [_found, List.length_cons] at skipped
  exact Nat.lt_of_le_of_lt shorter skipped

def isNameChar (c : Char) : Bool := c != '(' && c != '\x7d'

/-- An action behind its brace. Its name reaches to the opening parenthesis, and the white space
around it is dropped. -/
def action (rest : List Char) : Construct :=
  let here := (place.behind '\x7b' rest).skip (isSeparator acceptReturn)
  let raw := here.rest.takeWhile isNameChar
  let there := here.skip isNameChar
  match there.rest with
  | '(' :: rest =>
    let name := Unicode.trimEnd (String.ofList raw)
    if name.isEmpty then .fail (.unexpected (.char '(') "action name" there.position)
    else
      ((there.behind '(' rest).arguments acceptReturn).cons
        ⟨.ofPosition name .action here.position, raw, here.closers.length + 1⟩
  | rest => .fail (.unexpected (.ofNext rest.head?) "'('" there.position)

/-! ### Texts -/

/-- The construct that starts with a character, with `rest` behind the character. -/
def construct (c : Char) (rest : List Char) : Construct :=
  match c with
  | '!' => match rest with
    | '!' :: rest => place.bare .endOfRule ['!', '!'] rest
    | rest => place.bare .not ['!'] rest
  | ':' => place.productionRule rest
  | '|' => place.bare .or ['|'] rest
  | '=' => place.bare .assign ['='] rest
  | '&' => place.bare .and ['&'] rest
  | '.' => place.dots rest
  | '"' | '\'' | '<' => place.enclosed c rest
  | '\x7b' => place.action acceptReturn rest
  | '(' | '[' => place.groupOpener c rest
  | ')' | ']' => place.groupEnd c rest
  | c => place.word c rest

/-! ### Skipping -/

theorem skip_stops (keep : Char → Bool) (c : Char)
    (next : (place.skip keep).rest.head? = some c) : keep c = false := by
  have stops := List.head?_dropWhile_not keep place.rest
  change (place.rest.dropWhile keep).head? = some c at next
  rw [next] at stops
  simpa using stops

theorem skip_of_stops {keep : Char → Bool}
    (stops : ∀ c, place.rest.head? = some c → keep c = false) : place.skip keep = place := by
  obtain ⟨rest, position, closers⟩ := place
  cases rest with
  | nil => rfl
  | cons c rest =>
    have other : ¬ keep c = true := by simpa using stops c rfl
    rw [skip, List.dropWhile_cons_of_neg other, List.takeWhile_cons_of_neg other,
      Position.advanceBy_nil]

/-- An argument starts with any other character than a separator and the closing parenthesis. -/
theorem isArgumentChar_of_next {acceptReturn : Bool} {c : Char} {rest : List Char}
    (next : (place.skip (isArgumentSeparator acceptReturn)).rest = c :: rest) (other : c ≠ ')') :
    isArgumentChar acceptReturn c = true := by
  have stops := place.skip_stops _ c (congrArg List.head? next)
  simp only [isArgumentSeparator, Bool.or_eq_false_iff] at stops
  simp [isArgumentChar, other, stops.2, by simpa using stops.1]

/-! ### What a construct takes off the text -/

def Reaches (here there : Place) : Prop :=
  ∃ used, here.rest = used ++ there.rest ∧ there.position = here.position.advanceBy used

theorem Reaches.trans {here there yonder : Place} (first : here.Reaches there)
    (second : there.Reaches yonder) : here.Reaches yonder := by
  obtain ⟨used, rest, position⟩ := first
  obtain ⟨used', rest', position'⟩ := second
  refine ⟨used ++ used', ?_, ?_⟩
  · rw [rest, rest', List.append_assoc]
  · rw [position', position, Position.advanceBy_append]

theorem Reaches.length_le {here there : Place} (reaches : here.Reaches there) :
    there.rest.length ≤ here.rest.length := by
  obtain ⟨used, rest, _⟩ := reaches
  rw [rest, List.length_append]
  exact Nat.le_add_left _ _

theorem reaches_skip (keep : Char → Bool) : place.Reaches (place.skip keep) :=
  ⟨_, List.takeWhile_append_dropWhile.symm, rfl⟩

variable {place} {acceptReturn} {next : Place} {c : Char} {rest : List Char}

theorem reaches_behind (found : place.rest = c :: rest) : place.Reaches (place.behind c rest) :=
  ⟨[c], found, rfl⟩

private theorem actionEnd_reaches (read : (place.actionEnd acceptReturn).next = .ok next) :
    place.Reaches next := by
  have skipped := place.reaches_skip (isSeparator acceptReturn)
  simp only [actionEnd] at read
  split at read
  next =>
    cases read
    exact skipped
  next found =>
    split at read
    · cases read
      exact skipped.trans (reaches_behind found)
    · cases read

private theorem arguments_reaches (read : (place.arguments acceptReturn).next = .ok next) :
    place.Reaches next := by
  fun_induction arguments acceptReturn place with
  | case1 place here found => cases read
  | case2 place here rest found =>
    exact ((place.reaches_skip _).trans (reaches_behind found)).trans (actionEnd_reaches read)
  | case3 place here c rest found other argument next' ih =>
    refine ((place.reaches_skip _).trans ⟨argument, ?_, rfl⟩).trans (ih read)
    change here.rest = _
    rw [found, List.cons_append, List.takeWhile_append_dropWhile]

private theorem action_reaches (read : (place.action acceptReturn rest).next = .ok next) :
    (place.behind '\x7b' rest).Reaches next := by
  -- White space and name are passed over in any case.
  have name := ((place.behind '\x7b' rest).reaches_skip (isSeparator acceptReturn)).trans
    (reaches_skip _ isNameChar)
  simp only [action] at read
  split at read
  next found =>
    split at read
    · cases read
    · exact (name.trans (reaches_behind found)).trans (arguments_reaches read)
  next => cases read

private theorem bare_reaches {kind : TokenKind} {used behind : List Char} (whole : rest = used ++ behind)
    (read : (place.bare kind (c :: used) behind).next = .ok next) :
    (place.behind c rest).Reaches next := by
  cases read
  exact ⟨used, whole, rfl⟩

private theorem productionRule_reaches (read : (place.productionRule rest).next = .ok next) :
    (place.behind ':' rest).Reaches next := by
  unfold productionRule at read
  split at read
  · exact bare_reaches rfl read
  · cases read
  · cases read

private theorem dots_reaches (read : (place.dots rest).next = .ok next) :
    (place.behind '.' rest).Reaches next := by
  have more : (rest.takeWhile (· == '.')).take 2 <+: rest :=
    (List.take_prefix _ _).trans (List.takeWhile_prefix _)
  exact bare_reaches (List.prefix_iff_eq_append.mp more).symm read

private theorem enclosed_reaches (read : (place.enclosed c rest).next = .ok next) :
    (place.behind c rest).Reaches next := by
  cases read
  -- Which character the closer is does not matter here.
  generalize (if c = '<' then '>' else c) = closer
  refine ⟨rest.takeWhile (· != closer) ++ (rest.dropWhile (· != closer)).take 1, ?_, rfl⟩
  change rest = _ ++ List.drop 1 _
  rw [List.append_assoc, List.take_append_drop, List.takeWhile_append_dropWhile]

private theorem groupEnd_reaches (read : (place.groupEnd c rest).next = .ok next) :
    (place.behind c rest).Reaches next := by
  unfold groupEnd at read
  split at read
  · exact bare_reaches rfl read
  · split at read
    · cases read
      exact ⟨[], rfl, rfl⟩
    · cases read

private theorem word_reaches (read : (place.word c rest).next = .ok next) :
    (place.behind c rest).Reaches next := by
  unfold word at read
  split at read
  · exact bare_reaches List.takeWhile_append_dropWhile.symm read
  · split at read
    · cases read
    · exact bare_reaches rfl read

/-- A construct takes its first character and a stretch of the text behind it. -/
theorem construct_reaches (read : (place.construct acceptReturn c rest).next = .ok next) :
    (place.behind c rest).Reaches next := by
  unfold construct at read
  split at read
  · split at read
    · exact bare_reaches rfl read
    · exact bare_reaches rfl read
  · exact productionRule_reaches read
  · exact bare_reaches rfl read
  · exact bare_reaches rfl read
  · exact bare_reaches rfl read
  · exact dots_reaches read
  · exact enclosed_reaches read
  · exact enclosed_reaches read
  · exact enclosed_reaches read
  · exact action_reaches read
  · cases read
    exact ⟨[], rfl, rfl⟩
  · cases read
    exact ⟨[], rfl, rfl⟩
  · exact groupEnd_reaches read
  · exact groupEnd_reaches read
  · exact word_reaches read

/-- Read a text to its end or to its first error. -/
def read (acceptReturn : Bool) (place : Place) : Reading :=
  let here := place.skip (isSeparator acceptReturn)
  match _found : here.rest with
  | [] => ⟨[⟨.ofPosition "" .endOfStream here.position, [], 0⟩], none⟩
  | c :: rest =>
    match _taken : here.construct acceptReturn c rest with
    | ⟨pieces, .error e⟩ => ⟨pieces, some e⟩
    | ⟨pieces, .ok next⟩ =>
      let others := read acceptReturn next
      ⟨pieces ++ others.pieces, others.failure⟩
termination_by place.rest.length
decreasing_by
  -- The construct takes at least its first character.
  have taken : (here.construct acceptReturn c rest).next = .ok next := by rw [_taken]
  have shorter : next.rest.length ≤ rest.length := (construct_reaches taken).length_le
  have skipped : here.rest.length ≤ place.rest.length := (place.reaches_skip _).length_le
  rw [_found, List.length_cons] at skipped
  exact Nat.lt_of_le_of_lt shorter skipped

theorem read_of_end (found : (place.skip (isSeparator acceptReturn)).rest = []) :
    place.read acceptReturn =
      ⟨[⟨.ofPosition "" .endOfStream (place.skip (isSeparator acceptReturn)).position, [], 0⟩],
        none⟩ := by
  rw [read]
  split
  next => rfl
  next other => rw [found] at other; cases other

theorem read_of_cons (found : (place.skip (isSeparator acceptReturn)).rest = c :: rest) :
    place.read acceptReturn =
      ((place.skip (isSeparator acceptReturn)).construct acceptReturn c rest).followedBy
        (read acceptReturn) := by
  rw [read]
  split
  next other => rw [found] at other; cases other
  next same =>
    rw [found] at same
    cases same
    split
    next taken => rw [taken, Construct.followedBy]
    next taken => rw [taken, Construct.followedBy]

/-- White space in front of a text does not change its reading. -/
theorem read_skip (acceptReturn : Bool) (place : Place) :
    (place.skip (isSeparator acceptReturn)).read acceptReturn = place.read acceptReturn := by
  -- Skipping twice is skipping once.
  have again := skip_of_stops _ (place.skip_stops (isSeparator acceptReturn))
  cases found : (place.skip (isSeparator acceptReturn)).rest with
  | nil => rw [read_of_end found, read_of_end (again.symm ▸ found), again]
  | cons c rest => rw [read_of_cons found, read_of_cons (again.symm ▸ found), again]

end Place

/-! ### White space -/

theorem isSeparator_cases {acceptReturn : Bool} {c : Char}
    (separates : isSeparator acceptReturn c = true) :
    c = ' ' ∨ c = '\t' ∨ c = '\n' ∨ (acceptReturn = true ∧ c = '\r') := by
  simpa [isSeparator, or_assoc] using separates

theorem Phase.ofLookahead_of_separator {acceptReturn : Bool} {c : Char}
    (separates : isSeparator acceptReturn c = true) : ofLookahead acceptReturn c = .whitespace := by
  rcases isSeparator_cases separates with rfl | rfl | rfl | ⟨rfl, rfl⟩ <;> rfl

theorem not_isAlphanumeric_of_separator {acceptReturn : Bool} {c : Char}
    (separates : isSeparator acceptReturn c = true) : Unicode.isAlphanumeric c = false := by
  rcases isSeparator_cases separates with rfl | rfl | rfl | ⟨rfl, rfl⟩ <;> decide

end GrammarLex
