import GrammarLex.Proofs.Scan.Groups

/-!
# Where a step stops

A step fails where its handler meets something, where a construct too many would be opened, or where
too many characters would be collected. What a handler meets stands right behind everything it has
taken; the other two are told at the place where the construct or the token begins.
-/
namespace GrammarLex

/-! ### What handlers meet -/

/-- The obstacle is what stands in front of the rest of the text. -/
def Obstacle.Met (fault : Option DecodeError) (top : Option (FrameKind × Char)) (rest : List Char) :
    Obstacle → Prop
  | .unexpected found _ => found = .ofNext rest.head? ∧ (rest = [] → fault = none)
  | .mismatched expected found => rest.head? = some found ∧
      ∃ kind, top = some (kind, expected) ∧ kind.isGroup = true
  | .broken e => rest = [] ∧ fault = some e

namespace Stride

/-- Whatever stops the handler stands right behind what it has taken. -/
def Meets (fault : Option DecodeError) (top : Option (FrameKind × Char)) (stride : Stride) : Prop :=
  ∀ obstacle, stride.landing = .error obstacle → obstacle.Met fault top stride.rest

variable {acceptReturn : Bool} {fault : Option DecodeError} {top : Option (FrameKind × Char)}
  {stride : Stride} {c : Char} {rest front behind chars : List Char}

private theorem meets_of_landing {landing : Landing} (lands : stride.landing = .ok landing) :
    stride.Meets fault top := by
  intro obstacle stops
  cases lands.symm.trans stops

private theorem meets_of_char {words : String}
    (stops : stride.landing = .error (.unexpected (.char c) words)) (stands : stride.rest = c :: rest) :
    stride.Meets fault top := by
  intro obstacle same
  cases stops.symm.trans same
  rw [stands]
  exact ⟨rfl, nofun⟩

/-- A handler that looks at the character behind what it has taken meets it or the fault. -/
private theorem meets_facing (stops : ∀ obstacle, stride.landing = .error obstacle →
    ∃ words, obstacle = .unexpected (.ofNext stride.rest.head?) words) :
    (facing fault stride).Meets fault top := by
  intro obstacle stopped
  by_cases whole : stride.rest = [] → fault = none
  · rw [facing_of_whole whole] at stopped ⊢
    obtain ⟨words, rfl⟩ := stops obstacle stopped
    exact ⟨rfl, whole⟩
  · simp only [Classical.not_imp] at whole
    obtain ⟨empty, broken⟩ := whole
    obtain ⟨e, faulty⟩ := Option.ne_none_iff_exists'.mp broken
    rw [facing_of_broken empty faulty] at stopped ⊢
    cases stopped
    exact ⟨empty, faulty⟩

private theorem meets_facing_of_landing {landing : Landing} (lands : stride.landing = .ok landing) :
    (facing fault stride).Meets fault top :=
  meets_facing fun _ stops => nomatch lands.symm.trans stops

private theorem meets_refused (front : List Char) {words : String} {body : List Char} :
    (facing fault { refused words body rest with front }).Meets fault top :=
  meets_facing fun _ stops => ⟨words, (Except.error.inj stops).symm⟩

private theorem exclamation_meets : (exclamation fault c rest).Meets fault top := by
  unfold exclamation
  split
  · exact meets_of_landing rfl
  · exact meets_facing_of_landing rfl

private theorem productionRule_meets : (productionRule fault c rest).Meets fault top := by
  unfold productionRule
  split
  · exact meets_of_landing rfl
  · exact meets_refused []
  · exact meets_refused []

private theorem dots_meets : (dots fault c rest).Meets fault top := by
  unfold dots
  split
  · exact meets_of_landing rfl
  · exact meets_facing_of_landing rfl
  · exact meets_facing_of_landing rfl

private theorem enclosureEnd_meets {closer : Char} :
    (enclosureEnd fault closer chars).Meets fault top := by
  cases chars with
  | nil => exact meets_facing_of_landing rfl
  | cons c rest =>
    rw [enclosureEnd]
    split <;> exact meets_of_landing rfl

private theorem groupEnd_meets : (groupEnd top c rest).Meets fault top := by
  unfold groupEnd
  split
  next => exact meets_of_landing rfl
  next kind closer =>
    split
    next group =>
      split
      · exact meets_of_landing rfl
      · intro obstacle stops
        cases stops
        exact ⟨rfl, kind, rfl, group⟩
    next => exact meets_of_landing rfl

private theorem named_meets : (named fault front behind).Meets fault top := by
  unfold named
  split
  · dsimp only
    split
    · exact meets_of_char rfl rfl
    · exact meets_of_landing rfl
  · exact meets_refused front

private theorem argued_meets : (argued acceptReturn fault front behind).Meets fault top := by
  unfold argued
  split
  · exact meets_refused front
  · exact meets_of_landing rfl
  · exact meets_facing_of_landing rfl

private theorem braced_meets {spaces : List Char} : (braced fault spaces behind).Meets fault top := by
  cases behind with
  | nil => exact meets_facing_of_landing rfl
  | cons c rest =>
    rw [braced]
    split
    · exact meets_of_landing rfl
    · exact meets_of_char rfl rfl

private theorem word_meets : (word fault c rest).Meets fault top := by
  unfold word
  split
  · exact meets_facing_of_landing rfl
  · split
    · exact meets_of_char rfl rfl
    · exact meets_of_landing rfl

end Stride

open Stride in
/-- Whatever stops a handler stands right behind what it has taken. -/
theorem Phase.stride_meets (acceptReturn : Bool) (fault : Option DecodeError)
    (top : Option (FrameKind × Char)) (phase : Phase) (chars : List Char) :
    (phase.stride acceptReturn fault top chars).Meets fault top := by
  cases phase with
  | dispatch =>
    cases chars with
    | nil => exact meets_facing_of_landing rfl
    | cons c rest => exact meets_of_landing rfl
  | whitespace => exact meets_facing_of_landing rfl
  | scanEnclosed =>
    cases top with
    | none => exact meets_of_landing rfl
    | some top => exact meets_facing_of_landing rfl
  | closeEnclosure =>
    cases top with
    | none => exact meets_of_landing rfl
    | some top => exact enclosureEnd_meets
  | actionName => exact named_meets
  | actionArgs => exact argued_meets
  | actionClose => exact braced_meets
  | finished => exact meets_of_landing rfl
  | endOfRule =>
    cases chars with
    | nil => exact meets_of_landing rfl
    | cons c rest => exact exclamation_meets
  | productionRuleOp =>
    cases chars with
    | nil => exact meets_of_landing rfl
    | cons c rest => exact productionRule_meets
  | sequence =>
    cases chars with
    | nil => exact meets_of_landing rfl
    | cons c rest => exact dots_meets
  | closeGroup =>
    cases chars with
    | nil => exact meets_of_landing rfl
    | cons c rest => exact groupEnd_meets
  | bareTerminal =>
    cases chars with
    | nil => exact meets_of_landing rfl
    | cons c rest => exact word_meets
  | or | assign | and | openEnclosure | openGroup | actionOpen =>
    cases chars <;> exact meets_of_landing rfl

/-! ### What is too long -/

/-- The operators of more than one character, as far as they may be too long. -/
def longMarks : List (Phase × List Char) :=
  [(.endOfRule, ['!', '!']), (.productionRuleOp, [':', ':']), (.productionRuleOp, [':', ':', '=']),
    (.sequence, ['.', '.']), (.sequence, ['.', '.', '.'])]

/-- More characters than the limit allows would be collected for one token: the phase that begins to
collect them, what is passed over before the token starts, and the text from there on. -/
inductive Overruns (limit : Nat) (acceptReturn : Bool) : Phase → List Char → List Char → Prop where
  -- The text between delimiters is collected, and its token starts at the opener.
  | enclosed {opener : Char} {body more : List Char} (opens : opener ∈ ['<', '"', '\''])
      (long : limit < body.length) (unclosed : closerOf opener ∉ body) :
      Overruns limit acceptReturn .openEnclosure [] (opener :: (body ++ more))
  | name {space name more : List Char} (spaces : ∀ c ∈ space, isSeparator acceptReturn c = true)
      (starts : ∀ c, name.head? = some c → isSeparator acceptReturn c = false)
      (long : limit < name.length) (chars : ∀ c ∈ name, Place.isNameChar c = true) :
      Overruns limit acceptReturn .actionName space (name ++ more)
  | argument {separators argument more : List Char}
      (spaces : ∀ c ∈ separators, Place.isArgumentSeparator acceptReturn c = true)
      (long : limit < argument.length)
      (chars : ∀ c ∈ argument, Place.isArgumentChar acceptReturn c = true) :
      Overruns limit acceptReturn .actionArgs separators (argument ++ more)
  | word {word more : List Char} (long : limit < word.length)
      (chars : ∀ c ∈ word, Unicode.isAlphanumeric c = true) :
      Overruns limit acceptReturn .bareTerminal [] (word ++ more)
  | mark {phase : Phase} {lexeme more : List Char} (long : limit < lexeme.length)
      (listed : (phase, lexeme) ∈ longMarks) : Overruns limit acceptReturn phase [] (lexeme ++ more)
  -- Not even a single character may be collected.
  | nothing {phase : Phase} {passed behind : List Char} (none : limit = 0) :
      Overruns limit acceptReturn phase passed behind

namespace Stride

variable {limit : Nat} {acceptReturn : Bool} {fault : Option DecodeError}
  {top : Option (FrameKind × Char)} {phase : Phase} {stride : Stride} {c : Char}
  {rest chars : List Char}

/-- What is too long for a handler behind what it passes. -/
def Exceeds (limit : Nat) (acceptReturn : Bool) (phase : Phase) (chars : List Char) (stride : Stride) :
    Prop :=
  limit < stride.counted → ∃ behind, chars = stride.front ++ behind ∧
    Overruns limit acceptReturn phase stride.front behind

private theorem Exceeds.facing (exceeds : stride.Exceeds limit acceptReturn phase chars) :
    (facing fault stride).Exceeds limit acceptReturn phase chars := by
  rw [Exceeds, facing_counted, facing_front]
  exact exceeds

end Stride

/-- A handler opens a construct with the character in front of it. -/
theorem Phase.stride_opens {acceptReturn : Bool} {fault : Option DecodeError}
    {top : Option (FrameKind × Char)} {phase : Phase} {chars : List Char} {landing : Landing}
    {opener : Char} (lands : (phase.stride acceptReturn fault top chars).landing = .ok landing)
    (turn_eq : landing.turn = .opens opener) :
    phase.isOpening = true ∧ ∃ rest, chars = opener :: rest := by
  have opens : (phase.stride acceptReturn fault top chars).opener? = some opener := by
    obtain ⟨next, token, turn⟩ := landing
    cases turn_eq
    rw [Stride.opener?, lands]
  cases opening : phase.isOpening with
  | false => cases (stride_plain acceptReturn fault top opening chars).opens_none.symm.trans opens
  | true =>
    refine ⟨rfl, ?_⟩
    cases phase with
    | openEnclosure | openGroup | actionOpen =>
      cases chars with
      | nil => cases opens
      | cons c rest =>
        cases opens
        exact ⟨rest, rfl⟩
    | _ => cases opening

theorem Phase.Starts.opens {phase : Phase} {c : Char} (starts : phase.Starts c)
    (opening : phase.isOpening = true) : ∃ kind, FrameKind.ofOpener? c = some kind := by
  cases phase with
  | openEnclosure => rcases starts with rfl | rfl | rfl <;> exact ⟨_, rfl⟩
  | openGroup => rcases starts with rfl | rfl <;> exact ⟨_, rfl⟩
  | actionOpen => exact ⟨_, congrArg FrameKind.ofOpener? starts⟩
  | _ => cases opening

section Steps

variable {limits : ScanLimits} {acceptReturn : Bool} {source : CharSource} {tokens : List Token}
  {token : Option Token} {m : Machine} {r : Intake} {s s' : Spot} {e : ScanError}

theorem Spot.Agrees.starts {c : Char} {rest : List Char} (agrees : s.Agrees acceptReturn)
    (front : s.left.chars = c :: rest) (selects : s.phase.isSelected = true) : s.phase.Starts c := by
  obtain ⟨d, others, front', selected⟩ := agrees.shown selects
  cases front.symm.trans front'
  exact selected.starts

/-- A turn that is refused opens a construct too many. -/
theorem Spot.Agrees.turn_refused (agrees : s.Agrees acceptReturn) {landing : Landing}
    (lands : (s.stride acceptReturn).landing = .ok landing)
    (turned : landing.turn.apply limits s.position s.frames = .error e) :
    (∃ opener kind rest, s.left.chars = opener :: rest ∧ FrameKind.ofOpener? opener = some kind) ∧
      limits.maxDepth ≤ s.frames.length ∧ e = .nestedTooDeep (s.frames.length + 1) s.position := by
  obtain ⟨opener, turn_eq, refusal⟩ := Turn.apply_refused turned
  obtain ⟨opening, rest, chars_eq⟩ := Phase.stride_opens lands turn_eq
  have selects : s.phase.isSelected = true := by
    cases phase : s.phase <;> rw [phase] at opening <;> first | rfl | cases opening
  obtain ⟨kind, known⟩ := (agrees.starts chars_eq selects).opens opening
  exact ⟨⟨opener, kind, rest, chars_eq, known⟩, refusal (by rw [known]; nofun)⟩

/-- Text between delimiters is collected behind its opener. -/
theorem Spot.next_of_openEnclosure (agrees : s.Agrees acceptReturn)
    (phase : s.phase = .openEnclosure) (next_eq : s.next limits acceptReturn = .ok (token, s')) :
    ∃ opener kind, opener ∈ ['<', '"', '\''] ∧ s.left.chars = opener :: s'.left.chars ∧
      token = none ∧ s'.frames = ⟨closerOf opener, kind, s.position⟩ :: s.frames := by
  obtain ⟨current, frames, ⟨chars, fault⟩, p⟩ := s
  subst phase
  obtain ⟨c, rest, rfl, selected⟩ := agrees.shown rfl
  obtain ⟨landing, frames', -, lands, turned, rfl, rfl⟩ := take_eq_ok next_eq
  cases lands
  obtain ⟨kind, known, -, rfl⟩ := Turn.apply_opens turned
  refine ⟨c, kind, ?_, rfl, rfl, rfl⟩
  have starts : c = '"' ∨ c = '\'' ∨ c = '<' := selected.starts
  rcases starts with rfl | rfl | rfl <;> decide

/-- In front of text between delimiters the machine has just consumed the opener. -/
theorem Machine.Emits.enclosing (emits : Emits limits acceptReturn source tokens m r)
    (phase : m.phase = .scanEnclosed) : ∃ m₀ r₀ opener kind groups,
      Emits limits acceptReturn source tokens m₀ r₀ ∧ m₀.phase = .openEnclosure ∧
      opener ∈ ['<', '"', '\''] ∧
      r₀.source.contents.chars = opener :: r.source.contents.chars ∧
      m.nesting.frames = ⟨closerOf opener, kind, r₀.position⟩ :: groups := by
  cases emits with
  | fresh => cases phase
  | @step tokens m₀ _ r₀ _ token before stepped =>
    obtain ⟨s, -, here⟩ := before.walk
    obtain ⟨s', next_eq, here'⟩ := here.next_of_ok stepped
    obtain ⟨move, -⟩ := here.agrees.moves stepped
    rw [phase] at move
    have entered : m₀.phase = .openEnclosure := move.of_scanEnclosed
    obtain ⟨opener, kind, opens, chars_eq, rfl, frames_eq⟩ :=
      Spot.next_of_openEnclosure here.spot_agrees (here.phase_eq.symm.trans entered) next_eq
    rw [Option.toList_none, List.append_nil]
    refine ⟨m₀, r₀, opener, kind, s.frames, before, entered, opens, ?_, ?_⟩
    · rw [here.contents_eq, here'.contents_eq]
      exact chars_eq
    · rw [here'.holds.frames_eq, frames_eq, here.holds.stands.position_eq]

end Steps

end GrammarLex
