import GrammarLex.Proofs.Reading.Basic
import GrammarLex.Scan.Nesting
import Mathlib.Data.List.TakeWhile

/-!
# A reading covers its text

A text that is read to its end splits into segments: white space and the raw forms of its tokens,
one behind the other. `tokensOf` tells the tokens of a row of segments, each at the position that
the text in front of it leads to.
-/
namespace GrammarLex

structure Argument where
  -- Separators in front of the argument.
  separators : List Char
  lexeme : List Char

structure ActionTail where
  arguments : List Argument
  -- Separators behind the last argument.
  separators : List Char
  -- White space between the closing parenthesis and the brace.
  gap : List Char
  closed : Bool

structure ActionText where
  -- White space between the brace and the name.
  space : List Char
  name : List Char
  -- White space behind the name.
  trail : List Char
  tail : ActionTail

/-- A stretch of a text. -/
inductive Segment where
  | blank (run : List Char)
  | bare (kind : TokenKind) (lexeme : List Char)
  | enclosed (opener : Char) (lexeme : List Char) (closed : Bool)
  | action (parts : ActionText)

/-! ### The text of a segment -/

def closing (closed : Bool) (closer : Char) : List Char := if closed then [closer] else []

def Argument.text (argument : Argument) : List Char := argument.separators ++ argument.lexeme

def ActionText.head (action : ActionText) : List Char := '\x7b' :: action.space

def ActionTail.text (tail : ActionTail) : List Char :=
  tail.arguments.flatMap Argument.text ++
    (tail.separators ++ ')' :: (tail.gap ++ closing tail.closed '\x7d'))

def ActionText.text (action : ActionText) : List Char :=
  action.head ++ (action.name ++ (action.trail ++ '(' :: action.tail.text))

def Segment.text : Segment → List Char
  | .blank run => run
  | .bare _ lexeme => lexeme
  | .enclosed opener lexeme closed => opener :: (lexeme ++ closing closed (closerOf opener))
  | .action parts => parts.text

/-- The closer of the segment is there, if it has one. -/
def Segment.isClosed : Segment → Bool
  | .blank _ | .bare .. => true
  | .enclosed _ _ closed => closed
  | .action parts => parts.tail.closed

/-! ### The tokens of a segment -/

/-- A token behind the given text. -/
def tokenAt (before : List Char) (kind : TokenKind) (lexeme : List Char) : Token :=
  .ofPosition (String.ofList lexeme) kind (Position.start.advanceBy before)

def argumentTokens (before : List Char) : List Argument → List Token
  | [] => []
  | argument :: others =>
    tokenAt (before ++ argument.separators) .actionArg argument.lexeme ::
      argumentTokens (before ++ argument.text) others

def ActionText.tokens (before : List Char) (action : ActionText) : List Token :=
  tokenAt (before ++ action.head) .action action.name ::
    argumentTokens (before ++ action.head ++ action.name ++ action.trail ++ ['('])
      action.tail.arguments

/-- The tokens of a segment behind the given text. -/
def Segment.tokens (before : List Char) : Segment → List Token
  | .blank _ => []
  | .bare kind lexeme => [tokenAt before kind lexeme]
  | .enclosed opener lexeme _ =>
    [tokenAt before (if opener = '<' then .nonTerminalSymbol else .terminalSymbol) lexeme]
  | .action parts => parts.tokens before

/-- The tokens of a row of segments behind the given text, and the end marker behind them. -/
def tokensOf (before : List Char) : List Segment → List Token
  | [] => [tokenAt before .endOfStream []]
  | segment :: others => segment.tokens before ++ tokensOf (before ++ segment.text) others

/-! ### Well-formed segments -/

structure Argument.WellFormed (acceptReturn : Bool) (argument : Argument) : Prop where
  separators : ∀ c ∈ argument.separators, Place.isArgumentSeparator acceptReturn c = true
  lexeme : ∀ c ∈ argument.lexeme, Place.isArgumentChar acceptReturn c = true
  lexeme_ne_nil : argument.lexeme ≠ []

structure ActionTail.WellFormed (acceptReturn : Bool) (tail : ActionTail) : Prop where
  arguments : ∀ argument ∈ tail.arguments, argument.WellFormed acceptReturn
  separators : ∀ c ∈ tail.separators, Place.isArgumentSeparator acceptReturn c = true
  gap : ∀ c ∈ tail.gap, isSeparator acceptReturn c = true

structure ActionText.WellFormed (acceptReturn : Bool) (action : ActionText) : Prop where
  space : ∀ c ∈ action.space, isSeparator acceptReturn c = true
  name : ∀ c ∈ action.name, Place.isNameChar c = true
  name_ne_nil : action.name ≠ []
  trail : ∀ c ∈ action.trail, Unicode.isBlank c = true
  tail : action.tail.WellFormed acceptReturn

def Segment.WellFormed (acceptReturn : Bool) : Segment → Prop
  | .blank run => run ≠ [] ∧ ∀ c ∈ run, isSeparator acceptReturn c = true
  | .bare kind lexeme =>
    lexeme ≠ [] ∧ kind ∉ [.nonTerminalSymbol, .action, .actionArg, .endOfStream]
  | .enclosed opener lexeme _ => opener ∈ ['<', '"', '\''] ∧ closerOf opener ∉ lexeme
  | .action parts => parts.WellFormed acceptReturn

theorem Segment.WellFormed.text_ne_nil {acceptReturn : Bool} {segment : Segment}
    (wellFormed : segment.WellFormed acceptReturn) : segment.text ≠ [] := by
  cases segment with
  | blank run => exact wellFormed.1
  | bare kind lexeme => exact wellFormed.1
  | enclosed opener lexeme closed => exact nofun
  | action parts => exact nofun

/-! ### Constructs are segments -/

variable {acceptReturn : Bool} {place next : Place} {c : Char} {rest before text lexeme : List Char}

/-- The text that a construct takes is a segment, and the tokens of the construct are its tokens. -/
def Construct.Covers (acceptReturn : Bool) (before text : List Char) (construct : Construct) : Prop :=
  ∀ next, construct.next = .ok next → ∃ segment : Segment,
    segment.WellFormed acceptReturn ∧ segment.text ++ next.rest = text ∧
      construct.pieces.map Piece.token = segment.tokens before ∧
      (segment.isClosed = false → next.rest = [])

namespace Place

private theorem fail_covers (e : ScanError) : (Construct.fail e).Covers acceptReturn before text :=
  fun _ taken => nomatch taken

private theorem bare_covers {kind : TokenKind} (here : place.position = .advanceBy .start before)
    (whole : lexeme ++ rest = text) (nonempty : lexeme ≠ [])
    (plain : kind ∉ [.nonTerminalSymbol, .action, .actionArg, .endOfStream]) :
    (place.bare kind lexeme rest).Covers acceptReturn before text := by
  intro next taken
  cases taken
  refine ⟨.bare kind lexeme, ⟨nonempty, plain⟩, whole, ?_, nofun⟩
  simp [bare, Segment.tokens, tokenAt, here]

private theorem productionRule_covers (here : place.position = .advanceBy .start before) :
    (place.productionRule rest).Covers acceptReturn before (':' :: rest) := by
  unfold productionRule
  split
  · exact bare_covers here rfl nofun (by decide)
  · exact fail_covers _
  · exact fail_covers _

private theorem dots_covers (here : place.position = .advanceBy .start before) :
    (place.dots rest).Covers acceptReturn before ('.' :: rest) := by
  refine bare_covers here ?_ nofun (by decide)
  have more : (rest.takeWhile (· == '.')).take 2 <+: rest :=
    (List.take_prefix _ _).trans (List.takeWhile_prefix _)
  exact congrArg ('.' :: ·) (List.prefix_iff_eq_append.mp more)

private theorem groupEnd_covers (closes : c = ')' ∨ c = ']')
    (here : place.position = .advanceBy .start before) :
    (place.groupEnd c rest).Covers acceptReturn before (c :: rest) := by
  unfold groupEnd
  split
  · exact bare_covers here rfl nofun (by decide)
  · split
    · intro next taken
      cases taken
      refine ⟨.bare (if c = ')' then .parenRight else .bracketRight) [c], ⟨nofun, ?_⟩, rfl, ?_, nofun⟩
      · rcases closes with rfl | rfl <;> decide
      · simp [Segment.tokens, tokenAt, here]
    · exact fail_covers _

private theorem groupOpener_covers (opens : c = '(' ∨ c = '[')
    (here : place.position = .advanceBy .start before) :
    (place.groupOpener c rest).Covers acceptReturn before (c :: rest) := by
  intro next taken
  cases taken
  refine ⟨.bare (if c = '(' then .parenLeft else .bracketLeft) [c], ⟨nofun, ?_⟩, rfl, ?_, nofun⟩
  · rcases opens with rfl | rfl <;> decide
  · simp [groupOpener, Segment.tokens, tokenAt, here]

private theorem word_covers (here : place.position = .advanceBy .start before) :
    (place.word c rest).Covers acceptReturn before (c :: rest) := by
  unfold word
  split
  · exact bare_covers here (congrArg (c :: ·) List.takeWhile_append_dropWhile) nofun (by decide)
  · split
    · exact fail_covers _
    · exact bare_covers here rfl nofun (by decide)

/-- What is left behind the longest run of other characters starts with the closer, or is nothing. -/
private theorem take_dropWhile (closer : Char) (text : List Char) :
    (text.dropWhile (· != closer)).take 1 =
        closing (!(text.dropWhile (· != closer)).isEmpty) closer ∧
      ((!(text.dropWhile (· != closer)).isEmpty) = false → (text.dropWhile (· != closer)).drop 1 = []) := by
  have stops := List.head?_dropWhile_not (· != closer) text
  cases left : text.dropWhile (· != closer) with
  | nil => exact ⟨rfl, fun _ => rfl⟩
  | cons d left =>
    rw [left] at stops
    have same : d = closer := by simpa using stops
    rw [same]
    exact ⟨rfl, nofun⟩

private theorem enclosed_covers (opens : c ∈ ['<', '"', '\''])
    (here : place.position = .advanceBy .start before) :
    (place.enclosed c rest).Covers acceptReturn before (c :: rest) := by
  have closer_eq : (if c = '<' then '>' else c) = closerOf c := by
    rcases List.mem_cons.mp opens with rfl | opens
    · rfl
    · rcases List.mem_cons.mp opens with rfl | opens
      · rfl
      · rcases List.mem_singleton.mp opens with rfl
        rfl
  simp only [enclosed, closer_eq]
  intro next taken
  cases taken
  obtain ⟨closer, nothing⟩ := take_dropWhile (closerOf c) rest
  refine ⟨.enclosed c (rest.takeWhile (· != closerOf c))
    (!(rest.dropWhile (· != closerOf c)).isEmpty), ⟨opens, ?_⟩, ?_, ?_, nothing⟩
  · intro member
    have other := List.mem_takeWhile_imp member
    simp at other
  · change c :: ((_ ++ closing _ _) ++ List.drop 1 _) = c :: rest
    rw [← closer, List.append_assoc, List.take_append_drop, List.takeWhile_append_dropWhile]
  · simp [Segment.tokens, tokenAt, here]

/-! ### Actions are segments -/

private theorem actionEnd_covers (taken : (place.actionEnd acceptReturn).next = .ok next) :
    ∃ gap closed, (∀ c ∈ gap, isSeparator acceptReturn c = true) ∧
      gap ++ closing closed '\x7d' ++ next.rest = place.rest ∧
      (place.actionEnd acceptReturn).pieces = [] ∧ (closed = false → next.rest = []) := by
  have spaces : ∀ c ∈ place.rest.takeWhile (isSeparator acceptReturn),
      isSeparator acceptReturn c = true := fun c => List.mem_takeWhile_imp
  have whole : place.rest.takeWhile (isSeparator acceptReturn) ++
      (place.skip (isSeparator acceptReturn)).rest = place.rest := List.takeWhile_append_dropWhile
  simp only [actionEnd] at taken ⊢
  split at taken
  next ended =>
    cases taken
    refine ⟨_, false, spaces, ?_, rfl, fun _ => ended⟩
    rw [closing, if_neg (by decide), List.append_nil, whole]
  next c rest found =>
    split at taken
    next brace =>
      cases taken
      refine ⟨_, true, spaces, ?_, ?_, fun missing => absurd missing (by decide)⟩
      · rw [found, brace] at whole
        rw [closing, if_pos rfl, List.append_assoc]
        exact whole
      · rw [if_pos brace]
    next => cases taken

private theorem arguments_covers (here : place.position = .advanceBy .start before)
    (taken : (place.arguments acceptReturn).next = .ok next) :
    ∃ tail : ActionTail, tail.WellFormed acceptReturn ∧ tail.text ++ next.rest = place.rest ∧
      (place.arguments acceptReturn).pieces.map Piece.token = argumentTokens before tail.arguments ∧
      (tail.closed = false → next.rest = []) := by
  have spaces : ∀ c ∈ place.rest.takeWhile (isArgumentSeparator acceptReturn),
      isArgumentSeparator acceptReturn c = true := fun c => List.mem_takeWhile_imp
  have whole : place.rest.takeWhile (isArgumentSeparator acceptReturn) ++
      (place.skip (isArgumentSeparator acceptReturn)).rest = place.rest :=
    List.takeWhile_append_dropWhile
  -- Each argument lengthens the text in front by itself and its separators.
  fun_induction arguments acceptReturn place generalizing before with
  | case1 => cases taken
  | case2 place skipped rest =>
    rename_i found
    obtain ⟨gap, closed, blank, covered, none, ends⟩ := actionEnd_covers taken
    have empty : ∀ argument ∈ ([] : List Argument), argument.WellFormed acceptReturn :=
      fun _ member => absurd member List.not_mem_nil
    refine ⟨⟨[], _, gap, closed⟩, ⟨empty, spaces, blank⟩, ?_, ?_, ends⟩
    · have left : (place.skip (isArgumentSeparator acceptReturn)).rest =
          ')' :: (gap ++ closing closed '\x7d' ++ next.rest) := found.trans (congrArg _ covered.symm)
      rw [left] at whole
      refine Eq.trans ?_ whole
      simp [ActionTail.text]
    · rw [none]
      rfl
  | case3 place skipped c rest found other argument behind =>
    rename_i ih
    have start : isArgumentChar acceptReturn c = true := isArgumentChar_of_next _ found other
    have chars : ∀ d ∈ argument, isArgumentChar acceptReturn d = true := by
      intro d member
      rcases List.mem_cons.mp member with rfl | member
      · exact start
      · exact List.mem_takeWhile_imp member
    have there : skipped.position =
        .advanceBy .start (before ++ place.rest.takeWhile (isArgumentSeparator acceptReturn)) := by
      rw [Position.advanceBy_append, ← here]
      rfl
    have beyond : behind.position = .advanceBy .start (before ++
        Argument.text ⟨place.rest.takeWhile (isArgumentSeparator acceptReturn), argument⟩) := by
      rw [Argument.text, ← List.append_assoc, Position.advanceBy_append, ← there]
    obtain ⟨tail, wellFormed, covered, tokens_eq, ends⟩ := ih beyond taken
      (fun _ => List.mem_takeWhile_imp) List.takeWhile_append_dropWhile
    refine ⟨{ tail with arguments :=
        ⟨place.rest.takeWhile (isArgumentSeparator acceptReturn), argument⟩ :: tail.arguments },
      ⟨?_, wellFormed.separators, wellFormed.gap⟩, ?_, ?_, ends⟩
    · intro argument' member
      rcases List.mem_cons.mp member with rfl | member
      · exact ⟨spaces, chars, List.cons_ne_nil _ _⟩
      · exact wellFormed.arguments argument' member
    · have left : (place.skip (isArgumentSeparator acceptReturn)).rest =
          argument ++ behind.rest := by
        change skipped.rest = _
        rw [found, List.cons_append, List.takeWhile_append_dropWhile]
      rw [left, ← covered] at whole
      refine Eq.trans ?_ whole
      simp [ActionTail.text, Argument.text]
    · change _ :: _ = _ :: _
      rw [tokens_eq, tokenAt, ← there]

private theorem trimEnd_split (raw : List Char) : ∃ trail,
    raw = (Unicode.trimEnd (String.ofList raw)).toList ++ trail ∧
      ∀ c ∈ trail, Unicode.isBlank c = true := by
  refine ⟨(raw.reverse.takeWhile Unicode.isBlank).reverse, ?_, ?_⟩
  · rw [Unicode.trimEnd, String.toList_ofList, String.toList_ofList, ← List.reverse_append,
      List.takeWhile_append_dropWhile, List.reverse_reverse]
  · intro c member
    exact List.mem_takeWhile_imp (List.mem_reverse.mp member)

private theorem action_covers (here : place.position = .advanceBy .start before) :
    (place.action acceptReturn rest).Covers acceptReturn before ('\x7b' :: rest) := by
  intro next taken
  simp only [action] at taken ⊢
  generalize skipped_eq : (place.behind '\x7b' rest).skip (isSeparator acceptReturn) = skipped at taken ⊢
  have spaces : '\x7b' :: rest.takeWhile (isSeparator acceptReturn) ++ skipped.rest = '\x7b' :: rest := by
    rw [← skipped_eq]
    exact congrArg ('\x7b' :: ·) List.takeWhile_append_dropWhile
  have there : skipped.position =
      .advanceBy .start (before ++ '\x7b' :: rest.takeWhile (isSeparator acceptReturn)) := by
    rw [← skipped_eq, Position.advanceBy_append, ← here]
    rfl
  have raw : skipped.rest.takeWhile isNameChar ++ (skipped.skip isNameChar).rest = skipped.rest :=
    List.takeWhile_append_dropWhile
  -- The white space that is trimmed behind the name has a place of its own in the segment.
  obtain ⟨trail, split_eq, blanks⟩ := trimEnd_split (skipped.rest.takeWhile isNameChar)
  generalize name_eq : Unicode.trimEnd (String.ofList (skipped.rest.takeWhile isNameChar)) = name at *
  split at taken
  next inner opens =>
    split at taken
    next => cases taken
    next named =>
      have beyond : ((skipped.skip isNameChar).behind '(' inner).position = .advanceBy .start
          (before ++ '\x7b' :: rest.takeWhile (isSeparator acceptReturn) ++ name.toList ++ trail ++
            ['(']) := by
        rw [Position.advanceBy_append, List.append_assoc, ← split_eq, Position.advanceBy_append,
          ← there]
        rfl
      obtain ⟨tail, wellFormed, covered, tokens_eq, ends⟩ := arguments_covers beyond taken
      refine ⟨.action ⟨rest.takeWhile (isSeparator acceptReturn), name.toList, trail, tail⟩,
        ⟨?_, ?_, ?_, blanks, wellFormed⟩, ?_, ?_, ends⟩
      · exact fun c => List.mem_takeWhile_imp
      · intro c member
        refine List.mem_takeWhile_imp (l := skipped.rest) ?_
        rw [split_eq]
        exact List.mem_append_left _ member
      · intro empty
        exact named (String.isEmpty_iff.mpr (String.toList_eq_nil_iff.mp empty))
      · change tail.text ++ next.rest = inner at covered
        refine Eq.trans ?_ spaces
        rw [← raw, opens, split_eq, ← covered]
        simp [Segment.text, ActionText.text, ActionText.head]
      · rw [if_neg named]
        change _ :: _ = _ :: _
        rw [tokens_eq, ActionText.head, tokenAt, ← there, String.ofList_toList]
  next => cases taken

private theorem construct_covers (here : place.position = .advanceBy .start before) :
    (place.construct acceptReturn c rest).Covers acceptReturn before (c :: rest) := by
  unfold construct
  split
  · split
    · exact bare_covers here rfl nofun (by decide)
    · exact bare_covers here rfl nofun (by decide)
  · exact productionRule_covers here
  · exact bare_covers here rfl nofun (by decide)
  · exact bare_covers here rfl nofun (by decide)
  · exact bare_covers here rfl nofun (by decide)
  · exact dots_covers here
  · exact enclosed_covers (by decide) here
  · exact enclosed_covers (by decide) here
  · exact enclosed_covers (by decide) here
  · exact action_covers here
  · exact groupOpener_covers (.inl rfl) here
  · exact groupOpener_covers (.inr rfl) here
  · exact groupEnd_covers (.inl rfl) here
  · exact groupEnd_covers (.inr rfl) here
  · exact word_covers here

end Place

/-! ### Texts are segments -/

/-- The segments make up the rest of the text, and their tokens are those of the reading. -/
structure Covered (acceptReturn : Bool) (before text : List Char) (tokens : List Token)
    (segments : List Segment) : Prop where
  wellFormed : ∀ segment ∈ segments, segment.WellFormed acceptReturn
  -- Only at the end of the text a closer may be missing.
  closed : ∀ segment ∈ segments.dropLast, segment.isClosed = true
  text_eq : segments.flatMap Segment.text = text
  tokens_eq : tokens = tokensOf before segments

private theorem Covered.cons {tokens : List Token} {segment : Segment} {segments : List Segment}
    (covered : Covered acceptReturn (before ++ segment.text) text tokens segments)
    (first : segment.WellFormed acceptReturn) (ends : segment.isClosed = false → text = []) :
    Covered acceptReturn before (segment.text ++ text) (segment.tokens before ++ tokens)
      (segment :: segments) where
  wellFormed other member := by
    rcases List.mem_cons.mp member with rfl | member
    · exact first
    · exact covered.wellFormed other member
  closed other member := by
    cases segments with
    | nil => cases member
    | cons second segments =>
      rw [List.dropLast_cons_cons] at member
      rcases List.mem_cons.mp member with rfl | member
      · -- A segment that is not the last has text behind it.
        by_contra missing
        have nothing := covered.text_eq.trans (ends (Bool.eq_false_iff.mpr missing))
        rw [List.flatMap_cons, List.append_eq_nil_iff] at nothing
        exact (covered.wellFormed second List.mem_cons_self).text_ne_nil nothing.1
      · exact covered.closed other member
  text_eq := by rw [List.flatMap_cons, covered.text_eq]
  tokens_eq := by rw [tokensOf, covered.tokens_eq]

private theorem Covered.skip {tokens : List Token} {segments : List Segment}
    (covered : Covered acceptReturn (before ++ place.rest.takeWhile (isSeparator acceptReturn))
      (place.skip (isSeparator acceptReturn)).rest tokens segments) :
    ∃ segments, Covered acceptReturn before place.rest tokens segments := by
  have whole : place.rest.takeWhile (isSeparator acceptReturn) ++
      (place.skip (isSeparator acceptReturn)).rest = place.rest := List.takeWhile_append_dropWhile
  have spaces : ∀ c ∈ place.rest.takeWhile (isSeparator acceptReturn),
      isSeparator acceptReturn c = true := fun c => List.mem_takeWhile_imp
  generalize place.rest.takeWhile (isSeparator acceptReturn) = run at *
  -- Without white space there is no segment for it.
  by_cases empty : run = []
  · subst empty
    rw [List.append_nil] at covered
    rw [← whole]
    exact ⟨segments, covered⟩
  · rw [← whole]
    have blank : (Segment.blank run).WellFormed acceptReturn := ⟨empty, spaces⟩
    exact ⟨.blank run :: segments, covered.cons blank nofun⟩

namespace Place

/-- A text that is read to its end is covered by segments. -/
theorem read_covered (place : Place) (before : List Char)
    (here : place.position = .advanceBy .start before)
    (ended : (place.read acceptReturn).failure = none) :
    ∃ segments, Covered acceptReturn before place.rest (place.read acceptReturn).tokens segments := by
  induction size : place.rest.length using Nat.strongRecOn generalizing place before with
  | ind size ih =>
    subst size
    have there : (place.skip (isSeparator acceptReturn)).position =
        .advanceBy .start (before ++ place.rest.takeWhile (isSeparator acceptReturn)) := by
      rw [Position.advanceBy_append, ← here]
      rfl
    have skipped : (place.skip (isSeparator acceptReturn)).rest.length ≤ place.rest.length :=
      (place.reaches_skip _).length_le
    cases found : (place.skip (isSeparator acceptReturn)).rest with
    | nil =>
      have nothing : Covered acceptReturn
          (before ++ place.rest.takeWhile (isSeparator acceptReturn))
          (place.skip (isSeparator acceptReturn)).rest (place.read acceptReturn).tokens [] := by
        refine ⟨nofun, nofun, found.symm, ?_⟩
        rw [read_of_end found, there]
        rfl
      exact nothing.skip
    | cons c rest =>
      rw [found, List.length_cons] at skipped
      rw [read_of_cons found] at ended ⊢
      cases taken : ((place.skip (isSeparator acceptReturn)).construct acceptReturn c rest).next with
      | error e => rw [Construct.followedBy, taken] at ended; cases ended
      | ok next =>
        obtain ⟨segment, wellFormed, text_eq, tokens_eq, ends⟩ := construct_covers there next taken
        -- Construct and segment take the same text, so they lead to the same position.
        have reaches := construct_reaches taken
        have beyond : next.position = .advanceBy .start
            (before ++ place.rest.takeWhile (isSeparator acceptReturn) ++ segment.text) := by
          obtain ⟨used, whole, position_eq⟩ := reaches
          change rest = used ++ next.rest at whole
          have used_eq : segment.text = c :: used := by
            refine List.append_cancel_right (text_eq.trans ?_)
            rw [whole, List.cons_append]
          rw [position_eq, used_eq, Position.advanceBy_append, ← there]
          rfl
        have shorter : next.rest.length < place.rest.length :=
          Nat.lt_of_le_of_lt reaches.length_le skipped
        rw [Construct.followedBy, taken] at ended ⊢
        obtain ⟨segments, covered⟩ := ih _ shorter next _ beyond ended rfl
        have whole := covered.cons wellFormed ends
        rw [text_eq, ← found, ← tokens_eq, Reading.tokens, ← List.map_append] at whole
        exact whole.skip

end Place

end GrammarLex
