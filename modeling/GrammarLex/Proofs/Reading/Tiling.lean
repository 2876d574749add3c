import GrammarLex.Proofs.Reading.Segments

/-!
# Where the characters of a text end up

A text that is read to its end is tiled by its tokens: each token has in front of its lexeme what is
passed over, and behind it the white space that is trimmed off, which only the name of an action can
have. Delimiters are passed over, and white space that separates tokens. Any other character lies in
the lexeme of one token, or it is trimmed off behind the name of one action.
-/
namespace GrammarLex

/-- A token with the text around it that belongs to no lexeme. -/
structure Tile where
  -- What is passed over in front of the lexeme.
  gap : List Char
  token : Token
  -- White space that is trimmed off behind the lexeme.
  trail : List Char

def Tile.text (tile : Tile) : List Char := tile.gap ++ (tile.token.lexeme.toList ++ tile.trail)

/-- A delimiter that is part of no lexeme where it opens, separates or closes something. -/
def isDelimiter (c : Char) : Bool := c ∈ ['<', '>', '"', '\'', '\x7b', '(', ',', ')', '\x7d']

/-- A character that may be passed over. -/
def isPassedOver (acceptReturn : Bool) (c : Char) : Bool :=
  isDelimiter c || isSeparator acceptReturn c

structure Tile.WellFormed (acceptReturn : Bool) (before : List Char) (tile : Tile) : Prop where
  gap : ∀ c ∈ tile.gap, isPassedOver acceptReturn c = true
  trail : ∀ c ∈ tile.trail, Unicode.isBlank c = true
  trimmed : tile.trail ≠ [] → tile.token.kind = .action
  -- The token stands where its lexeme begins, or at the delimiter right in front of it.
  stands : ∃ front opener, tile.gap = front ++ opener ∧ opener.length ≤ 1 ∧
    tile.token = tokenAt (before ++ front) tile.token.kind tile.token.lexeme.toList

/-- The tiles of the tokens make up the text behind `before`. -/
inductive Tiled (acceptReturn : Bool) : List Char → List Char → List Token → List Tile → Prop where
  | nil (before : List Char) : Tiled acceptReturn before [] [] []
  | cons {before text : List Char} {tokens : List Token} {tile : Tile} {tiles : List Tile} :
    tile.WellFormed acceptReturn before →
    Tiled acceptReturn (before ++ tile.text) text tokens tiles →
    Tiled acceptReturn before (tile.text ++ text) (tile.token :: tokens) (tile :: tiles)

/-! ### Segments are tiled -/

/-- Behind `front`, of which a part may still be to be passed over, the text is tiled. -/
def Tileable (acceptReturn : Bool) (front text : List Char) (tokens : List Token) : Prop :=
  ∀ before gap, before ++ gap = front → (∀ c ∈ gap, isPassedOver acceptReturn c = true) →
    ∃ tiles, Tiled acceptReturn before (gap ++ text) tokens tiles

section Segments

variable {acceptReturn : Bool} {front text run opener lexeme trail : List Char}
  {tokens : List Token} {kind : TokenKind}

theorem isPassedOver_of_separator {c : Char} (separates : isSeparator acceptReturn c = true) :
    isPassedOver acceptReturn c = true := by
  rw [isPassedOver, separates, Bool.or_true]

private theorem isPassedOver_of_argumentSeparator {c : Char}
    (separates : Place.isArgumentSeparator acceptReturn c = true) :
    isPassedOver acceptReturn c = true := by
  rcases Bool.or_eq_true_iff.mp separates with comma | separates
  · rw [beq_iff_eq.mp comma]
    rfl
  · exact isPassedOver_of_separator separates

private theorem isPassedOver_of_opener (acceptReturn : Bool) {opener : Char}
    (opens : opener ∈ ['<', '"', '\'']) :
    isPassedOver acceptReturn opener = true ∧ isPassedOver acceptReturn (closerOf opener) = true := by
  rcases List.mem_cons.mp opens with rfl | quote
  · exact ⟨rfl, rfl⟩
  · rcases List.mem_cons.mp quote with rfl | quote
    · exact ⟨rfl, rfl⟩
    · rw [List.mem_singleton.mp quote]
      exact ⟨rfl, rfl⟩

private theorem closing_passed {closer : Char} (closes : isPassedOver acceptReturn closer = true)
    (closed : Bool) : ∀ c ∈ closing closed closer, isPassedOver acceptReturn c = true := by
  cases closed with
  | false => exact nofun
  | true => exact List.forall_mem_singleton.mpr closes

/-- Everything behind the arguments of an action is passed over. -/
private theorem ending_passed {tail : ActionTail} (wellFormed : tail.WellFormed acceptReturn) :
    ∀ c ∈ tail.separators ++ ')' :: (tail.gap ++ closing tail.closed '\x7d'),
      isPassedOver acceptReturn c = true := by
  have gap : ∀ c ∈ tail.gap, isPassedOver acceptReturn c = true :=
    fun c member => isPassedOver_of_separator (wellFormed.gap c member)
  have brace : ∀ c ∈ closing tail.closed '\x7d', isPassedOver acceptReturn c = true :=
    closing_passed rfl tail.closed
  refine List.forall_mem_append.mpr ⟨fun c member =>
    isPassedOver_of_argumentSeparator (wellFormed.separators c member), ?_⟩
  exact List.forall_mem_cons.mpr ⟨rfl, List.forall_mem_append.mpr ⟨gap, brace⟩⟩

namespace Tileable

theorem pass (passed : ∀ c ∈ run, isPassedOver acceptReturn c = true)
    (others : Tileable acceptReturn (front ++ run) text tokens) :
    Tileable acceptReturn front (run ++ text) tokens := by
  intro before gap whole skipped
  rw [← List.append_assoc]
  refine others before (gap ++ run) ?_ (List.forall_mem_append.mpr ⟨skipped, passed⟩)
  rw [← whole, List.append_assoc]

/-- Nothing is still to be passed over. -/
private theorem tiled (tileable : Tileable acceptReturn front text tokens) :
    ∃ tiles, Tiled acceptReturn front text tokens tiles :=
  tileable front [] (List.append_nil _) nofun

/-- A token that stands at the opener in front of its lexeme. -/
theorem token (opener lexeme trail : List Char) (kind : TokenKind) (short : opener.length ≤ 1)
    (opens : ∀ c ∈ opener, isPassedOver acceptReturn c = true)
    (blank : ∀ c ∈ trail, Unicode.isBlank c = true) (trimmed : trail ≠ [] → kind = .action)
    (others : ∃ tiles, Tiled acceptReturn (front ++ (opener ++ (lexeme ++ trail))) text tokens tiles) :
    Tileable acceptReturn front (opener ++ (lexeme ++ (trail ++ text)))
      (tokenAt front kind lexeme :: tokens) := by
  rintro before gap rfl skipped
  have lexeme_eq : (tokenAt (before ++ gap) kind lexeme).lexeme.toList = lexeme :=
    String.toList_ofList
  let tile : Tile := ⟨gap ++ opener, tokenAt (before ++ gap) kind lexeme, trail⟩
  have text_eq : tile.text = gap ++ (opener ++ (lexeme ++ trail)) := by
    rw [Tile.text, lexeme_eq, List.append_assoc]
  have wellFormed : tile.WellFormed acceptReturn before :=
    ⟨List.forall_mem_append.mpr ⟨skipped, opens⟩, blank, trimmed, gap, opener, rfl, short,
      by rw [lexeme_eq]; rfl⟩
  obtain ⟨tiles, tiled⟩ := others
  refine ⟨tile :: tiles, ?_⟩
  rw [List.append_assoc, ← text_eq] at tiled
  have whole := Tiled.cons wellFormed tiled
  rw [text_eq] at whole
  simpa using whole

/-- A token that is its lexeme. -/
theorem bare (lexeme : List Char) (kind : TokenKind)
    (others : ∃ tiles, Tiled acceptReturn (front ++ lexeme) text tokens tiles) :
    Tileable acceptReturn front (lexeme ++ text) (tokenAt front kind lexeme :: tokens) := by
  refine token [] lexeme [] kind (Nat.zero_le 1) nofun nofun
    (fun missing => absurd rfl missing) ?_
  simpa using others

theorem arguments {arguments : List Argument}
    (wellFormed : ∀ argument ∈ arguments, argument.WellFormed acceptReturn)
    (others : Tileable acceptReturn (front ++ arguments.flatMap Argument.text) text tokens) :
    Tileable acceptReturn front (arguments.flatMap Argument.text ++ text)
      (argumentTokens front arguments ++ tokens) := by
  induction arguments generalizing front with
  | nil => simpa [argumentTokens] using others
  | cons argument arguments ih =>
    obtain ⟨first, rest⟩ := List.forall_mem_cons.mp wellFormed
    rw [List.flatMap_cons, ← List.append_assoc] at others
    have behind := ih rest others
    rw [List.flatMap_cons, Argument.text, List.append_assoc, List.append_assoc]
    refine pass (fun c member => isPassedOver_of_argumentSeparator (first.separators c member)) ?_
    refine bare _ _ ?_
    rw [List.append_assoc]
    exact behind.tiled

private theorem action {parts : ActionText} (wellFormed : parts.WellFormed acceptReturn)
    (others : Tileable acceptReturn (front ++ parts.text) text tokens) :
    Tileable acceptReturn front (parts.text ++ text) (parts.tokens front ++ tokens) := by
  obtain ⟨space, name, trail, ⟨arguments, separators, gap, closed⟩⟩ := parts
  have head : ∀ c ∈ '\x7b' :: space, isPassedOver acceptReturn c = true :=
    List.forall_mem_cons.mpr
      ⟨rfl, fun c member => isPassedOver_of_separator (wellFormed.space c member)⟩
  have named : Tileable acceptReturn front
      (('\x7b' :: space) ++ ([] ++ (name ++ (trail ++ (['('] ++
        (arguments.flatMap Argument.text ++
          ((separators ++ ')' :: (gap ++ closing closed '\x7d')) ++ text)))))))
      (tokenAt (front ++ '\x7b' :: space) .action name ::
        (argumentTokens (front ++ '\x7b' :: space ++ ([] ++ (name ++ trail)) ++ ['(']) arguments ++
          tokens)) := by
    refine pass head (token [] name trail .action (Nat.zero_le 1) nofun wellFormed.trail
      (fun _ => rfl) (tiled ?_))
    refine pass (List.forall_mem_singleton.mpr rfl) ?_
    refine Tileable.arguments wellFormed.tail.arguments ?_
    refine pass (ending_passed wellFormed.tail) ?_
    simpa [ActionText.text, ActionText.head, ActionTail.text] using others
  simpa [ActionText.text, ActionText.head, ActionTail.text, ActionText.tokens] using named

/-- What stands behind the segments is only the end of the text. -/
theorem segments {segments : List Segment}
    (wellFormed : ∀ segment ∈ segments, segment.WellFormed acceptReturn) :
    Tileable acceptReturn front (segments.flatMap Segment.text) (tokensOf front segments) := by
  induction segments generalizing front with
  | nil => exact bare [] .endOfStream ⟨[], .nil _⟩
  | cons segment segments ih =>
    obtain ⟨first, rest⟩ := List.forall_mem_cons.mp wellFormed
    have behind : Tileable acceptReturn (front ++ segment.text) (segments.flatMap Segment.text)
        (tokensOf (front ++ segment.text) segments) := ih rest
    rw [List.flatMap_cons, tokensOf]
    cases segment with
    | blank run =>
      exact pass (fun c member => isPassedOver_of_separator (first.2 c member)) behind
    | bare kind lexeme => exact bare lexeme kind behind.tiled
    | enclosed opener lexeme closed =>
      obtain ⟨opens, closes⟩ := isPassedOver_of_opener acceptReturn first.1
      have others : Tileable acceptReturn (front ++ ([opener] ++ (lexeme ++ [])))
          (closing closed (closerOf opener) ++ segments.flatMap Segment.text) _ :=
        pass (closing_passed closes closed) (by simpa [Segment.text] using behind)
      have enclosed := token [opener] lexeme []
        (if opener = '<' then .nonTerminalSymbol else .terminalSymbol) (Nat.le_refl 1)
        (List.forall_mem_singleton.mpr opens) (List.forall_mem_nil _)
        (fun missing => absurd rfl missing) others.tiled
      simpa [Segment.text, Segment.tokens] using enclosed
    | action parts => exact action first behind

end Tileable

/-- A text that is covered by segments is tiled by its tokens. -/
theorem Covered.tiled {segments : List Segment}
    (covered : Covered acceptReturn front text tokens segments) :
    ∃ tiles, Tiled acceptReturn front text tokens tiles := by
  rw [← covered.text_eq, covered.tokens_eq]
  exact (Tileable.segments covered.wellFormed).tiled

end Segments

/-! ### The place of a character -/

/-- The character at the index of a tile's text belongs to the lexeme. -/
def Tile.LexemeAt (tile : Tile) (index : Nat) : Prop :=
  tile.gap.length ≤ index ∧ index < tile.gap.length + tile.token.lexeme.length

/-- The character at the index of a tile's text is trimmed off. -/
def Tile.TrailAt (tile : Tile) (index : Nat) : Prop :=
  tile.gap.length + tile.token.lexeme.length ≤ index ∧ index < tile.text.length

/-- The character at the index of the text of some tiles lies in a part of the tile that has the
given number of tiles in front. -/
def LiesIn (part : Tile → Nat → Prop) : List Tile → Nat → Nat → Prop
  | [], _, _ => False
  | tile :: _, index, 0 => part tile index
  | tile :: tiles, index, k + 1 => tile.text.length ≤ index ∧
      LiesIn part tiles (index - tile.text.length) k

section Places

variable {acceptReturn : Bool} {before text : List Char} {tokens : List Token} {tile : Tile}
  {tiles : List Tile} {index : Nat} {c : Char}

theorem Tile.length_text (tile : Tile) :
    tile.text.length = tile.gap.length + (tile.token.lexeme.length + tile.trail.length) := by
  rw [Tile.text, List.length_append, List.length_append, String.length_toList]

private theorem Tile.LexemeAt.lt (at_ : tile.LexemeAt index) : index < tile.text.length := by
  have := tile.length_text
  obtain ⟨_, within⟩ := at_
  omega

/-- One index lies in one tile. -/
private theorem LiesIn.unique {part other : Tile → Nat → Prop}
    (part_lt : ∀ tile index, part tile index → index < tile.text.length)
    (other_lt : ∀ tile index, other tile index → index < tile.text.length) {k k' : Nat}
    (first : LiesIn part tiles index k) (second : LiesIn other tiles index k') : k = k' := by
  induction tiles generalizing index k k' with
  | nil => exact first.elim
  | cons tile tiles ih =>
    match k, k' with
    | 0, 0 => rfl
    | 0, k' + 1 => exact absurd (part_lt _ _ first) (Nat.not_lt_of_le second.1)
    | k + 1, 0 => exact absurd (other_lt _ _ second) (Nat.not_lt_of_le first.1)
    | k + 1, k' + 1 => rw [ih first.2 second.2]

/-- What lies in the lexeme is not trimmed off. -/
private theorem LiesIn.not_trimmed {k : Nat} (kept : LiesIn Tile.LexemeAt tiles index k)
    (trimmed : LiesIn Tile.TrailAt tiles index k) : False := by
  induction tiles generalizing index k with
  | nil => exact kept
  | cons tile tiles ih =>
    cases k with
    | zero => exact absurd kept.2 (Nat.not_lt_of_le trimmed.1)
    | succ k => exact ih kept.2 trimmed.2

/-- A character that may not be passed over lies in a lexeme, or it is trimmed off. -/
private theorem Tiled.place (tiled : Tiled acceptReturn before text tokens tiles)
    (found : text[index]? = some c) (kept : isPassedOver acceptReturn c = false) :
    (∃ k, LiesIn Tile.LexemeAt tiles index k) ∨ ∃ k, LiesIn Tile.TrailAt tiles index k := by
  induction tiled generalizing index with
  | nil before => cases found
  | @cons before text tokens tile tiles wellFormed others ih =>
    have width := tile.length_text
    by_cases here : index < tile.text.length
    · rw [List.getElem?_append_left here] at found
      by_cases passed : index < tile.gap.length
      · -- The gap holds only characters that may be passed over.
        rw [Tile.text, List.getElem?_append_left passed] at found
        have contradiction := wellFormed.gap c (List.mem_of_getElem? found)
        rw [kept] at contradiction
        cases contradiction
      · have behind := Nat.le_of_not_lt passed
        by_cases within : index < tile.gap.length + tile.token.lexeme.length
        · exact .inl ⟨0, behind, within⟩
        · exact .inr ⟨0, Nat.le_of_not_lt within, here⟩
    · have beyond := Nat.le_of_not_lt here
      rw [List.getElem?_append_right beyond] at found
      rcases ih found with ⟨k, lies⟩ | ⟨k, lies⟩
      · exact .inl ⟨k + 1, beyond, lies⟩
      · exact .inr ⟨k + 1, beyond, lies⟩

/-- A character that may not be passed over lies in the lexeme of exactly one token, or it is
trimmed off behind exactly one. -/
theorem Tiled.lies_once (tiled : Tiled acceptReturn before text tokens tiles)
    (found : text[index]? = some c) (kept : isPassedOver acceptReturn c = false) :
    ((∃! k, LiesIn Tile.LexemeAt tiles index k) ∧ ∀ k, ¬LiesIn Tile.TrailAt tiles index k) ∨
      ((∃! k, LiesIn Tile.TrailAt tiles index k) ∧ ∀ k, ¬LiesIn Tile.LexemeAt tiles index k) := by
  have lexeme_lt : ∀ tile index, Tile.LexemeAt tile index → index < tile.text.length :=
    fun _ _ => Tile.LexemeAt.lt
  have trail_lt : ∀ tile index, Tile.TrailAt tile index → index < tile.text.length :=
    fun _ _ trimmed => trimmed.2
  rcases tiled.place found kept with ⟨k, lies⟩ | ⟨k, lies⟩
  · refine .inl ⟨⟨k, lies, fun _ other => other.unique lexeme_lt lexeme_lt lies⟩, fun k' trimmed => ?_⟩
    have same := lies.unique lexeme_lt trail_lt trimmed
    exact lies.not_trimmed (same ▸ trimmed)
  · refine .inr ⟨⟨k, lies, fun _ other => other.unique trail_lt trail_lt lies⟩, fun k' held => ?_⟩
    have same := held.unique lexeme_lt trail_lt lies
    exact held.not_trimmed (same ▸ lies)

/-- A character that is trimmed off behind some token has a place in the text. -/
private theorem Tiled.trimmed_place (tiled : Tiled acceptReturn before text tokens tiles)
    (member : tile ∈ tiles) (trimmed : c ∈ tile.trail) :
    ∃ index, text[index]? = some c ∧ ∃ k, LiesIn Tile.TrailAt tiles index k := by
  induction tiled with
  | nil before => cases member
  | @cons before text tokens first tiles wellFormed others ih =>
    rcases List.mem_cons.mp member with rfl | member
    · obtain ⟨index, found⟩ := List.mem_iff_getElem?.mp trimmed
      have width := tile.length_text
      have inside : index < tile.trail.length := (List.getElem?_eq_some_iff.mp found).1
      have here : (tile.gap ++ tile.token.lexeme.toList).length + index < tile.text.length := by
        rw [List.length_append, String.length_toList]
        omega
      refine ⟨(tile.gap ++ tile.token.lexeme.toList).length + index, ?_, 0, ?_, here⟩
      · rw [List.getElem?_append_left here, Tile.text, ← List.append_assoc,
          List.getElem?_append_right (Nat.le_add_right _ _), Nat.add_sub_cancel_left, found]
      · rw [List.length_append, String.length_toList]
        exact Nat.le_add_right _ _
    · obtain ⟨index, found, k, lies⟩ := ih member
      refine ⟨first.text.length + index, ?_, k + 1, Nat.le_add_right _ _, ?_⟩
      · rw [List.getElem?_append_right (Nat.le_add_right _ _), Nat.add_sub_cancel_left, found]
      · rwa [Nat.add_sub_cancel_left]

/-- What is trimmed off holds the character, if it lies there. -/
private theorem Tiled.mem_trail {k : Nat} (tiled : Tiled acceptReturn before text tokens tiles)
    (found : text[index]? = some c) (lies : LiesIn Tile.TrailAt tiles index k) :
    ∃ tile ∈ tiles, c ∈ tile.trail := by
  induction tiled generalizing index k with
  | nil before => cases found
  | @cons before text tokens tile tiles wellFormed others ih =>
    cases k with
    | zero =>
      obtain ⟨behind, here⟩ := lies
      have behind : (tile.gap ++ tile.token.lexeme.toList).length ≤ index := by
        rwa [List.length_append, String.length_toList]
      rw [List.getElem?_append_left here, Tile.text, ← List.append_assoc,
        List.getElem?_append_right behind] at found
      exact ⟨tile, List.mem_cons_self, List.mem_of_getElem? found⟩
    | succ k =>
      rw [List.getElem?_append_right lies.1] at found
      obtain ⟨other, member, trimmed⟩ := ih found lies.2
      exact ⟨other, List.mem_cons_of_mem _ member, trimmed⟩

/-- A character that may not be passed over always lies in exactly one lexeme, just if it is never
trimmed off. -/
theorem Tiled.kept_iff (tiled : Tiled acceptReturn before text tokens tiles)
    (kept : isPassedOver acceptReturn c = false) :
    (∀ index, text[index]? = some c → ∃! k, LiesIn Tile.LexemeAt tiles index k) ↔
      ∀ tile ∈ tiles, c ∉ tile.trail := by
  constructor
  · intro held tile member trimmed
    obtain ⟨index, found, k, lies⟩ := tiled.trimmed_place member trimmed
    obtain ⟨k', holds, _⟩ := held index found
    rcases tiled.lies_once found kept with ⟨_, never⟩ | ⟨_, never⟩
    · exact never k lies
    · exact never k' holds
  · intro never index found
    rcases tiled.lies_once found kept with ⟨once, _⟩ | ⟨⟨k, trimmed, _⟩, _⟩
    · exact once
    · obtain ⟨tile, member, held⟩ := tiled.mem_trail found trimmed
      exact absurd held (never tile member)

end Places

end GrammarLex
