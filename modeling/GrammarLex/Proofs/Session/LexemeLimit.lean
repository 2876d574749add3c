import GrammarLex.Proofs.Session.Requests

/-!
# What the limit on lexemes counts

Every buffered token keeps within the limit on lexemes. The limit is checked while a lexeme is being
collected, and the name of an action is collected with the white space behind it, which is trimmed
only then. So a text whose lexemes all keep within the limit is refused if such white space makes a
name too long, and only then.
-/
namespace GrammarLex

variable {acceptReturn : Bool} {place : Place} {c : Char} {rest : List Char}

/-! ### What lexemes are collected from -/

/-- The lexeme of the piece is what was collected for it, unless it is the name of an action. -/
def Piece.IsKept (piece : Piece) : Prop :=
  piece.token.kind = .action ∨ piece.token.lexeme = String.ofList piece.raw

namespace Place

private theorem kept_nil : ∀ piece ∈ ([] : List Piece), piece.IsKept := nofun

private theorem kept_cons {piece : Piece} {pieces : List Piece} (first : piece.IsKept)
    (others : ∀ piece ∈ pieces, piece.IsKept) : ∀ other ∈ piece :: pieces, other.IsKept :=
  List.forall_mem_cons.mpr ⟨first, others⟩

private theorem bare_kept {kind : TokenKind} {lexeme : List Char} :
    ∀ piece ∈ (place.bare kind lexeme rest).pieces, piece.IsKept :=
  kept_cons (.inr rfl) kept_nil

private theorem actionEnd_kept : ∀ piece ∈ (place.actionEnd acceptReturn).pieces, piece.IsKept := by
  simp only [actionEnd]
  split
  · exact kept_nil
  · split <;> exact kept_nil

private theorem arguments_kept : ∀ piece ∈ (place.arguments acceptReturn).pieces, piece.IsKept := by
  fun_induction arguments acceptReturn place with
  | case1 => exact kept_nil
  | case2 => exact actionEnd_kept
  | case3 place here c rest found other argument behind =>
    rename_i ih
    exact kept_cons (.inr rfl) ih

private theorem action_kept : ∀ piece ∈ (place.action acceptReturn rest).pieces, piece.IsKept := by
  simp only [action]
  split
  · split
    · exact kept_nil
    · exact kept_cons (.inl rfl) arguments_kept
  · exact kept_nil

private theorem productionRule_kept : ∀ piece ∈ (place.productionRule rest).pieces, piece.IsKept := by
  unfold productionRule
  split
  · exact bare_kept
  · exact kept_nil
  · exact kept_nil

private theorem groupEnd_kept : ∀ piece ∈ (place.groupEnd c rest).pieces, piece.IsKept := by
  unfold groupEnd
  split
  · exact bare_kept
  · split
    · exact kept_cons (.inr rfl) kept_nil
    · exact kept_nil

private theorem word_kept : ∀ piece ∈ (place.word c rest).pieces, piece.IsKept := by
  unfold word
  split
  · exact bare_kept
  · split
    · exact kept_nil
    · exact bare_kept

private theorem construct_kept (acceptReturn : Bool) (place : Place) (c : Char) (rest : List Char) :
    ∀ piece ∈ (place.construct acceptReturn c rest).pieces, piece.IsKept := by
  unfold construct
  split
  · split <;> exact bare_kept
  · exact productionRule_kept
  · exact bare_kept
  · exact bare_kept
  · exact bare_kept
  · exact bare_kept
  · exact kept_cons (.inr rfl) kept_nil
  · exact kept_cons (.inr rfl) kept_nil
  · exact kept_cons (.inr rfl) kept_nil
  · exact action_kept
  · exact kept_cons (.inr rfl) kept_nil
  · exact kept_cons (.inr rfl) kept_nil
  · exact groupEnd_kept
  · exact groupEnd_kept
  · exact word_kept

/-- Of all lexemes of a reading only the names of actions are trimmed. -/
theorem read_kept : ∀ piece ∈ (place.read acceptReturn).pieces, piece.IsKept := by
  fun_induction read acceptReturn place with
  | case1 => exact kept_cons (.inr rfl) kept_nil
  | case2 place here c rest found pieces e taken =>
    have kept := construct_kept acceptReturn here c rest
    rw [taken] at kept
    exact kept
  | case3 place here c rest found pieces next taken others =>
    rename_i ih
    have kept := construct_kept acceptReturn here c rest
    rw [taken] at kept
    exact List.forall_mem_append.mpr ⟨kept, ih⟩

end Place

/-- The names of the actions, each with the white space that is trimmed behind it. -/
def Reading.names (reading : Reading) : List (List Char) :=
  (reading.pieces.filter fun piece => piece.token.kind = .action).map Piece.raw

/-- A piece that is collected from too many characters has too long a lexeme, or it is the name of
an action. -/
theorem Reading.long_name {reading : Reading} {piece : Piece} {limit : Nat}
    (member : piece ∈ reading.pieces) (kept : piece.IsKept) (long : limit < piece.raw.length) :
    (∃ raw ∈ reading.names, limit < raw.length) ∨
      ∃ token ∈ reading.tokens, limit < token.lexeme.length := by
  rcases kept with named | whole
  · have listed : piece.raw ∈ reading.names :=
      List.mem_map.mpr ⟨piece, List.mem_filter.mpr ⟨member, decide_eq_true named⟩, rfl⟩
    exact .inl ⟨piece.raw, listed, long⟩
  · refine .inr ⟨piece.token, List.mem_map_of_mem member, ?_⟩
    rw [whole, String.length_ofList]
    exact long

theorem Reading.names_fit {reading : Reading} {limits : ScanLimits}
    (fit : ∀ piece ∈ reading.pieces, piece.Fits limits) (raw : List Char)
    (member : raw ∈ reading.names) : raw.length ≤ limits.maxLexeme := by
  obtain ⟨piece, listed, rfl⟩ := List.mem_map.mp member
  exact (fit piece (List.mem_filter.mp listed).1).raw_le

namespace Session

variable {limits : ScanLimits} {preferences : LexicalPreferences} {source : CharSource}

/-- What a session reads. -/
def reading (preferences : LexicalPreferences) (source : CharSource) : Reading :=
  Place.read preferences.acceptCarriageReturn ⟨source.contents.chars, .start, []⟩

/-- Every token that is handed out keeps within the limit. -/
private theorem drain_lexeme_le (token : Token)
    (member : token ∈ ((start preferences source).drain limits).tape.tokens) :
    token.lexeme.length ≤ limits.maxLexeme := by
  obtain ⟨tokens, failure, follows, ⟨_, tape_eq⟩ | ⟨_, count, p, tape_eq⟩⟩ :=
    drain_follows limits preferences source
  · rw [tape_eq] at member
    exact follows.lexeme_le token member
  · rw [tape_eq] at member
    exact follows.lexeme_le token (List.mem_of_mem_take member)

/-- A session that comes to the end has handed out its whole reading. -/
private theorem drain_of_ended (ended : ((start preferences source).drain limits).failure = none) :
    source.contents.fault = none ∧
      ((start preferences source).drain limits).tape = ⟨(reading preferences source).tokens, none⟩ ∧
      (reading preferences source).tokens.length ≤ limits.maxTokens ∧
      (reading preferences source).failure = none ∧
      ∀ piece ∈ (reading preferences source).pieces, piece.Fits limits := by
  obtain ⟨tokens, failure, follows, ⟨room, tape_eq⟩ | ⟨_, count, p, tape_eq⟩⟩ :=
    drain_follows limits preferences source
  · have failure_eq : ((start preferences source).drain limits).failure = failure :=
      congrArg Tape.failure tape_eq
    rw [← failure_eq, ended] at follows tape_eq
    obtain ⟨whole, tokens_eq, reads, fit⟩ := follows.of_ended
    rw [tokens_eq] at room tape_eq
    exact ⟨whole, tape_eq, room, reads, fit⟩
  · cases ended.symm.trans (congrArg Tape.failure tape_eq)

/-- A session that could have gone on at least as far with another limit stops only at a lexeme
that is collected from too many characters. -/
private theorem drain_of_shallow (positive : 0 < limits.maxLexeme)
    (whole : source.contents.fault = none) (ends : (reading preferences source).failure = none)
    (room : (reading preferences source).tokens.length ≤ limits.maxTokens)
    (shallow : ∀ piece ∈ (reading preferences source).pieces, piece.depth ≤ limits.maxDepth) :
    ((start preferences source).drain limits).failure = none ∨
      (∃ p, ((start preferences source).drain limits).failure =
        some (.lexemeTooLong (limits.maxLexeme + 1) p)) ∧
      ((start preferences source).drain limits).tokens.toList <+:
        (reading preferences source).tokens ∧
      ∃ piece ∈ (reading preferences source).pieces, limits.maxLexeme < piece.raw.length := by
  obtain ⟨tokens, failure, follows, cut⟩ := drain_follows limits preferences source
  rw [whole] at follows
  have begun : tokens <+: (reading preferences source).tokens := by
    cases failure with
    | none => exact follows.of_ended.2.1 ▸ List.prefix_rfl
    | some e => exact (follows.of_failed positive ends shallow).2.1
  rcases cut with ⟨_, tape_eq⟩ | ⟨crowded, _⟩
  · have tokens_eq : ((start preferences source).drain limits).tokens.toList = tokens :=
      congrArg Tape.tokens tape_eq
    have failure_eq : ((start preferences source).drain limits).failure = failure :=
      congrArg Tape.failure tape_eq
    rw [tokens_eq, failure_eq]
    cases failure with
    | none => exact .inl rfl
    | some e =>
      obtain ⟨⟨p, error⟩, _, long⟩ := follows.of_failed positive ends shallow
      exact .inr ⟨⟨p, congrArg some error⟩, begun, long⟩
  · exact absurd (Nat.le_trans begun.length_le room) (Nat.not_le_of_lt crowded)

/-- The limit on lexemes, which no profile may set to zero, bounds every buffered token. A text that
is read to its end under some other limit, with lexemes that keep within this one, is read to the
same end under this one just if the names of its actions keep within it even with the white space
that is trimmed behind them. -/
theorem lexeme_limit_counts_trimmed (limits : ScanLimits) (other : Nat)
    (preferences : LexicalPreferences) (source : CharSource) (positive : 0 < limits.maxLexeme) :
    (∀ requests, ∀ token ∈ ((start preferences source).serve limits requests).buffer.tokens.toList,
      token.lexeme.length ≤ limits.maxLexeme) ∧
    (((start preferences source).drain { limits with maxLexeme := other }).failure = none →
      (∀ token ∈ ((start preferences source).drain { limits with maxLexeme := other }).tokens.toList,
        token.lexeme.length ≤ limits.maxLexeme) →
      ((∀ raw ∈ (reading preferences source).names, raw.length ≤ limits.maxLexeme) →
        ((start preferences source).drain limits).tape =
          ((start preferences source).drain { limits with maxLexeme := other }).tape) ∧
      ((∃ raw ∈ (reading preferences source).names, limits.maxLexeme < raw.length) →
        (∃ p, ((start preferences source).drain limits).failure =
          some (.lexemeTooLong (limits.maxLexeme + 1) p)) ∧
        ((start preferences source).drain limits).tokens.toList <+:
          ((start preferences source).drain { limits with maxLexeme := other }).tokens.toList)) := by
  constructor
  · -- What is buffered is a part of the tape.
    intro requests token member
    have tracks := serve_tracks (start_tracks_drain limits preferences source) requests
    obtain ⟨_, ahead, whole, _⟩ := tracks
    have held : token ∈ ((start preferences source).drain limits).tape.tokens := by
      rw [whole]
      exact List.mem_append_left _ member
    exact drain_lexeme_le token held
  · intro ended short
    obtain ⟨whole, tape_eq, room, ends, fit⟩ := drain_of_ended ended
    have tokens_eq : ((start preferences source).drain
        { limits with maxLexeme := other }).tokens.toList = (reading preferences source).tokens :=
      congrArg Tape.tokens tape_eq
    rw [tokens_eq] at short ⊢
    rw [tape_eq]
    have outcome := drain_of_shallow positive whole ends room fun piece member =>
      (fit piece member).depth_le
    constructor
    · intro names
      rcases outcome with ended | ⟨_, _, piece, member, long⟩
      · exact (drain_of_ended ended).2.1
      · rcases Reading.long_name member (Place.read_kept piece member) long with
          ⟨raw, listed, long⟩ | ⟨token, listed, long⟩
        · exact absurd (names raw listed) (Nat.not_le_of_lt long)
        · exact absurd (short token listed) (Nat.not_le_of_lt long)
    · rintro ⟨raw, listed, long⟩
      rcases outcome with ended | ⟨error, begun, _⟩
      · have fits := Reading.names_fit (drain_of_ended ended).2.2.2.2 raw listed
        exact absurd fits (Nat.not_le_of_lt long)
      · exact ⟨error, begun⟩

/-- White space that is trimmed makes a name of one character too long for a limit of one. -/
theorem lexeme_limit_counts_trimmed_spaces :
    0 < (⟨1, 9, 9, 9⟩ : ScanLimits).maxLexeme ∧
    ((start {} { feed := .ofText "{G  ()}" }).drain ⟨3, 9, 9, 9⟩).failure = none ∧
    (∀ token ∈ ((start {} { feed := .ofText "{G  ()}" }).drain ⟨3, 9, 9, 9⟩).tokens.toList,
      token.lexeme.length ≤ 1) ∧
    (∃ raw ∈ (reading {} { feed := .ofText "{G  ()}" }).names, 1 < raw.length) ∧
    (∃ p, ((start {} { feed := .ofText "{G  ()}" }).drain ⟨1, 9, 9, 9⟩).failure =
      some (.lexemeTooLong 2 p)) := by
  have positive : 0 < (⟨1, 9, 9, 9⟩ : ScanLimits).maxLexeme := by decide
  have ended : ((start {} { feed := .ofText "{G  ()}" }).drain ⟨3, 9, 9, 9⟩).failure = none := by
    decide +kernel
  have short : ∀ token ∈ ((start {} { feed := .ofText "{G  ()}" }).drain ⟨3, 9, 9, 9⟩).tokens.toList,
      token.lexeme.length ≤ 1 := by decide +kernel
  have padded : ∃ raw ∈ (reading {} { feed := .ofText "{G  ()}" }).names, 1 < raw.length := by
    decide +kernel
  exact ⟨positive, ended, short, padded,
    ((lexeme_limit_counts_trimmed ⟨1, 9, 9, 9⟩ 3 {} { feed := .ofText "{G  ()}" } positive).2
      ended short).2 padded |>.1⟩

end Session

end GrammarLex
