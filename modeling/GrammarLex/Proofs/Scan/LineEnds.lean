import GrammarLex.Proofs.Scan.Writing

/-!
# Line ends

A text may end its lines with a newline alone or with a carriage return in front of it. Where a
carriage return counts as white space, no handler tells the two apart: each keeps both characters
or neither.
-/
namespace GrammarLex

namespace Writing

/-- Every newline with a carriage return in front of it. Lines and columns stay as they are. -/
def returns : Writing where
  spell c := if c = '\n' then ['\r', '\n'] else [c]
  places _ p p' := (p'.line, p'.column) = (p.line, p.column)
  advance := by
    intro used _ p p' same
    induction used generalizing p p' with
    | nil => exact same
    | cons c used ih =>
      rw [List.flatMap_cons, Position.advanceBy_append, Position.advanceBy_cons]
      apply ih
      obtain ⟨line, column⟩ := Prod.mk.inj same
      split
      next newline => simp [newline, Position.advance, line]
      next other => simp [other, Position.advance, line, column]

variable {keep : Char → Bool} {c : Char} {chars rest : List Char}

theorem returns_newline : returns.text ('\n' :: rest) = '\r' :: '\n' :: returns.text rest := rfl

theorem spell_other (other : c ≠ '\n') : returns.spell c = [c] := if_neg other

theorem returns_other (other : c ≠ '\n') : returns.text (c :: rest) = c :: returns.text rest := by
  rw [text, List.flatMap_cons, spell_other other]
  rfl

theorem returns_single (other : c ≠ '\n') : returns.text [c] = [c] := returns_other other

@[simp] theorem returns_eq_nil : returns.text chars = [] ↔ chars = [] := by
  cases chars with
  | nil => simp
  | cons c rest =>
    by_cases newline : c = '\n'
    · simp [newline, returns_newline]
    · simp [returns_other newline]

/-- Runs of characters are spelled if both characters of a line end belong to them or none. -/
theorem returns_takeWhile (keep : Char → Bool) (chars : List Char) (same : keep '\r' = keep '\n') :
    (returns.text chars).takeWhile keep = returns.text (chars.takeWhile keep) ∧
      (returns.text chars).dropWhile keep = returns.text (chars.dropWhile keep) := by
  induction chars with
  | nil => exact ⟨rfl, rfl⟩
  | cons c rest ih =>
    by_cases newline : c = '\n'
    · subst newline
      cases keeps : keep '\n' <;> simp [returns_newline, keeps, same.trans keeps, ih]
    · cases keeps : keep c <;> simp [returns_other newline, keeps, ih]

theorem returns_rdropWhile (kept : keep '\r' = true ∧ keep '\n' = true) :
    (returns.text chars).rdropWhile keep = returns.text (chars.rdropWhile keep) := by
  induction chars using List.reverseRecOn with
  | nil => rfl
  | append_singleton chars c ih =>
    by_cases newline : c = '\n'
    · subst newline
      have spelled : returns.text ['\n'] = ['\r'] ++ ['\n'] := rfl
      rw [text_append, spelled, ← List.append_assoc, List.rdropWhile_concat_pos _ _ _ kept.2,
        List.rdropWhile_concat_pos _ _ _ kept.1, List.rdropWhile_concat_pos _ _ _ kept.2, ih]
    · rw [text_append, returns_single newline, List.rdropWhile_concat, List.rdropWhile_concat, ih]
      split
      · rfl
      · rw [text_append, returns_single newline]

theorem returns_head (chars : List Char) (other : c ≠ '\r' ∧ c ≠ '\n') :
    (returns.text chars).head? = some c ↔ chars.head? = some c := by
  cases chars with
  | nil => rfl
  | cons d rest =>
    by_cases newline : d = '\n'
    · simp [newline, returns_newline, other.1.symm, other.2.symm]
    · simp [returns_other newline]

theorem returns_found_char (other : c ≠ '\n') : returns.found (.char c) = .char c := by
  change Found.ofNext (returns.spell c).head? = _
  rw [spell_other other]
  rfl

theorem returns_found (chars : List Char) :
    returns.found (.ofNext chars.head?) = .ofNext (returns.text chars).head? := by
  cases chars with
  | nil => rfl
  | cons c rest =>
    by_cases newline : c = '\n'
    · subst newline
      rfl
    · rw [returns_other newline]
      exact returns_found_char newline

/-- Nothing but a line end starts in another way. -/
theorem returns_cons (rest : List Char) {d : Char} (other : c ≠ d) (plain : d ≠ '\r' ∧ d ≠ '\n') :
    ∃ c' rest', returns.text (c :: rest) = c' :: rest' ∧ c' ≠ d := by
  have head_eq := returns_head (c :: rest) plain
  cases spelled : returns.text (c :: rest) with
  | nil => simp at spelled
  | cons c' rest' =>
    refine ⟨c', rest', rfl, ?_⟩
    rintro rfl
    rw [spelled] at head_eq
    exact other (by simpa using head_eq)

theorem not_keepsLength_returns : ¬ returns.KeepsLength := by
  intro keeps
  have two := keeps ['\n']
  cases two

end Writing

/-! ### Handlers -/

open Writing

variable {fault : Option DecodeError} {top : Option (FrameKind × Char)} {c : Char}
  {chars rest : List Char} {stride stride' : Stride}

namespace Stride

theorem Like.of_returns (front_eq : stride'.front = returns.text stride.front)
    (body_eq : stride'.body = returns.text stride.body)
    (rest_eq : stride'.rest = returns.text stride.rest)
    (landing_eq : stride'.landing = returns.landing stride.landing) : stride.Like returns stride' :=
  ⟨front_eq, body_eq, rest_eq, landing_eq, fun keeps => absurd keeps not_keepsLength_returns⟩

theorem Like.facing (like : stride.Like returns stride') :
    (facing fault stride).Like returns (facing fault stride') := by
  have empty : stride'.rest = [] ↔ stride.rest = [] := by
    rw [like.rest_eq, returns_eq_nil]
  by_cases ended : stride.rest = []
  · cases fault with
    | none => rwa [facing_of_whole fun _ => rfl, facing_of_whole fun _ => rfl]
    | some e =>
      rw [facing_of_broken ended rfl, facing_of_broken (empty.mpr ended) rfl]
      exact .of_returns like.front_eq like.body_eq like.rest_eq rfl
  · rw [facing_of_whole fun none => absurd none ended,
      facing_of_whole fun none => absurd (empty.mp none) ended]
    exact like

theorem token_returns {kind : TokenKind} {lexeme : List Char} :
    (token kind lexeme rest).Like returns (token kind (returns.text lexeme) (returns.text rest)) :=
  .of_returns rfl rfl rfl rfl

theorem single_returns {kind : TokenKind} (other : c ≠ '\n') :
    (token kind [c] rest).Like returns (token kind [c] (returns.text rest)) := by
  have like : (token kind [c] rest).Like returns
      (token kind (returns.text [c]) (returns.text rest)) := token_returns
  rwa [returns_single other] at like

theorem still_returns {next : Phase} (same : returns.text chars = rest) :
    (still next chars).Like returns (still next rest) := by
  subst same
  exact .of_returns rfl rfl rfl rfl

theorem refused_returns {words : String} {body : List Char} :
    (refused words body rest).Like returns (refused words (returns.text body) (returns.text rest)) := by
  refine .of_returns rfl rfl rfl ?_
  change Except.error (Obstacle.unexpected _ words) = .error (.unexpected _ words)
  rw [returns_found]

theorem exclamation_returns :
    (exclamation fault '!' rest).Like returns (exclamation fault '!' (returns.text rest)) := by
  by_cases double : rest.head? = some '!'
  · obtain ⟨rest, rfl⟩ := List.head?_eq_some_iff.mp double
    rw [returns_other (by decide)]
    exact .of_returns rfl rfl rfl rfl
  · have double' : (returns.text rest).head? ≠ some '!' := by rwa [ne_eq, returns_head _ (by decide)]
    rw [exclamation_of_other double, exclamation_of_other double']
    exact token_returns.facing

theorem productionRule_returns :
    (productionRule fault ':' rest).Like returns (productionRule fault ':' (returns.text rest)) := by
  by_cases second : rest.head? = some ':'
  · obtain ⟨rest, rfl⟩ := List.head?_eq_some_iff.mp second
    rw [returns_other (by decide)]
    by_cases third : rest.head? = some '='
    · obtain ⟨rest, rfl⟩ := List.head?_eq_some_iff.mp third
      rw [returns_other (by decide)]
      exact .of_returns rfl rfl rfl rfl
    · have third' : (returns.text rest).head? ≠ some '=' := by rwa [ne_eq, returns_head _ (by decide)]
      rw [productionRule_of_ne_equals third, productionRule_of_ne_equals third']
      exact refused_returns.facing
  · have second' : (returns.text rest).head? ≠ some ':' := by rwa [ne_eq, returns_head _ (by decide)]
    rw [productionRule_of_ne_colon second, productionRule_of_ne_colon second']
    exact refused_returns.facing

theorem dots_returns :
    (dots fault '.' rest).Like returns (dots fault '.' (returns.text rest)) := by
  by_cases second : rest.head? = some '.'
  · obtain ⟨rest, rfl⟩ := List.head?_eq_some_iff.mp second
    rw [returns_other (by decide)]
    by_cases third : rest.head? = some '.'
    · obtain ⟨rest, rfl⟩ := List.head?_eq_some_iff.mp third
      rw [returns_other (by decide)]
      exact .of_returns rfl rfl rfl rfl
    · have third' : (returns.text rest).head? ≠ some '.' := by rwa [ne_eq, returns_head _ (by decide)]
      rw [dots_of_dot third, dots_of_dot third']
      exact token_returns.facing
  · have second' : (returns.text rest).head? ≠ some '.' := by rwa [ne_eq, returns_head _ (by decide)]
    rw [dots_of_other second, dots_of_other second']
    exact token_returns.facing

theorem enclosed_returns {kind : FrameKind} {closer : Char} (plain : closer ≠ '\r' ∧ closer ≠ '\n') :
    (enclosed fault kind closer chars).Like returns
      (enclosed fault kind closer (returns.text chars)) := by
  have same : ('\r' != closer) = ('\n' != closer) := by
    rw [bne_iff_ne.mpr plain.1.symm, bne_iff_ne.mpr plain.2.symm]
  obtain ⟨body, left⟩ := returns_takeWhile (· != closer) chars same
  simp only [enclosed, body, left]
  exact Like.facing (.of_returns rfl rfl rfl rfl)

theorem enclosureEnd_returns {closer : Char} (plain : closer ≠ '\r' ∧ closer ≠ '\n') :
    (enclosureEnd fault closer chars).Like returns
      (enclosureEnd fault closer (returns.text chars)) := by
  by_cases closes : chars.head? = some closer
  · obtain ⟨rest, rfl⟩ := List.head?_eq_some_iff.mp closes
    rw [returns_other plain.2]
    simp only [enclosureEnd, if_true]
    exact .of_returns rfl (returns_single plain.2).symm rfl rfl
  · have closes' : (returns.text chars).head? ≠ some closer := by rwa [ne_eq, returns_head _ plain]
    rw [enclosureEnd_of_other closes, enclosureEnd_of_other closes']
    exact Like.facing (.of_returns rfl rfl rfl rfl)

theorem groupEnd_returns (other : c ≠ '\n') :
    (groupEnd top c rest).Like returns (groupEnd top c (returns.text rest)) := by
  have plain : (still .bareTerminal (c :: rest)).Like returns
      (still .bareTerminal (c :: returns.text rest)) := still_returns (returns_other other)
  unfold groupEnd
  split
  · exact plain
  · split
    · split
      · refine .of_returns rfl (returns_single other).symm rfl ?_
        change _ = Except.ok (Landing.mk _ (some (_, returns.text [c])) _)
        rw [returns_single other]
      · exact .of_returns rfl rfl (returns_other other).symm rfl
    · exact plain

theorem groupOpener_returns (other : c ≠ '\n') :
    (groupOpener c rest).Like returns (groupOpener c (returns.text rest)) := by
  refine .of_returns rfl (returns_single other).symm rfl ?_
  change _ = Except.ok (Landing.mk _ (some (_, returns.text [c])) _)
  rw [returns_single other]
  rfl

theorem word_returns (other : c ≠ '\n') :
    (word fault c rest).Like returns (word fault c (returns.text rest)) := by
  obtain ⟨more, left⟩ := returns_takeWhile Unicode.isAlphanumeric rest (by decide)
  unfold word
  split
  · rw [more, left, ← returns_other other]
    exact token_returns.facing
  · split
    · refine .of_returns rfl rfl (returns_other other).symm ?_
      change _ = Except.error (Obstacle.unexpected (returns.found (.char c)) _)
      rw [returns_found_char other]
    · exact single_returns other

/-! ### Actions -/

variable {front behind : List Char}

theorem named_returns : (named fault front behind).Like returns
    (named fault (returns.text front) (returns.text behind)) := by
  obtain ⟨raw, left⟩ := returns_takeWhile Place.isNameChar behind (by decide)
  by_cases round : (behind.dropWhile Place.isNameChar).head? = some '('
  · obtain ⟨rest, found⟩ := List.head?_eq_some_iff.mp round
    rw [found, returns_other (by decide)] at left
    have name : (returns.text (behind.takeWhile Place.isNameChar)).rdropWhile Unicode.isBlank =
        returns.text ((behind.takeWhile Place.isNameChar).rdropWhile Unicode.isBlank) :=
      returns_rdropWhile (by decide)
    simp only [named, found, left, raw, name, returns_eq_nil]
    split
    · exact .of_returns rfl rfl (returns_other (by decide)).symm rfl
    · refine .of_returns rfl ?_ rfl rfl
      rw [text_append]
      rfl
  · have round' : ((returns.text behind).dropWhile Place.isNameChar).head? ≠ some '(' := by
      rwa [left, ne_eq, returns_head _ (by decide)]
    rw [named_of_other round, named_of_other round', raw, left]
    have like : (refused "'('" (behind.takeWhile Place.isNameChar)
        (behind.dropWhile Place.isNameChar)).Like returns _ := refused_returns
    exact Like.facing (.of_returns rfl rfl rfl like.landing_eq)

theorem argued_returns : (argued true fault front behind).Like returns
    (argued true fault (returns.text front) (returns.text behind)) := by
  cases behind with
  | nil => exact Like.facing (.of_returns rfl rfl rfl rfl)
  | cons c rest =>
    by_cases round : c = ')'
    · subst round
      rw [returns_other (by decide)]
      exact .of_returns rfl rfl rfl rfl
    · obtain ⟨argument, left⟩ := returns_takeWhile (Place.isArgumentChar true) (c :: rest) (by decide)
      obtain ⟨c', rest', spelled, round'⟩ := returns_cons rest round (by decide)
      rw [argued_of_other round, spelled, argued_of_other round', ← spelled, argument, left]
      exact Like.facing (.of_returns rfl rfl rfl rfl)

theorem braced_returns : (braced fault front behind).Like returns
    (braced fault (returns.text front) (returns.text behind)) := by
  cases behind with
  | nil => exact Like.facing (.of_returns rfl rfl rfl rfl)
  | cons c rest =>
    by_cases brace : c = '\x7d'
    · subst brace
      rw [returns_other (by decide)]
      simp only [braced, if_true]
      refine .of_returns rfl ?_ rfl rfl
      rw [text_append]
      rfl
    · obtain ⟨c', rest', spelled, brace'⟩ := returns_cons rest brace (by decide)
      have found := returns_found (c :: rest)
      rw [spelled] at found ⊢
      simp only [braced, if_neg brace, if_neg brace']
      refine .of_returns rfl rfl spelled.symm ?_
      change _ = Except.error (Obstacle.unexpected (returns.found (.char c)) _)
      rw [show returns.found (.char c) = .char c' from found]

end Stride

/-- A newline selects no handler but the one for white space. -/
private theorem other_of_selected {acceptReturn : Bool} {phase : Phase} {frames : List Frame}
    (selected : phase.SelectedBy acceptReturn frames c) (other : phase ≠ .whitespace) : c ≠ '\n' := by
  rintro rfl
  rcases selected with rfl | ⟨-, closes | closes, -⟩
  · exact other rfl
  · cases closes
  · cases closes

/-- Nothing is closed by a character of a line end. -/
private theorem closer_plain {kind : FrameKind} {opener : Char}
    (opens : FrameKind.ofOpener? opener = some kind) :
    closerOf opener ≠ '\r' ∧ closerOf opener ≠ '\n' := by
  unfold FrameKind.ofOpener? at opens
  split at opens <;> first | decide | cases opens

/-- No handler tells the two ways of ending lines apart, provided that a carriage return counts as
white space. -/
theorem Spot.stride_returns {s s' : Spot} (agrees : s.Agrees true) (proper : s.Proper)
    (like : s.Like returns s') : (s.stride true).Like returns (s'.stride true) := by
  have stride_eq : s'.stride true =
      s.phase.stride true s.left.fault s.top (returns.text s.left.chars) := by
    rw [stride, like.phase_eq, top_like like, like.left_eq]
  rw [stride_eq]
  obtain ⟨phase, frames, ⟨chars, fault⟩, p⟩ := s
  -- What has selected a handler is spelled as it is, so only what stands behind it may differ.
  have selected (selects : phase.isSelected = true) (other : phase ≠ .whitespace) :
      ∃ c rest, chars = c :: rest ∧ c ≠ '\n' ∧ phase.Starts c ∧
        returns.text chars = c :: returns.text rest := by
    obtain ⟨c, rest, rfl, selected⟩ := agrees.shown selects
    have plain := other_of_selected selected other
    exact ⟨c, rest, rfl, plain, selected.starts, returns_other plain⟩
  cases phase with
  | dispatch =>
    cases chars with
    | nil => exact Stride.Like.facing (.of_returns rfl rfl rfl rfl)
    | cons c rest =>
      by_cases newline : c = '\n'
      · subst newline
        exact Stride.still_returns rfl
      · change (Stride.still _ _).Like _ (Stride.dispatch true fault (returns.text (c :: rest)))
        rw [returns_other newline]
        exact Stride.still_returns (returns_other newline)
  | whitespace =>
    obtain ⟨spaces, left⟩ := returns_takeWhile (isSeparator true) chars rfl
    change (Stride.facing _ _).Like _ (Stride.facing _ _)
    rw [spaces, left]
    exact Stride.Like.facing (.of_returns rfl rfl rfl rfl)
  | scanEnclosed =>
    obtain ⟨frame, groups, rfl, -⟩ := agrees.nests
    obtain ⟨opener, opens, closer_eq⟩ := proper frame List.mem_cons_self
    have plain := closer_plain opens
    rw [← closer_eq] at plain
    exact Stride.enclosed_returns plain
  | closeEnclosure =>
    obtain ⟨frame, groups, rfl, -⟩ := agrees.nests
    obtain ⟨opener, opens, closer_eq⟩ := proper frame List.mem_cons_self
    have plain := closer_plain opens
    rw [← closer_eq] at plain
    exact Stride.enclosureEnd_returns plain
  | actionName =>
    obtain ⟨spaces, left⟩ := returns_takeWhile (isSeparator true) chars rfl
    change (Stride.named _ _ _).Like _ (Stride.named _ _ _)
    rw [spaces, left]
    exact Stride.named_returns
  | actionArgs =>
    obtain ⟨separators, left⟩ := returns_takeWhile (Place.isArgumentSeparator true) chars rfl
    change (Stride.argued _ _ _ _).Like _ (Stride.argued _ _ _ _)
    rw [separators, left]
    exact Stride.argued_returns
  | actionClose =>
    obtain ⟨spaces, left⟩ := returns_takeWhile (isSeparator true) chars rfl
    change (Stride.braced _ _ _).Like _ (Stride.braced _ _ _)
    rw [spaces, left]
    exact Stride.braced_returns
  | finished => exact Stride.still_returns rfl
  | endOfRule =>
    obtain ⟨c, rest, rfl, -, rfl, spelled⟩ := selected rfl (by decide)
    rw [spelled]
    exact Stride.exclamation_returns
  | productionRuleOp =>
    obtain ⟨c, rest, rfl, -, rfl, spelled⟩ := selected rfl (by decide)
    rw [spelled]
    exact Stride.productionRule_returns
  | sequence =>
    obtain ⟨c, rest, rfl, -, rfl, spelled⟩ := selected rfl (by decide)
    rw [spelled]
    exact Stride.dots_returns
  | or | assign | and =>
    obtain ⟨c, rest, rfl, plain, -, spelled⟩ := selected rfl (by decide)
    rw [spelled]
    exact Stride.single_returns plain
  | openEnclosure | actionOpen =>
    obtain ⟨c, rest, rfl, plain, -, spelled⟩ := selected rfl (by decide)
    rw [spelled]
    exact .of_returns rfl (returns_single plain).symm rfl rfl
  | openGroup =>
    obtain ⟨c, rest, rfl, plain, -, spelled⟩ := selected rfl (by decide)
    rw [spelled]
    exact Stride.groupOpener_returns plain
  | closeGroup =>
    obtain ⟨c, rest, rfl, plain, -, spelled⟩ := selected rfl (by decide)
    rw [spelled]
    exact Stride.groupEnd_returns plain
  | bareTerminal =>
    obtain ⟨c, rest, rfl, plain, -, spelled⟩ := selected rfl (by decide)
    rw [spelled]
    exact Stride.word_returns plain

end GrammarLex
