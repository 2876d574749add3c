import GrammarLex.Proofs.Reading.Follows

/-!
# Handlers follow constructs

For each construct without arguments of its own, the handlers that scan it bring the tokens that a
reading has for it, and leave the machine at the place behind it.
-/
namespace GrammarLex

open Machine

variable {limits : ScanLimits} {acceptReturn : Bool} {fault : Option DecodeError} {place : Place}
  {c : Char} {chars rest : List Char} {r : Intake} {nesting : Nesting} {behind : Place → Reading}

/-- The fault of the source may stop a machine anywhere. -/
private theorem stopped_broken (reading : Reading) (p : Position) (e : DecodeError)
    (found : fault = some e) :
    reading.Follows limits fault [] (some (Intake.decodeError e p)) :=
  .stopped (.broken found)

/-! ### Tokens that are their lexemes -/

private theorem leads_emitted {kind : TokenKind} {lexeme : List Char}
    (stands : r.Stands ⟨chars, fault⟩ (place.position.advanceBy lexeme) lexeme place.position)
    (groups : Groups nesting.frames place.closers) (room : lexeme.length ≤ limits.maxLexeme)
    (others : kind ≠ .endOfStream)
    (resumes : ∀ next, (place.bare kind lexeme chars).next = .ok next →
      Resumes limits acceptReturn fault next (behind next)) :
    Leads (do return (.dispatch, some (← Scan.emit kind)) : Scan.Action Scan.Outcome) ⟨r, nesting⟩
      (Continues limits acceptReturn
        (((place.bare kind lexeme chars).followedBy behind).Follows limits fault))
      fun e => ((place.bare kind lexeme chars).followedBy behind).Follows limits fault [] (some e) := by
  apply leads_bind.mpr
  apply Scan.leads_emit stands
  intro r' stands'
  exact continues_token (Piece.fits_of_lexeme room (Nat.zero_le _)) (decide_eq_false others)
    (resumes _ rfl stands' groups)

theorem completes_single {kind : TokenKind} {phase : Phase}
    (stands : r.Stands ⟨c :: rest, fault⟩ place.position [] place.position)
    (groups : Groups nesting.frames place.closers) (others : kind ≠ .endOfStream)
    (handled : Scan.handler limits acceptReturn phase = Scan.single limits kind) :
    Completes limits acceptReturn fault phase nesting r (place.bare kind [c] rest) := by
  intro behind resumes
  apply yields_of_handler
  rw [handled]
  apply Scan.leads_bind_onIntake
  apply Intake.leads_bump stands (Nat.zero_le _)
  · intro r' room stands'
    exact leads_emitted stands' groups room others resumes
  · intro none
    exact .stopped (.noRoom none)

/-! ### Operators -/

theorem completes_exclamation
    (stands : r.Stands ⟨'!' :: rest, fault⟩ place.position [] place.position)
    (groups : Groups nesting.frames place.closers) :
    Completes limits acceptReturn fault .endOfRule nesting r
      (place.construct acceptReturn '!' rest) := by
  intro behind resumes
  apply yields_of_handler
  apply leads_bind.mpr
  apply Scan.leads_expect_cons stands
  · intro r' room stands'
    apply Scan.leads_bind_onIntake
    apply Intake.leads_peekIs stands'
    · intro r'' _ stands''
      -- The character behind the first one decides which of the two operators this is.
      rcases rest with _ | ⟨d, rest⟩
      · exact leads_emitted stands'' groups room nofun resumes
      · by_cases double : d = '!'
        · subst double
          apply Scan.leads_bind_onIntake
          apply Intake.leads_bump stands'' room
          · intro r''' room' stands'''
            exact leads_emitted stands''' groups room' nofun resumes
          · intro same
            refine .stopped (.tooLong ?_)
            rw [same]
            exact Nat.lt_succ_self _
        · have other : ((d :: rest).head? == some '!') = false := by simpa using double
          have plain : place.construct acceptReturn '!' (d :: rest) =
              place.bare .not ['!'] (d :: rest) := by
            simp only [Place.construct]
            split
            · next same => cases same; exact absurd rfl double
            · rfl
          rw [plain] at resumes ⊢
          rw [other]
          exact leads_emitted stands'' groups room nofun resumes
    · exact fun e _ => stopped_broken _ _ e
  · exact fun none => .stopped (.noRoom none)

private theorem productionRule_of_other {rest : List Char} (other : rest.head? ≠ some ':') :
    place.productionRule rest =
      .fail (.unexpected (.ofNext rest.head?) "'::='" (place.position.advance ':')) := by
  unfold Place.productionRule
  split
  · exact absurd rfl other
  · exact absurd rfl other
  · rfl

private theorem productionRule_of_colon {rest : List Char} (other : rest.head? ≠ some '=') :
    place.productionRule (':' :: rest) =
      .fail (.unexpected (.ofNext rest.head?) "'::='" (place.position.advanceBy [':', ':'])) := by
  unfold Place.productionRule
  split
  next same => cases same; exact absurd rfl other
  next same => cases same; rfl
  next none => exact absurd rfl (none rest)

private theorem productionRule_stops (short : limits.maxLexeme < 3) (p : Position) :
    ((place.productionRule rest).followedBy behind).Stops limits fault
      (.lexemeTooLong (limits.maxLexeme + 1) p) := by
  unfold Place.productionRule
  split
  · exact .tooLong short
  · exact .unread rfl
  · exact .unread rfl

theorem completes_productionRule
    (stands : r.Stands ⟨':' :: rest, fault⟩ place.position [] place.position)
    (groups : Groups nesting.frames place.closers) :
    Completes limits acceptReturn fault .productionRuleOp nesting r (place.productionRule rest) := by
  intro behind resumes
  apply yields_of_handler
  apply leads_bind.mpr
  apply Scan.leads_expect_cons stands
  · intro r₁ room₁ stands₁
    apply leads_bind.mpr
    apply Scan.leads_expect stands₁ room₁
    · intro afterSecond r₂ same room₂ stands₂
      cases same
      apply leads_bind.mpr
      apply Scan.leads_expect stands₂ room₂
      · intro afterThird r₃ same room₃ stands₃
        cases same
        exact leads_emitted stands₃ groups room₃ nofun resumes
      · intro other _
        rw [productionRule_of_colon other]
        exact .stopped .refused
      · intro full
        exact .stopped (productionRule_stops (Nat.lt_of_le_of_lt (Nat.le_of_eq full) (by decide)) _)
      · exact fun e _ => stopped_broken _ _ e
    · intro other _
      rw [productionRule_of_other other]
      exact .stopped .refused
    · intro full
      exact .stopped (productionRule_stops (Nat.lt_of_le_of_lt (Nat.le_of_eq full) (by decide)) _)
    · exact fun e _ => stopped_broken _ _ e
  · exact fun none => .stopped (.noRoom none)

private theorem leads_moreDots {lexeme : List Char} {p start : Position} {failed : ScanError → Prop}
    {done : Unit → Scan → Prop} (count : Nat) (stands : r.Stands ⟨rest, fault⟩ p lexeme start)
    (room : lexeme.length ≤ limits.maxLexeme)
    (collected : ∀ dots r', dots = (rest.takeWhile (· == '.')).take count →
      (lexeme ++ dots).length ≤ limits.maxLexeme →
      r'.Stands ⟨rest.drop dots.length, fault⟩ (p.advanceBy dots) (lexeme ++ dots) start →
      done () ⟨r', nesting⟩)
    (full : limits.maxLexeme < (lexeme ++ (rest.takeWhile (· == '.')).take count).length →
      failed (.lexemeTooLong (limits.maxLexeme + 1) start))
    (broken : ∀ e p, fault = some e → failed (Intake.decodeError e p)) :
    Leads (Scan.moreDots limits count) ⟨r, nesting⟩ done failed := by
  -- On the number of dots that may still be taken.
  induction count generalizing r p lexeme rest with
  | zero =>
    apply collected [] r rfl
    · rw [List.append_nil]
      exact room
    · rw [List.append_nil]
      exact stands
  | succ count ih =>
    apply Scan.leads_bind_onIntake
    apply Intake.leads_peekIs stands
    · intro r₁ _ stands₁
      rcases rest with _ | ⟨d, rest⟩
      · apply collected [] r₁ rfl
        · rw [List.append_nil]
          exact room
        · rw [List.append_nil]
          exact stands₁
      · by_cases dot : d = '.'
        · subst dot
          have taken : (('.' :: rest).takeWhile (· == '.')).take (count + 1) =
              '.' :: (rest.takeWhile (· == '.')).take count := rfl
          rw [taken] at full collected
          apply Scan.leads_bind_onIntake
          apply Intake.leads_bump stands₁ room
          · intro r₂ room₂ stands₂
            apply ih stands₂ room₂
            · intro dots r₃ same room₃ stands₃
              rw [List.append_assoc] at room₃ stands₃
              exact collected ('.' :: dots) r₃ (congrArg _ same) room₃ stands₃
            · intro long
              rw [List.append_assoc] at long
              exact full long
          · intro same
            apply full
            rw [List.length_append, same]
            exact Nat.lt_add_of_pos_right (Nat.succ_pos _)
        · have other : ((d :: rest).head? == some '.') = false := by simpa using dot
          have none : ((d :: rest).takeWhile (· == '.')).take (count + 1) = [] := by
            rw [List.takeWhile_cons_of_neg (by simpa using dot), List.take_nil]
          rw [other]
          apply collected [] r₁ none.symm
          · rw [List.append_nil]
            exact room
          · rw [List.append_nil]
            exact stands₁
    · exact fun e _ => broken e p

theorem completes_dots
    (stands : r.Stands ⟨'.' :: rest, fault⟩ place.position [] place.position)
    (groups : Groups nesting.frames place.closers) :
    Completes limits acceptReturn fault .sequence nesting r (place.dots rest) := by
  intro behind resumes
  apply yields_of_handler
  apply leads_bind.mpr
  apply Scan.leads_expect_cons stands
  · intro r₁ room₁ stands₁
    apply leads_bind.mpr
    apply leads_moreDots 2 stands₁ room₁
    · intro dots r₂ same room₂ stands₂
      subst same
      exact leads_emitted stands₂ groups room₂ nofun resumes
    · exact fun long => .stopped (.tooLong long)
    · exact fun e p => stopped_broken _ p e
  · exact fun none => .stopped (.noRoom none)

/-! ### Words -/

theorem completes_word
    (stands : r.Stands ⟨c :: rest, fault⟩ place.position [] place.position)
    (groups : Groups nesting.frames place.closers) :
    Completes limits acceptReturn fault .bareTerminal nesting r (place.word c rest) := by
  intro behind resumes
  apply yields_of_handler
  apply leads_bind.mpr
  apply Scan.leads_position stands
  apply Scan.leads_bind_onIntake
  apply Intake.leads_peek_cons stands
  intro r₁ stands₁
  unfold Place.word at resumes ⊢
  -- The handler and the reading ask the same two questions about the character.
  by_cases wordy : Unicode.isAlphanumeric c
  · simp only [wordy, if_true] at resumes ⊢
    have whole := List.takeWhile_cons_of_pos (p := Unicode.isAlphanumeric) (l := rest) wordy
    have left := List.dropWhile_cons_of_pos (p := Unicode.isAlphanumeric) (l := rest) wordy
    apply Scan.leads_bind_onIntake
    apply Intake.leads_bumpWhile stands₁
    · intro _ r₂ room _ stands₂
      rw [whole] at room stands₂
      rw [left] at stands₂
      exact leads_emitted stands₂ groups room nofun resumes
    · rw [whole]
      exact fun long => .stopped (.tooLong long)
    · exact fun e _ _ => stopped_broken _ _ e
  · simp only [wordy, ← Bool.not_or] at resumes ⊢
    by_cases hidden : (Unicode.isBlank c || Unicode.isControl c) = true
    · simp only [hidden, if_true] at resumes ⊢
      exact .stopped .refused
    · simp only [Bool.eq_false_iff.mpr hidden] at resumes ⊢
      apply Scan.leads_bind_onIntake
      apply Intake.leads_bump stands₁ (Nat.zero_le _)
      · intro r₂ room stands₂
        exact leads_emitted stands₂ groups room nofun resumes
      · exact fun none => .stopped (.noRoom none)

/-! ### Groups -/

private theorem Groups.depth_eq {closers : List Char} (groups : Groups nesting.frames closers) :
    nesting.depth = closers.length :=
  groups.length_eq

private theorem opens_group (opens : c = '(' ∨ c = '[') :
    ∃ kind, FrameKind.ofOpener? c = some kind ∧ closerOf c = Place.groupCloser c ∧
      (kind = if Place.groupCloser c = ')' then FrameKind.paren else .bracket) ∧
      (if decide (kind = .bracket) = true then TokenKind.bracketLeft else .parenLeft) =
        if c = '(' then .parenLeft else .bracketLeft := by
  rcases opens with rfl | rfl
  · exact ⟨.paren, rfl, rfl, rfl, rfl⟩
  · exact ⟨.bracket, rfl, rfl, rfl, rfl⟩

theorem completes_groupOpener (opens : c = '(' ∨ c = '[')
    (stands : r.Stands ⟨c :: rest, fault⟩ place.position [] place.position)
    (groups : Groups nesting.frames place.closers) :
    Completes limits acceptReturn fault .openGroup nesting r (place.groupOpener c rest) := by
  intro behind resumes
  obtain ⟨kind, known, closes, kind_eq, token_eq⟩ := opens_group opens
  apply yields_of_handler
  apply leads_bind.mpr
  apply Scan.leads_position stands
  apply leads_bind.mpr
  apply Scan.leads_expectAny stands
  · intro r₁ room stands₁
    apply leads_bind.mpr
    apply Scan.leads_open known
    · intro shallow deepest
      apply leads_bind.mpr
      apply Scan.leads_top.mpr
      apply leads_bind.mpr
      apply Scan.leads_emit stands₁
      intro r₂ stands₂
      have opened : Groups (⟨closerOf c, kind, place.position⟩ :: nesting.frames)
          (Place.groupCloser c :: place.closers) := .cons ⟨closes, kind_eq⟩ groups
      have fits : Piece.Fits limits
          ⟨.ofPosition (String.ofList [c]) (if c = '(' then .parenLeft else .bracketLeft)
            place.position, [c], place.closers.length + 1⟩ :=
        Piece.fits_of_lexeme room (Groups.depth_eq groups ▸ shallow)
      refine token_eq ▸ continues_token fits ?_ (resumes _ rfl stands₂ opened)
      rcases opens with rfl | rfl <;> rfl
    · intro deep
      rw [Groups.depth_eq groups] at deep
      exact .stopped (.tooDeep deep)
  · exact fun none => .stopped (.noRoom none)

/-- A closing delimiter can be seen, and is no part of a word. -/
private theorem word_of_closer (closes : c = ')' ∨ c = ']') :
    place.word c rest = place.bare .terminalSymbol [c] rest := by
  rcases closes with rfl | rfl <;> rfl

/-- The frame of a group tells which group it is. -/
private theorem closes_group {kind : FrameKind} (closes : c = ')' ∨ c = ']')
    (grouped : kind = if c = ')' then FrameKind.paren else .bracket) :
    (if kind = .bracket then TokenKind.bracketRight else .parenRight) =
      if c = ')' then .parenRight else .bracketRight := by
  rcases closes with rfl | rfl <;> (rw [grouped]; rfl)

private theorem isGroup_of_groups {closer : Char} {kind : FrameKind}
    (grouped : kind = if closer = ')' then FrameKind.paren else .bracket) : kind.isGroup = true := by
  by_cases round : closer = ')'
  · rw [grouped, if_pos round]
    rfl
  · rw [grouped, if_neg round]
    rfl

theorem completes_groupEnd (closes : c = ')' ∨ c = ']')
    (stands : r.Stands ⟨c :: rest, fault⟩ place.position [] place.position)
    (groups : Groups nesting.frames place.closers) :
    Completes limits acceptReturn fault .closeGroup nesting r (place.groupEnd c rest) := by
  intro behind resumes
  apply yields_of_handler
  apply leads_bind.mpr
  apply Scan.leads_position stands
  apply Scan.leads_bind_onIntake
  apply Intake.leads_peek_cons stands
  intro r₁ stands₁
  apply leads_bind.mpr
  apply leads_get.mpr
  obtain ⟨frames, deepest⟩ := nesting
  obtain ⟨text, position, closers⟩ := place
  cases groups with
  | nil =>
    -- With no group open the delimiter is read once more, as a word.
    have word : Completes limits acceptReturn fault .bareTerminal ⟨[], deepest⟩ r₁
        (Place.word ⟨text, position, []⟩ c rest) := completes_word stands₁ .nil
    rw [word_of_closer closes] at word
    exact continues_silent (by decide) (word behind resumes)
  | @cons frame closer frames closers top others =>
    -- The innermost frame waits for the closer that the reading expects.
    obtain ⟨closer_eq, kind_eq⟩ := top
    have grouped : frame.kind.isGroup = true := isGroup_of_groups kind_eq
    simp only [List.head?_cons, Nesting.closeGroup, Nesting.top?, grouped, if_true, closer_eq]
    unfold Place.groupEnd at resumes ⊢
    by_cases same : closer = c
    · simp only [same, if_true] at resumes ⊢
      apply leads_bind.mpr
      apply leads_modify.mpr
      apply Scan.leads_bind_onIntake
      apply Intake.leads_bump stands₁ (Nat.zero_le _)
      · intro r₂ room stands₂
        apply leads_bind.mpr
        apply Scan.leads_emit stands₂
        intro r₃ stands₃
        have fits : Piece.Fits limits
            ⟨.ofPosition (String.ofList [c]) (if c = ')' then .parenRight else .bracketRight)
              position, [c], 0⟩ := Piece.fits_of_lexeme room (Nat.zero_le _)
        have closed : Groups (Nesting.pop ⟨frame :: frames, deepest⟩).frames closers := others
        rw [same] at kind_eq
        refine closes_group closes kind_eq ▸ continues_token fits ?_ (resumes _ rfl stands₃ closed)
        rcases closes with rfl | rfl <;> rfl
      · exact fun none => .stopped (.noRoom none)
    · simp only [same, if_false] at resumes ⊢
      exact .stopped .refused

/-! ### Quoted and angle-bracketed texts -/

/-- The closer, if it is there, is taken off the text behind an enclosed lexeme. -/
private theorem yields_closeEnclosure {frame : Frame} {frames : List Frame} {deepest : Nat}
    {q : Position} {reading : Reading} (stands : r.Stands ⟨chars, fault⟩ q [] q)
    (closes : ∀ d, chars.head? = some d → d = frame.closer)
    (groups : Groups frames place.closers)
    (resumes : Resumes limits acceptReturn fault
      ⟨chars.drop 1, q.advanceBy (chars.take 1), place.closers⟩ reading) :
    Yields limits ⟨.closeEnclosure, ⟨frame :: frames, deepest⟩, acceptReturn⟩ r
      (reading.Follows limits fault) := by
  apply yields_of_handler
  apply leads_bind.mpr
  apply Scan.leads_closeInnermost stands closes
  · intro r₁ lexeme stands₁
    apply Scan.leads_bind_onIntake
    apply Intake.leads_clear stands₁
    intro r₂ stands₂
    exact continues_silent (by decide) (resumes stands₂ groups)
  · exact fun none => .stopped (.noRoom none)
  · exact fun e _ => stopped_broken _ _ e

private theorem opens_enclosure (opens : c = '"' ∨ c = '\'' ∨ c = '<') :
    ∃ kind, FrameKind.ofOpener? c = some kind ∧ closerOf c = (if c = '<' then '>' else c) ∧
      (if kind = .nonTerminal then TokenKind.nonTerminalSymbol else .terminalSymbol) =
        if c = '<' then .nonTerminalSymbol else .terminalSymbol := by
  rcases opens with rfl | rfl | rfl
  · exact ⟨.quote, rfl, rfl, rfl⟩
  · exact ⟨.quote, rfl, rfl, rfl⟩
  · exact ⟨.nonTerminal, rfl, rfl, rfl⟩

theorem completes_enclosed (opens : c = '"' ∨ c = '\'' ∨ c = '<')
    (stands : r.Stands ⟨c :: rest, fault⟩ place.position [] place.position)
    (groups : Groups nesting.frames place.closers) :
    Completes limits acceptReturn fault .openEnclosure nesting r (place.enclosed c rest) := by
  intro behind resumes
  obtain ⟨kind, known, closer_eq, token_eq⟩ := opens_enclosure opens
  simp only [Place.enclosed, ← closer_eq, ← token_eq] at resumes ⊢
  apply yields_of_handler
  apply leads_bind.mpr
  apply Scan.leads_position stands
  apply leads_bind.mpr
  apply Scan.leads_expectAny stands
  · intro r₁ _ stands₁
    apply leads_bind.mpr
    apply Scan.leads_open known
    · intro shallow deepest
      apply Scan.leads_bind_onIntake
      apply Intake.leads_clear stands₁
      intro r₂ stands₂
      apply Scan.leads_bind_onIntake
      -- The token starts at its opener, although the lexeme starts behind it.
      apply Intake.leads_markStart stands₂
      intro r₃ stands₃
      apply continues_silent (by decide)
      apply yields_of_handler
      apply leads_bind.mpr
      apply Scan.leads_top.mpr
      apply Scan.leads_bind_onIntake
      apply Intake.leads_bumpWhile stands₃
      · intro _ r₄ room _ stands₄
        apply leads_bind.mpr
        apply Scan.leads_emit stands₄
        intro r₅ stands₅
        apply continues_token (Piece.fits_of_lexeme room (Groups.depth_eq groups ▸ shallow))
        · by_cases angled : kind = .nonTerminal
          · rw [if_pos angled]
            rfl
          · rw [if_neg angled]
            rfl
        · refine yields_closeEnclosure stands₅ ?_ groups ?_
          · intro d found
            have stops := List.head?_dropWhile_not (· != closerOf c) rest
            rw [found] at stops
            simpa using stops
          · rw [← Position.advanceBy_cons, ← Position.advanceBy_append]
            exact resumes _ rfl
      · exact fun long => .stopped (.tooLong long)
      · exact fun e _ _ => stopped_broken _ _ e
    · intro deep
      rw [Groups.depth_eq groups] at deep
      exact .stopped (.tooDeep deep)
  · exact fun none => .stopped (.noRoom none)

end GrammarLex
