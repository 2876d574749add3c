import GrammarLex.Proofs.Scan.Agreement
import GrammarLex.Proofs.Scan.Handlers
import GrammarLex.Proofs.Scan.Stride

/-!
# Handlers take their strides

What a handler does at a spot is what its stride comes to there, limits included: the same token and
the same next spot, or the same error. Phase, open constructs and next character have to agree, as
they do in every state that a machine reaches. So a step of the machine is a step from spot to spot.
-/
namespace GrammarLex

variable {limits : ScanLimits} {acceptReturn : Bool} {fault : Option DecodeError} {c : Char}
  {chars rest lexeme : List Char} {p : Position} {r : Intake} {n : Nesting} {s : Spot} {e : DecodeError}

/-! ### What a turn and a stride come to -/

/-- A construct is opened where there is room for it. -/
theorem Turn.apply_opens {opener : Char} {frames frames' : List Frame}
    (turned : (Turn.opens opener).apply limits p frames = .ok frames') :
    ∃ kind, FrameKind.ofOpener? opener = some kind ∧ frames.length + 1 ≤ limits.maxDepth ∧
      frames' = ⟨closerOf opener, kind, p⟩ :: frames := by
  simp only [Turn.apply, Nesting.openWith] at turned
  cases known : FrameKind.ofOpener? opener with
  | none =>
    rw [known] at turned
    cases turned
  | some kind =>
    rw [known] at turned
    by_cases full : Nesting.depth ⟨frames, 0⟩ ≥ limits.maxDepth
    · simp only [Nesting.push, if_pos full] at turned
      cases turned
    · simp only [Nesting.push, if_neg full] at turned
      cases turned
      exact ⟨kind, rfl, Nat.lt_of_not_ge full, rfl⟩

/-- A turn fails only where something is opened: there is no room for it, or nothing opens so. -/
theorem Turn.apply_refused {turn : Turn} {frames : List Frame} {refusal : ScanError}
    (turned : turn.apply limits p frames = .error refusal) : ∃ opener, turn = .opens opener ∧
      (FrameKind.ofOpener? opener ≠ none →
        limits.maxDepth ≤ frames.length ∧ refusal = .nestedTooDeep (frames.length + 1) p) := by
  cases turn with
  | stay | closes => cases turned
  | opens opener =>
    refine ⟨opener, rfl, fun opens => ?_⟩
    obtain ⟨kind, known⟩ := Option.ne_none_iff_exists'.mp opens
    simp only [apply, Nesting.openWith, known] at turned
    by_cases full : Nesting.depth ⟨frames, 0⟩ ≥ limits.maxDepth
    · simp only [Nesting.push, if_pos full] at turned
      cases turned
      exact ⟨full, rfl⟩
    · simp only [Nesting.push, if_neg full] at turned
      cases turned

/-- A construct is refused at the place where it would be opened. -/
theorem Turn.position_of_refused {turn : Turn} {frames : List Frame} {refusal : ScanError}
    (turned : turn.apply limits p frames = .error refusal) : refusal.position = p := by
  obtain ⟨opener, rfl, refused⟩ := apply_refused turned
  cases known : FrameKind.ofOpener? opener with
  | none =>
    simp only [apply, Nesting.openWith, known] at turned
    cases turned
    rfl
  | some kind =>
    obtain ⟨-, rfl⟩ := refused (Option.ne_none_iff_exists'.mpr ⟨kind, known⟩)
    rfl

/-- However a handler turns, no more constructs are open than the limit allows. -/
theorem Turn.length_le {turn : Turn} {frames frames' : List Frame}
    (turned : turn.apply limits p frames = .ok frames') (within : frames.length ≤ limits.maxDepth) :
    frames'.length ≤ limits.maxDepth := by
  cases turn with
  | stay =>
    cases turned
    exact within
  | opens opener =>
    obtain ⟨kind, -, room, rfl⟩ := Turn.apply_opens turned
    exact room
  | closes =>
    cases turned
    exact Nat.le_trans (List.length_tail ▸ Nat.sub_le _ _) within

namespace Spot

variable {stride : Stride}

theorem take_of_long (long : limits.maxLexeme < stride.counted) : s.take limits stride =
    .error (.lexemeTooLong (limits.maxLexeme + 1) (s.start.advanceBy stride.front)) :=
  if_pos long

theorem take_of_obstacle (obstacle : Obstacle) (room : stride.counted ≤ limits.maxLexeme)
    (stops : stride.landing = .error obstacle) :
    s.take limits stride = .error (obstacle.error (s.position.advanceBy stride.used)) := by
  simp only [take, if_neg (Nat.not_lt_of_le room), stops]

theorem take_of_landing {landing : Landing} {frames : List Frame}
    (room : stride.counted ≤ limits.maxLexeme) (lands : stride.landing = .ok landing)
    (turned : landing.turn.apply limits s.position s.frames = .ok frames) :
    s.take limits stride = .ok
      (landing.token.map fun (kind, lexeme) =>
          .ofPosition (String.ofList lexeme) kind (s.start.advanceBy stride.front),
        ⟨landing.next, frames, ⟨stride.rest, s.left.fault⟩, s.position.advanceBy stride.used⟩) := by
  simp only [take, if_neg (Nat.not_lt_of_le room), lands, turned]
  rfl

/-- A handler that emits nothing. -/
theorem take_of_silent {next : Phase} {turn : Turn} {frames : List Frame}
    (room : stride.counted ≤ limits.maxLexeme) (lands : stride.landing = .ok ⟨next, none, turn⟩)
    (turned : turn.apply limits s.position s.frames = .ok frames) : s.take limits stride =
      .ok (none, ⟨next, frames, ⟨stride.rest, s.left.fault⟩, s.position.advanceBy stride.used⟩) :=
  take_of_landing room lands turned

/-- Nothing is taken and only the phase changes. -/
theorem take_still (next : Phase) (chars : List Char) : s.take limits (.still next chars) =
    .ok (none, ⟨next, s.frames, ⟨chars, s.left.fault⟩, s.position⟩) :=
  take_of_silent (Nat.zero_le _) rfl rfl

theorem take_of_refusal {landing : Landing} {e : ScanError}
    (room : stride.counted ≤ limits.maxLexeme) (lands : stride.landing = .ok landing)
    (turned : landing.turn.apply limits s.position s.frames = .error e) :
    s.take limits stride = .error e := by
  simp only [take, if_neg (Nat.not_lt_of_le room), lands, turned]
  rfl

/-- A step that succeeds has come to a landing. -/
theorem take_eq_ok {token : Option Token} {s' : Spot} (took : s.take limits stride = .ok (token, s')) :
    ∃ landing frames, stride.counted ≤ limits.maxLexeme ∧ stride.landing = .ok landing ∧
      landing.turn.apply limits s.position s.frames = .ok frames ∧
      token = (landing.token.map fun (kind, lexeme) =>
        .ofPosition (String.ofList lexeme) kind (s.start.advanceBy stride.front)) ∧
      s' = ⟨landing.next, frames, ⟨stride.rest, s.left.fault⟩, s.position.advanceBy stride.used⟩ := by
  rcases Nat.lt_or_ge limits.maxLexeme stride.counted with long | room
  · cases (take_of_long long).symm.trans took
  · cases lands : stride.landing with
    | error obstacle => cases (take_of_obstacle obstacle room lands).symm.trans took
    | ok landing =>
      cases turned : landing.turn.apply limits s.position s.frames with
      | error e => cases (take_of_refusal room lands turned).symm.trans took
      | ok frames =>
        cases (take_of_landing room lands turned).symm.trans took
        exact ⟨landing, frames, room, rfl, turned, rfl, rfl⟩

/-- A step that fails collects too much, meets an obstacle, or opens a construct too many. -/
theorem take_eq_error {refusal : ScanError} (took : s.take limits stride = .error refusal) :
    (limits.maxLexeme < stride.counted ∧
      refusal = .lexemeTooLong (limits.maxLexeme + 1) (s.start.advanceBy stride.front)) ∨
    (∃ obstacle, stride.landing = .error obstacle ∧
      refusal = obstacle.error (s.position.advanceBy stride.used)) ∨
    ∃ landing, stride.landing = .ok landing ∧
      landing.turn.apply limits s.position s.frames = .error refusal := by
  rcases Nat.lt_or_ge limits.maxLexeme stride.counted with long | room
  · cases (take_of_long long).symm.trans took
    exact .inl ⟨long, rfl⟩
  · cases lands : stride.landing with
    | error obstacle =>
      cases (take_of_obstacle obstacle room lands).symm.trans took
      exact .inr (.inl ⟨obstacle, rfl, rfl⟩)
    | ok landing =>
      cases turned : landing.turn.apply limits s.position s.frames with
      | error e =>
        cases (take_of_refusal room lands turned).symm.trans took
        exact .inr (.inr ⟨landing, rfl, turned⟩)
      | ok frames => cases (take_of_landing room lands turned).symm.trans took

/-- What a step takes and what it leaves make up the text. -/
theorem next_covers {token : Option Token} {s' : Spot}
    (next_eq : s.next limits acceptReturn = .ok (token, s')) :
    s'.left = ⟨(s.stride acceptReturn).rest, s.left.fault⟩ ∧
      (s.stride acceptReturn).used ++ s'.left.chars = s.left.chars ∧
      s'.position = s.position.advanceBy (s.stride acceptReturn).used := by
  obtain ⟨landing, frames, -, -, -, -, rfl⟩ := take_eq_ok next_eq
  exact ⟨rfl, s.stride_whole acceptReturn, rfl⟩

theorem start_of_other (other : s.phase ≠ .scanEnclosed) : s.start = s.position := by
  unfold start
  split
  next enclosed _ => exact absurd enclosed other
  next => rfl

/-- The source breaks where the handler looks ahead. -/
theorem take_of_broken (empty : stride.rest = []) (broken : fault = some e)
    (room : stride.counted ≤ limits.maxLexeme) : s.take limits (stride.facing fault) =
      .error (Intake.decodeError e (s.position.advanceBy stride.used)) := by
  have room' : (stride.facing fault).counted ≤ limits.maxLexeme := by simpa using room
  have stops : (stride.facing fault).landing = .error (.broken e) := by
    rw [Stride.facing_of_broken empty broken]
  rw [take_of_obstacle _ room' stops, Stride.used, Stride.used, Stride.facing_front, Stride.facing_body]
  rfl

/-- The source breaks where nothing has been taken yet behind what was passed. -/
theorem take_of_end (empty : stride.rest = []) (untaken : stride.body = []) (broken : fault = some e)
    (room : stride.counted ≤ limits.maxLexeme) : s.take limits (stride.facing fault) =
      .error (Intake.decodeError e (s.position.advanceBy stride.front)) := by
  rw [take_of_broken empty broken room, Stride.used, untaken, List.append_nil]

/-- Nothing is taken of what is refused. -/
theorem take_of_unread {obstacle : Obstacle} {rest : List Char} :
    s.take limits { rest, landing := .error obstacle } = .error (obstacle.error s.position) :=
  take_of_obstacle obstacle (Nat.zero_le _) rfl

/-- The phase agrees with the open constructs and with the next character. -/
structure Agrees (acceptReturn : Bool) (s : Spot) : Prop where
  nests : s.phase.Nests s.frames
  shown : s.phase.isSelected = true →
    ∃ c rest, s.left.chars = c :: rest ∧ s.phase.SelectedBy acceptReturn s.frames c

/-- A scan stands at a spot. -/
structure Holds (s : Spot) (t : Scan) : Prop where
  frames_eq : t.nesting.frames = s.frames
  stands : t.intake.Stands s.left s.position [] s.start

/-- A character that has been looked at is the next one of the contents. -/
theorem chars_of_shows {left : Contents} {start : Position} (stands : r.Stands left p lexeme start)
    (shows : r.Shows c) : ∃ rest, left.chars = c :: rest := by
  obtain ⟨⟨feed, lookahead, failure⟩, position, text, counted, begun, overflowed⟩ := r
  obtain ⟨rfl, rfl⟩ := shows
  rw [← stands.contents_eq]
  exact ⟨_, rfl⟩

/-- A phase that agrees with the intake agrees with the spot at which the scan stands. -/
theorem Holds.agrees {t : Scan} (holds : s.Holds t)
    (agreed : Agreed acceptReturn s.phase s.frames t.intake) : s.Agrees acceptReturn := by
  refine ⟨agreed.nests, ?_⟩
  intro selects
  obtain ⟨c, shows, selected⟩ := agreed.shown selects
  obtain ⟨rest, front⟩ := chars_of_shows holds.stands shows
  exact ⟨c, rest, front, selected⟩

/-- An action leads to the token and the spot that a stride comes to, or to its error. -/
def Takes (limits : ScanLimits) (s : Spot) (stride : Stride) (action : Scan.Action Scan.Outcome)
    (t : Scan) : Prop :=
  Leads action t
    (fun outcome t' => ∃ s', s.take limits stride = .ok (outcome.2, s') ∧ outcome.1 = s'.phase ∧
      s'.Holds t')
    fun e => s.take limits stride = .error e

theorem arrives {landing : Landing} {frames : List Frame} {outcome : Scan.Outcome} {t : Scan}
    (room : stride.counted ≤ limits.maxLexeme) (lands : stride.landing = .ok landing)
    (turned : landing.turn.apply limits s.position s.frames = .ok frames)
    (outcome_eq : outcome = (landing.next, landing.token.map fun (kind, lexeme) =>
      .ofPosition (String.ofList lexeme) kind (s.start.advanceBy stride.front)))
    (frames_eq : t.nesting.frames = frames)
    (stands : t.intake.Stands ⟨stride.rest, s.left.fault⟩ (s.position.advanceBy stride.used) []
      (start ⟨landing.next, frames, ⟨stride.rest, s.left.fault⟩, s.position.advanceBy stride.used⟩)) :
    ∃ s', s.take limits stride = .ok (outcome.2, s') ∧ outcome.1 = s'.phase ∧ s'.Holds t := by
  subst outcome_eq
  exact ⟨_, take_of_landing room lands turned, rfl, frames_eq, stands⟩

end Spot

namespace Scan

open Spot Stride

/-- The spot of a phase in front of some characters. -/
private abbrev spot (phase : Phase) (n : Nesting) (chars : List Char) (fault : Option DecodeError)
    (p : Position) : Spot :=
  ⟨phase, n.frames, ⟨chars, fault⟩, p⟩

/-! ### Tokens that are their lexemes -/

private theorem emit_takes {kind : TokenKind} {phase : Phase} (other : phase ≠ .scanEnclosed)
    (room : lexeme.length ≤ limits.maxLexeme)
    (stands : r.Stands ⟨rest, fault⟩ (p.advanceBy lexeme) lexeme p) :
    Takes limits (spot phase n chars fault p) (token kind lexeme rest)
      (do return (.dispatch, some (← emit kind))) ⟨r, n⟩ := by
  have took : (spot phase n chars fault p).take limits (token kind lexeme rest) = _ :=
    take_of_landing room rfl rfl
  rw [start_of_other other] at took
  apply leads_bind.mpr
  apply leads_emit stands
  intro r' stands'
  exact ⟨_, took, rfl, rfl, stands'⟩

/-- Nothing can be collected. -/
private theorem take_of_full {phase : Phase} {stride : Stride} (other : phase ≠ .scanEnclosed)
    (unpassed : stride.front = []) (long : limits.maxLexeme < stride.counted) :
    (spot phase n chars fault p).take limits stride =
      .error (.lexemeTooLong (limits.maxLexeme + 1) p) := by
  rw [take_of_long long, start_of_other other, unpassed]
  rfl

theorem single_takes {kind : TokenKind} {phase : Phase} (other : phase ≠ .scanEnclosed)
    (stands : r.Stands ⟨c :: rest, fault⟩ p [] p) :
    Takes limits (spot phase n (c :: rest) fault p) (token kind [c] rest) (single limits kind)
      ⟨r, n⟩ := by
  apply leads_bind_onIntake
  apply Intake.leads_bump stands (Nat.zero_le _)
  · intro r' room stands'
    exact emit_takes other room stands'
  · intro none
    exact take_of_full other rfl (Nat.lt_of_le_of_lt (Nat.le_of_eq none) Nat.one_pos)

/-! ### Operators -/

theorem exclamation_takes (stands : r.Stands ⟨'!' :: rest, fault⟩ p [] p) :
    Takes limits (spot .endOfRule n ('!' :: rest) fault p) (exclamation fault '!' rest)
      (endOfRule limits) ⟨r, n⟩ := by
  apply leads_bind.mpr
  by_cases double : rest.head? = some '!'
  · obtain ⟨rest, rfl⟩ := List.head?_eq_some_iff.mp double
    apply leads_expect_cons stands
    · intro r₁ room stands₁
      apply leads_bind_onIntake
      apply Intake.leads_peekIs stands₁
      · intro r₂ _ stands₂
        apply leads_bind_onIntake
        apply Intake.leads_bump stands₂ room
        · intro r₃ room' stands₃
          exact emit_takes nofun room' stands₃
        · intro full
          exact take_of_full nofun rfl (by rw [full]; exact Nat.lt_succ_self 1)
      · exact fun e empty => nomatch empty
    · intro none
      exact take_of_full nofun rfl (by rw [none]; exact Nat.succ_pos 1)
  · rw [exclamation_of_other double]
    apply leads_expect_cons stands
    · intro r₁ room stands₁
      apply leads_bind_onIntake
      apply Intake.leads_peekIs stands₁
      · intro r₂ whole stands₂
        have other : (rest.head? == some '!') = false := by simpa using double
        rw [other, facing_of_whole whole]
        exact emit_takes nofun room stands₂
      · exact fun e empty broken => take_of_broken empty broken room
    · intro none
      exact take_of_full nofun facing_front (by rw [none, facing_counted]; exact Nat.succ_pos 0)

/-- Something else than the expected character is refused. -/
private theorem expect_takes {words : String} {phase : Phase} {f : Unit → Action Outcome}
    (other : rest.head? ≠ some c) (room : lexeme.length ≤ limits.maxLexeme)
    (stands : r.Stands ⟨rest, fault⟩ (p.advanceBy lexeme) lexeme p) :
    Takes limits (spot phase n chars fault p) (facing fault (refused words lexeme rest))
      (expect limits c words >>= f) ⟨r, n⟩ := by
  apply leads_bind.mpr
  apply leads_expect_other stands other
  · intro whole
    rw [facing_of_whole whole]
    exact take_of_obstacle (.unexpected (.ofNext rest.head?) words) room rfl
  · exact fun e empty broken => take_of_broken empty broken room

theorem productionRule_takes (stands : r.Stands ⟨':' :: rest, fault⟩ p [] p) :
    Takes limits (spot .productionRuleOp n (':' :: rest) fault p) (productionRule fault ':' rest)
      (productionRuleOp limits) ⟨r, n⟩ := by
  apply leads_bind.mpr
  by_cases second : rest.head? = some ':'
  · obtain ⟨rest, rfl⟩ := List.head?_eq_some_iff.mp second
    by_cases third : rest.head? = some '='
    · obtain ⟨rest, rfl⟩ := List.head?_eq_some_iff.mp third
      apply leads_expect_cons stands
      · intro r₁ room₁ stands₁
        apply leads_bind.mpr
        apply leads_expect_found stands₁ room₁
        · intro r₂ room₂ stands₂
          apply leads_bind.mpr
          apply leads_expect_found stands₂ room₂
          · intro r₃ room₃ stands₃
            exact emit_takes nofun room₃ stands₃
          · intro full
            exact take_of_full nofun rfl (by rw [full]; exact (by decide : 2 < 3))
        · intro full
          exact take_of_full nofun rfl (by rw [full]; exact (by decide : 1 < 3))
      · intro none
        exact take_of_full nofun rfl (by rw [none]; exact (by decide : 0 < 3))
    · rw [productionRule_of_ne_equals third]
      apply leads_expect_cons stands
      · intro r₁ room₁ stands₁
        apply leads_bind.mpr
        apply leads_expect_found stands₁ room₁
        · intro r₂ room₂ stands₂
          exact expect_takes third room₂ stands₂
        · intro full
          exact take_of_full nofun facing_front
            (by rw [full, facing_counted]; exact (by decide : 1 < 2))
      · intro none
        exact take_of_full nofun facing_front (by rw [none, facing_counted]; exact (by decide : 0 < 2))
  · rw [productionRule_of_ne_colon second]
    apply leads_expect_cons stands
    · intro r₁ room₁ stands₁
      exact expect_takes second room₁ stands₁
    · intro none
      exact take_of_full nofun facing_front (by rw [none, facing_counted]; exact (by decide : 0 < 1))

section

variable {start : Position} {done : Unit → Scan → Prop} {failed : ScanError → Prop}

private theorem leads_moreDots_found {count : Nat}
    (stands : r.Stands ⟨'.' :: rest, fault⟩ p lexeme start) (room : lexeme.length ≤ limits.maxLexeme)
    (collected : ∀ r', (lexeme ++ ['.']).length ≤ limits.maxLexeme →
      r'.Stands ⟨rest, fault⟩ (p.advance '.') (lexeme ++ ['.']) start →
      Leads (moreDots limits count) ⟨r', n⟩ done failed)
    (full : limits.maxLexeme = lexeme.length →
      failed (.lexemeTooLong (limits.maxLexeme + 1) start)) :
    Leads (moreDots limits (count + 1)) ⟨r, n⟩ done failed := by
  apply leads_bind_onIntake
  apply Intake.leads_peekIs stands
  · intro r₁ _ stands₁
    apply leads_bind_onIntake
    exact Intake.leads_bump stands₁ room collected full
  · exact fun e empty => nomatch empty

private theorem leads_moreDots_other {count : Nat} (other : rest.head? ≠ some '.')
    (stands : r.Stands ⟨rest, fault⟩ p lexeme start)
    (stopped : ∀ r', (rest = [] → fault = none) → r'.Stands ⟨rest, fault⟩ p lexeme start →
      done () ⟨r', n⟩)
    (broken : ∀ e, rest = [] → fault = some e → failed (Intake.decodeError e p)) :
    Leads (moreDots limits (count + 1)) ⟨r, n⟩ done failed := by
  apply leads_bind_onIntake
  refine Intake.leads_peekIs stands ?_ broken
  intro r₁ whole stands₁
  have unequal : (rest.head? == some '.') = false := by simpa using other
  rw [unequal]
  exact stopped r₁ whole stands₁

end

theorem dots_takes (stands : r.Stands ⟨'.' :: rest, fault⟩ p [] p) :
    Takes limits (spot .sequence n ('.' :: rest) fault p) (dots fault '.' rest)
      (sequence limits) ⟨r, n⟩ := by
  apply leads_bind.mpr
  by_cases second : rest.head? = some '.'
  · obtain ⟨rest, rfl⟩ := List.head?_eq_some_iff.mp second
    by_cases third : rest.head? = some '.'
    · obtain ⟨rest, rfl⟩ := List.head?_eq_some_iff.mp third
      apply leads_expect_cons stands
      · intro r₁ room₁ stands₁
        apply leads_bind.mpr
        apply leads_moreDots_found stands₁ room₁
        · intro r₂ room₂ stands₂
          apply leads_moreDots_found stands₂ room₂
          · intro r₃ room₃ stands₃
            exact emit_takes nofun room₃ stands₃
          · intro full
            exact take_of_full nofun rfl (by rw [full]; exact (by decide : 2 < 3))
        · intro full
          exact take_of_full nofun rfl (by rw [full]; exact (by decide : 1 < 3))
      · intro none
        exact take_of_full nofun rfl (by rw [none]; exact (by decide : 0 < 3))
    · rw [dots_of_dot third]
      apply leads_expect_cons stands
      · intro r₁ room₁ stands₁
        apply leads_bind.mpr
        apply leads_moreDots_found stands₁ room₁
        · intro r₂ room₂ stands₂
          apply leads_moreDots_other third stands₂
          · intro r₃ whole stands₃
            rw [facing_of_whole whole]
            exact emit_takes nofun room₂ stands₃
          · exact fun e empty broken => take_of_broken empty broken room₂
        · intro full
          exact take_of_full nofun facing_front
            (by rw [full, facing_counted]; exact (by decide : 1 < 2))
      · intro none
        exact take_of_full nofun facing_front (by rw [none, facing_counted]; exact (by decide : 0 < 2))
  · rw [dots_of_other second]
    apply leads_expect_cons stands
    · intro r₁ room₁ stands₁
      apply leads_bind.mpr
      apply leads_moreDots_other second stands₁
      · intro r₂ whole stands₂
        rw [facing_of_whole whole]
        exact emit_takes nofun room₁ stands₂
      · exact fun e empty broken => take_of_broken empty broken room₁
    · intro none
      exact take_of_full nofun facing_front (by rw [none, facing_counted]; exact (by decide : 0 < 1))

/-! ### Between constructs -/

theorem dispatch_takes (stands : r.Stands ⟨chars, fault⟩ p [] p) :
    Takes limits (spot .dispatch n chars fault p) (Stride.dispatch acceptReturn fault chars)
      (Scan.dispatch acceptReturn) ⟨r, n⟩ := by
  apply leads_bind_onIntake
  apply Intake.leads_clear stands
  intro r₁ stands₁
  apply leads_bind_onIntake
  apply Intake.leads_peek stands₁
  · intro r₂ whole stands₂
    cases chars with
    | nil =>
      apply leads_bind.mpr
      apply leads_position stands₂
      rw [Stride.dispatch, facing_of_whole whole]
      exact arrives (Nat.zero_le _) rfl rfl rfl rfl stands₂
    | cons c rest =>
      refine arrives (Nat.zero_le _) rfl rfl rfl rfl ?_
      rw [start_of_other]
      · exact stands₂
      · intro enclosed
        have selected := Phase.isSelected_ofLookahead acceptReturn c
        rw [show Phase.ofLookahead acceptReturn c = .scanEnclosed from enclosed] at selected
        cases selected
  · intro e empty broken
    subst empty
    exact take_of_broken rfl broken (Nat.zero_le _)

theorem whitespace_takes (stands : r.Stands ⟨chars, fault⟩ p [] p) :
    Takes limits (spot .whitespace n chars fault p) (Stride.whitespace acceptReturn fault chars)
      (Scan.whitespace acceptReturn) ⟨r, n⟩ := by
  apply leads_bind_onIntake
  apply Intake.leads_skipWhile stands
  · intro _ r₁ whole stands₁
    apply leads_bind_onIntake
    apply Intake.leads_clear stands₁
    intro r₂ stands₂
    rw [Stride.whitespace, facing_of_whole whole]
    exact arrives (Nat.zero_le _) rfl rfl rfl rfl stands₂
  · exact fun e empty broken => take_of_broken empty broken (Nat.zero_le _)

theorem word_takes (stands : r.Stands ⟨c :: rest, fault⟩ p [] p) :
    Takes limits (spot .bareTerminal n (c :: rest) fault p) (Stride.word fault c rest)
      (bareTerminal limits) ⟨r, n⟩ := by
  apply leads_bind.mpr
  apply leads_position stands
  apply leads_bind_onIntake
  apply Intake.leads_peek_cons stands
  intro r₁ stands₁
  by_cases wordy : Unicode.isAlphanumeric c = true
  · have whole := List.takeWhile_cons_of_pos (p := Unicode.isAlphanumeric) (l := rest) wordy
    have left := List.dropWhile_cons_of_pos (p := Unicode.isAlphanumeric) (l := rest) wordy
    simp only [Stride.word, wordy, if_true]
    apply leads_bind_onIntake
    apply Intake.leads_bumpWhile stands₁
    · intro _ r₂ room ended stands₂
      rw [whole] at room stands₂
      rw [left] at ended stands₂
      rw [facing_of_whole ended]
      exact emit_takes nofun room stands₂
    · intro long
      rw [whole] at long
      exact take_of_full nofun facing_front (by rw [facing_counted]; exact long)
    · intro e room ended broken
      rw [whole] at room ⊢
      rw [left] at ended
      exact take_of_broken ended broken room
  · simp only [Stride.word, wordy, ← Bool.not_or]
    by_cases hidden : (Unicode.isBlank c || Unicode.isControl c) = true
    · simp only [hidden, if_true]
      exact take_of_unread
    · simp only [hidden]
      apply leads_bind_onIntake
      apply Intake.leads_bump stands₁ (Nat.zero_le _)
      · intro r₂ room stands₂
        exact emit_takes nofun room stands₂
      · intro none
        exact take_of_full nofun rfl (by rw [none]; exact (by decide : 0 < 1))

/-! ### Opening delimiters -/

private theorem opens_of_room {kind : FrameKind} (known : FrameKind.ofOpener? c = some kind)
    (shallow : n.depth + 1 ≤ limits.maxDepth) :
    (Turn.opens c).apply limits p n.frames = .ok (⟨closerOf c, kind, p⟩ :: n.frames) := by
  have room : ¬Nesting.depth ⟨n.frames, 0⟩ ≥ limits.maxDepth := Nat.not_le_of_lt shallow
  rw [Turn.apply, Nesting.openWith, known]
  simp only [Nesting.push, if_neg room]
  rfl

private theorem opens_of_deep {kind : FrameKind} (known : FrameKind.ofOpener? c = some kind)
    (deep : limits.maxDepth < n.depth + 1) :
    (Turn.opens c).apply limits p n.frames = .error (.nestedTooDeep (n.depth + 1) p) := by
  have full : Nesting.depth ⟨n.frames, 0⟩ ≥ limits.maxDepth := Nat.le_of_lt_succ deep
  rw [Turn.apply, Nesting.openWith, known]
  simp only [Nesting.push, if_pos full]
  rfl

theorem openEnclosure_takes {kind : FrameKind} (known : FrameKind.ofOpener? c = some kind)
    (stands : r.Stands ⟨c :: rest, fault⟩ p [] p) :
    Takes limits (spot .openEnclosure n (c :: rest) fault p) (opening .scanEnclosed c none rest)
      (openEnclosure limits) ⟨r, n⟩ := by
  apply leads_bind.mpr
  apply leads_position stands
  apply leads_bind.mpr
  apply leads_expectAny stands
  · intro r₁ room stands₁
    apply leads_bind.mpr
    apply leads_open known
    · intro shallow deepest
      apply leads_bind_onIntake
      apply Intake.leads_clear stands₁
      intro r₂ stands₂
      apply leads_bind_onIntake
      apply Intake.leads_markStart stands₂
      intro r₃ stands₃
      exact arrives room rfl (opens_of_room known shallow) rfl rfl stands₃
    · exact fun deep => take_of_refusal room rfl (opens_of_deep known deep)
  · exact fun none => take_of_full nofun rfl (by rw [none]; exact (by decide : 0 < 1))

theorem openGroup_takes {kind : FrameKind} (known : FrameKind.ofOpener? c = some kind)
    (stands : r.Stands ⟨c :: rest, fault⟩ p [] p) :
    Takes limits (spot .openGroup n (c :: rest) fault p) (groupOpener c rest)
      (openGroup limits) ⟨r, n⟩ := by
  apply leads_bind.mpr
  apply leads_position stands
  apply leads_bind.mpr
  apply leads_expectAny stands
  · intro r₁ room stands₁
    apply leads_bind.mpr
    apply leads_open known
    · intro shallow deepest
      apply leads_bind.mpr
      apply leads_top.mpr
      apply leads_bind.mpr
      apply leads_emit stands₁
      intro r₂ stands₂
      refine arrives room rfl (opens_of_room known shallow) ?_ rfl stands₂
      -- The frame that has been opened tells the kind of the token.
      rw [groupOpener, known]
      cases kind <;> rfl
    · exact fun deep => take_of_refusal room rfl (opens_of_deep known deep)
  · exact fun none => take_of_full nofun rfl (by rw [none]; exact (by decide : 0 < 1))

theorem actionOpen_takes (stands : r.Stands ⟨'\x7b' :: rest, fault⟩ p [] p) :
    Takes limits (spot .actionOpen n ('\x7b' :: rest) fault p) (opening .actionName '\x7b' none rest)
      (actionOpen limits) ⟨r, n⟩ := by
  apply leads_bind.mpr
  apply leads_position stands
  apply leads_bind.mpr
  apply leads_expect_cons stands
  · intro r₁ room stands₁
    apply leads_bind.mpr
    apply leads_open rfl
    · intro shallow deepest
      apply leads_bind_onIntake
      apply Intake.leads_clear stands₁
      intro r₂ stands₂
      exact arrives room rfl (opens_of_room rfl shallow) rfl rfl stands₂
    · exact fun deep => take_of_refusal room rfl (opens_of_deep rfl deep)
  · exact fun none => take_of_full nofun rfl (by rw [none]; exact (by decide : 0 < 1))

/-! ### Closing delimiters -/

theorem enclosed_takes {frame : Frame} {frames : List Frame} {deepest : Nat}
    (stands : r.Stands ⟨chars, fault⟩ p [] frame.openedAt) :
    Takes limits ⟨.scanEnclosed, frame :: frames, ⟨chars, fault⟩, p⟩
      (enclosed fault frame.kind frame.closer chars) (scanEnclosed limits)
      ⟨r, ⟨frame :: frames, deepest⟩⟩ := by
  apply leads_bind.mpr
  apply leads_top.mpr
  apply leads_bind_onIntake
  apply Intake.leads_bumpWhile stands
  · intro _ r₁ room whole stands₁
    apply leads_bind.mpr
    apply leads_emit stands₁
    intro r₂ stands₂
    rw [enclosed, facing_of_whole whole]
    exact arrives room rfl rfl rfl rfl stands₂
  · intro long
    have counted : (enclosed fault frame.kind frame.closer chars).counted =
      (chars.takeWhile (· != frame.closer)).length := facing_counted
    rw [take_of_long (counted ▸ long), enclosed, facing_front]
    rfl
  · exact fun e room empty broken => take_of_broken empty broken room

theorem enclosureEnd_takes {frame : Frame} {frames : List Frame} {deepest : Nat}
    (stands : r.Stands ⟨chars, fault⟩ p [] p) :
    Takes limits ⟨.closeEnclosure, frame :: frames, ⟨chars, fault⟩, p⟩
      (enclosureEnd fault frame.closer chars) (closeEnclosure limits)
      ⟨r, ⟨frame :: frames, deepest⟩⟩ := by
  apply leads_bind.mpr
  apply leads_bind.mpr
  apply leads_top.mpr
  apply leads_bind.mpr
  apply leads_popFrame.mpr
  apply leads_bind_onIntake
  apply Intake.leads_peek stands
  · intro r₁ whole stands₁
    cases chars with
    | nil =>
      simp only [List.head?_nil, reduceCtorEq, if_false]
      apply leads_pure.mpr
      apply leads_bind_onIntake
      apply Intake.leads_clear stands₁
      intro r₂ stands₂
      rw [enclosureEnd, facing_of_whole whole]
      exact arrives (Nat.zero_le _) rfl rfl rfl rfl stands₂
    | cons c rest =>
      by_cases closes : c = frame.closer
      · have found : (c :: rest).head? = some frame.closer := congrArg some closes
        rw [enclosureEnd, if_pos closes, if_pos found]
        apply leads_bind_onIntake
        apply Intake.leads_bump stands₁ (Nat.zero_le _)
        · intro r₂ room stands₂
          apply leads_pure.mpr
          apply leads_bind_onIntake
          apply Intake.leads_clear stands₂
          intro r₃ stands₃
          exact arrives room rfl rfl rfl rfl stands₃
        · intro none
          exact take_of_long (by rw [none]; exact (by decide : 0 < 1))
      · have other : (c :: rest).head? ≠ some frame.closer := by simpa using closes
        rw [enclosureEnd, if_neg closes, if_neg other]
        apply leads_pure.mpr
        apply leads_bind_onIntake
        apply Intake.leads_clear stands₁
        intro r₂ stands₂
        exact arrives (Nat.zero_le _) rfl rfl rfl rfl stands₂
  · intro e empty broken
    subst empty
    exact take_of_broken rfl broken (Nat.zero_le _)

theorem groupEnd_takes (stands : r.Stands ⟨c :: rest, fault⟩ p [] p) :
    Takes limits (spot .closeGroup n (c :: rest) fault p)
      (groupEnd (spot .closeGroup n (c :: rest) fault p).top c rest) (closeGroup limits) ⟨r, n⟩ := by
  apply leads_bind.mpr
  apply leads_position stands
  apply leads_bind_onIntake
  apply Intake.leads_peek_cons stands
  intro r₁ stands₁
  apply leads_bind.mpr
  apply leads_get.mpr
  obtain ⟨frames, deepest⟩ := n
  cases frames with
  | nil => exact arrives (Nat.zero_le _) rfl rfl rfl rfl stands₁
  | cons frame frames =>
    simp only [groupEnd, Spot.top, Nesting.closeGroup, Nesting.top?, List.head?_cons, Option.map_some]
    cases frame.kind.isGroup with
    | false => exact arrives (Nat.zero_le _) rfl rfl rfl rfl stands₁
    | true =>
      by_cases closes : frame.closer = c
      · simp only [closes, if_true]
        apply leads_bind.mpr
        apply leads_modify.mpr
        apply leads_bind_onIntake
        apply Intake.leads_bump stands₁ (Nat.zero_le _)
        · intro r₂ room stands₂
          apply leads_bind.mpr
          apply leads_emit stands₂
          intro r₃ stands₃
          exact arrives room rfl rfl rfl rfl stands₃
        · intro none
          exact take_of_full (by decide) rfl (by rw [none]; exact (by decide : 0 < 1))
      · simp only [if_true, if_neg closes]
        exact take_of_unread

/-! ### Actions -/

theorem trimEnd_ofList (chars : List Char) : Unicode.trimEnd (String.ofList chars) =
    String.ofList (chars.rdropWhile Unicode.isBlank) := by
  rw [Unicode.trimEnd, String.toList_ofList, List.rdropWhile]

theorem actionName_takes (stands : r.Stands ⟨chars, fault⟩ p [] p) :
    Takes limits (spot .actionName n chars fault p) (Stride.actionName acceptReturn fault chars)
      (Scan.actionName limits acceptReturn) ⟨r, n⟩ := by
  unfold Stride.actionName
  apply leads_bind_onIntake
  apply Intake.leads_skipWhile stands
  · intro _ r₁ _ stands₁
    generalize chars.takeWhile (isSeparator acceptReturn) = front,
      chars.dropWhile (isSeparator acceptReturn) = behind at stands₁ ⊢
    apply leads_bind_onIntake
    apply Intake.leads_clear stands₁
    intro r₂ stands₂
    apply leads_bind_onIntake
    change Leads (Intake.bumpWhile limits Place.isNameChar) _ _ _
    apply Intake.leads_bumpWhile stands₂
    · intro _ r₃ room whole stands₃
      rw [← Position.advanceBy_append] at stands₃
      apply leads_bind.mpr
      apply leads_position stands₃
      apply leads_bind_onIntake
      by_cases round : (behind.dropWhile Place.isNameChar).head? = some '('
      · obtain ⟨rest, left⟩ := List.head?_eq_some_iff.mp round
        apply Intake.leads_peek_cons (left ▸ stands₃)
        intro r₄ stands₄
        apply leads_bind.mpr
        apply leads_get.mpr
        simp only [stands₄.start_eq]
        apply leads_bind_onIntake
        apply Intake.leads_takeLexeme stands₄
        intro r₅ stands₅
        rw [trimEnd_ofList]
        by_cases nameless : (behind.takeWhile Place.isNameChar).rdropWhile Unicode.isBlank = []
        · simp only [named, left, nameless, if_true]
          exact take_of_obstacle (.unexpected (.char '(') "action name") room rfl
        · have visible : (String.ofList ((behind.takeWhile Place.isNameChar).rdropWhile
              Unicode.isBlank)).isEmpty = false := by
            simpa [String.isEmpty_iff] using nameless
          simp only [named, left, if_neg nameless, visible]
          apply leads_bind_onIntake
          apply Intake.leads_bump stands₅ (Nat.zero_le _)
          · intro r₆ _ stands₆
            apply leads_bind_onIntake
            apply Intake.leads_clear stands₆
            intro r₇ stands₇
            refine arrives room rfl rfl rfl rfl ?_
            rw [Stride.used, ← List.append_assoc, Position.advanceBy_append]
            exact stands₇
          · intro none
            -- If nothing may be collected the name is empty, and that has been refused before.
            have empty : behind.takeWhile Place.isNameChar = [] :=
              List.eq_nil_of_length_eq_zero (Nat.le_zero.mp (Nat.le_trans room (Nat.le_of_eq none)))
            exact absurd (by rw [empty, List.rdropWhile_nil]) nameless
      · rw [named_of_other round]
        apply Intake.leads_peek stands₃
        · intro r₄ whole' _
          rw [facing_of_whole whole']
          split
          next found => exact absurd found round
          next =>
            exact take_of_obstacle (.unexpected (.ofNext (behind.dropWhile Place.isNameChar).head?) "'('")
              room rfl
        · exact fun e empty broken => take_of_broken empty broken room
    · intro long
      rw [take_of_long (named_counted ▸ long), named_front]
      rfl
    · intro e room empty broken
      rw [named_of_other (by simp [empty]), ← Position.advanceBy_append]
      exact take_of_broken empty broken room
  · intro e empty broken
    rw [empty, named_of_other (by simp)]
    exact take_of_end rfl rfl broken (Nat.zero_le _)

theorem actionArgs_takes (stands : r.Stands ⟨chars, fault⟩ p [] p) :
    Takes limits (spot .actionArgs n chars fault p) (Stride.actionArgs acceptReturn fault chars)
      (Scan.actionArgs limits acceptReturn) ⟨r, n⟩ := by
  unfold Stride.actionArgs
  apply leads_bind_onIntake
  change Leads (Intake.skipWhile (Place.isArgumentSeparator acceptReturn)) _ _ _
  apply Intake.leads_skipWhile stands
  · intro _ r₁ _ stands₁
    generalize chars.takeWhile (Place.isArgumentSeparator acceptReturn) = front,
      chars.dropWhile (Place.isArgumentSeparator acceptReturn) = behind at stands₁ ⊢
    apply leads_bind_onIntake
    apply Intake.leads_clear stands₁
    intro r₂ stands₂
    apply leads_bind_onIntake
    apply Intake.leads_peek stands₂
    · intro r₃ whole stands₃
      cases behind with
      | nil =>
        rw [← List.append_nil front] at stands₃
        apply leads_bind.mpr
        apply leads_position stands₃
        rw [argued, facing_of_whole whole]
        exact take_of_obstacle (.unexpected .endOfInput "')'") (Nat.zero_le _) rfl
      | cons c rest =>
        by_cases round : c = ')'
        · subst round
          apply leads_bind_onIntake
          apply Intake.leads_bump stands₃ (Nat.zero_le _)
          · intro r₄ room stands₄
            apply leads_bind_onIntake
            apply Intake.leads_clear stands₄
            intro r₅ stands₅
            refine arrives room rfl rfl rfl rfl ?_
            rw [argued, Stride.used, Position.advanceBy_append]
            exact stands₅
          · intro none
            exact take_of_long (by rw [none]; exact (by decide : 0 < 1))
        · rw [argued_of_other round]
          have stays : (c :: rest).head? ≠ some ')' := by simpa using round
          simp only [List.head?_cons]
          apply leads_bind_onIntake
          change Leads (Intake.bumpWhile limits (Place.isArgumentChar acceptReturn)) _ _ _
          apply Intake.leads_bumpWhile stands₃
          · intro _ r₄ room whole' stands₄
            rw [← Position.advanceBy_append] at stands₄
            apply leads_bind.mpr
            apply leads_emit stands₄
            intro r₅ stands₅
            rw [facing_of_whole whole']
            exact arrives room rfl rfl rfl rfl stands₅
          · intro long
            rw [take_of_long (by rw [facing_counted]; exact long), facing_front]
            rfl
          · intro e room empty broken
            rw [← Position.advanceBy_append]
            exact take_of_broken empty broken room
    · intro e empty broken
      have none : behind = [] := empty
      rw [none, argued]
      exact take_of_end rfl rfl broken (Nat.zero_le _)
  · intro e empty broken
    rw [empty, argued]
    exact take_of_end rfl rfl broken (Nat.zero_le _)

theorem actionEnd_takes {frame : Frame} {frames : List Frame} {deepest : Nat}
    (stands : r.Stands ⟨chars, fault⟩ p [] p) :
    Takes limits ⟨.actionClose, frame :: frames, ⟨chars, fault⟩, p⟩
      (Stride.actionEnd acceptReturn fault chars) (Scan.actionClose limits acceptReturn)
      ⟨r, ⟨frame :: frames, deepest⟩⟩ := by
  unfold Stride.actionEnd
  apply leads_bind_onIntake
  apply Intake.leads_skipWhile stands
  · intro _ r₁ _ stands₁
    generalize chars.takeWhile (isSeparator acceptReturn) = spaces,
      chars.dropWhile (isSeparator acceptReturn) = behind at stands₁ ⊢
    apply leads_bind.mpr
    apply leads_bind_onIntake
    apply Intake.leads_peek stands₁
    · intro r₂ whole stands₂
      cases behind with
      | nil =>
        rw [braced, facing_of_whole whole]
        apply leads_pure.mpr
        apply leads_bind.mpr
        apply leads_popFrame.mpr
        apply leads_bind_onIntake
        apply Intake.leads_clear stands₂
        intro r₃ stands₃
        exact arrives (Nat.zero_le _) rfl rfl rfl rfl stands₃
      | cons c rest =>
        by_cases brace : c = '\x7d'
        · subst brace
          apply leads_bind_onIntake
          apply Intake.leads_bump stands₂ (Nat.zero_le _)
          · intro r₃ room stands₃
            apply leads_pure.mpr
            apply leads_bind.mpr
            apply leads_popFrame.mpr
            apply leads_bind_onIntake
            apply Intake.leads_clear stands₃
            intro r₄ stands₄
            refine arrives room rfl rfl rfl rfl ?_
            rw [braced, if_pos rfl, Stride.used, List.nil_append, Position.advanceBy_append]
            exact stands₄
          · intro none
            exact take_of_long (by rw [none]; exact (by decide : 0 < 1))
        · rw [braced, if_neg brace]
          simp only [List.head?_cons]
          apply leads_bind.mpr
          apply leads_position stands₂
          exact take_of_obstacle (.unexpected (.char c) "'\x7d'") (Nat.zero_le _) rfl
    · intro e empty broken
      have none : behind = [] := empty
      rw [none]
      exact take_of_broken rfl broken (Nat.zero_le _)
  · intro e empty broken
    rw [empty]
    exact take_of_broken rfl broken (Nat.zero_le _)

/-! ### Every handler -/

/-- A handler takes its stride where its phase agrees with the spot. -/
theorem handler_takes {t : Scan} (holds : s.Holds t) (agrees : s.Agrees acceptReturn) :
    Takes limits s (s.stride acceptReturn) (handler limits acceptReturn s.phase) t := by
  obtain ⟨phase, frames, ⟨chars, fault⟩, p⟩ := s
  obtain ⟨r, frames, deepest⟩ := t
  obtain ⟨rfl, stands⟩ := holds
  obtain ⟨nests, shown⟩ := agrees
  have selected : phase.isSelected = true → ∃ c rest, chars = c :: rest ∧ phase.Starts c := by
    intro selects
    obtain ⟨c, rest, front, selected⟩ := shown selects
    exact ⟨c, rest, front, selected.starts⟩
  cases phase with
  | dispatch => exact dispatch_takes stands
  | finished => exact arrives (Nat.zero_le _) rfl rfl rfl rfl stands
  | actionName => exact actionName_takes stands
  | actionArgs => exact actionArgs_takes stands
  | scanEnclosed =>
    obtain ⟨frame, groups, rfl, -⟩ := nests
    exact enclosed_takes stands
  | closeEnclosure =>
    obtain ⟨frame, groups, rfl, -⟩ := nests
    exact enclosureEnd_takes stands
  | actionClose =>
    obtain ⟨frame, groups, rfl, -⟩ := nests
    exact actionEnd_takes stands
  | whitespace => exact whitespace_takes stands
  | endOfRule =>
    obtain ⟨c, rest, rfl, rfl⟩ := selected rfl
    exact exclamation_takes stands
  | productionRuleOp =>
    obtain ⟨c, rest, rfl, rfl⟩ := selected rfl
    exact productionRule_takes stands
  | sequence =>
    obtain ⟨c, rest, rfl, rfl⟩ := selected rfl
    exact dots_takes stands
  | or | assign | and =>
    obtain ⟨c, rest, rfl, -⟩ := selected rfl
    exact single_takes nofun stands
  | openEnclosure =>
    obtain ⟨c, rest, rfl, starts⟩ := selected rfl
    rcases starts with rfl | rfl | rfl
    · exact openEnclosure_takes rfl stands
    · exact openEnclosure_takes rfl stands
    · exact openEnclosure_takes rfl stands
  | openGroup =>
    obtain ⟨c, rest, rfl, starts⟩ := selected rfl
    rcases starts with rfl | rfl
    · exact openGroup_takes rfl stands
    · exact openGroup_takes rfl stands
  | closeGroup =>
    obtain ⟨c, rest, rfl, -⟩ := selected rfl
    exact groupEnd_takes stands
  | actionOpen =>
    obtain ⟨c, rest, rfl, rfl⟩ := selected rfl
    exact actionOpen_takes stands
  | bareTerminal =>
    obtain ⟨c, rest, rfl, -⟩ := selected rfl
    exact word_takes stands

end Scan

end GrammarLex
