import GrammarLex.Proofs.Scan.Walk

/-!
# A step that fails changes nothing but the intake

Most handlers touch the open constructs last, when nothing can fail any more. Two of them drop the
innermost construct first and take a character then, so for these it has to be shown that the
character is there and that it may be collected: it has been looked at before, nothing else has been
collected since, and whoever has opened a construct has collected one character already.
-/
namespace GrammarLex

namespace Scan

variable {α β : Type} {action : Action α} {f : α → Action β}

/-- The action leaves the open constructs alone. -/
def Steady (action : Action α) : Prop := ∀ t, (finalState (action t)).nesting = t.nesting

/-- The action leaves the open constructs alone if it fails. -/
def Spares (action : Action α) : Prop :=
  ∀ t e t', action t = .error e t' → t'.nesting = t.nesting

def Succeeds (action : Action α) : Prop := ∀ t, ∃ a t', action t = .ok a t'

theorem Steady.spares (steady : Steady action) : Spares action := by
  intro t e t' failed
  have kept := steady t
  rwa [failed] at kept

theorem Steady.of_ok (steady : Steady action) {t t' : Scan} {a : α} (done : action t = .ok a t') :
    t'.nesting = t.nesting := by
  have kept := steady t
  rwa [done] at kept

theorem Steady.bind (first : Steady action) (second : ∀ a, Steady (f a)) : Steady (action >>= f) := by
  intro t
  rw [bind_apply]
  cases done : action t with
  | error e t' => exact first.spares t e t' done
  | ok a t' => exact (second a t').trans (first.of_ok done)

/-- What is done before the open constructs are touched may fail. -/
theorem Steady.bind_spares (first : Steady action) (second : ∀ a, Spares (f a)) :
    Spares (action >>= f) := by
  intro t e t' failed
  rcases bind_eq_error.mp failed with failed | ⟨a, u, done, failed⟩
  · exact first.spares t e t' failed
  · exact (second a u e t' failed).trans (first.of_ok done)

/-- What is done behind must not fail. -/
theorem Spares.bind_succeeds (first : Spares action) (second : ∀ a, Succeeds (f a)) :
    Spares (action >>= f) := by
  intro t e t' failed
  rcases bind_eq_error.mp failed with failed | ⟨a, u, done, failed⟩
  · exact first t e t' failed
  · obtain ⟨b, u', done'⟩ := second a u
    cases failed.symm.trans done'

theorem Succeeds.spares (succeeds : Succeeds action) : Spares action := by
  intro t e t' failed
  obtain ⟨a, u, done⟩ := succeeds t
  cases failed.symm.trans done

theorem Succeeds.bind (first : Succeeds action) (second : ∀ a, Succeeds (f a)) :
    Succeeds (action >>= f) := by
  intro t
  obtain ⟨a, u, done⟩ := first t
  obtain ⟨b, u', done'⟩ := second a u
  exact ⟨b, u', bind_eq_ok.mpr ⟨a, u, done, done'⟩⟩

theorem steady_pure (a : α) : Steady (pure a) := fun _ => rfl

theorem steady_throw (e : ScanError) : Steady (throw e : Action α) := fun _ => rfl

theorem steady_onIntake (action : Intake.Action α) : Steady (onIntake action) := by
  intro t
  simp only [onIntake]
  cases action t.intake <;> rfl

theorem steady_position : Steady position := fun _ => rfl

theorem steady_top : Steady top? := fun _ => rfl

theorem steady_emit (kind : TokenKind) : Steady (emit kind) := fun _ => rfl

theorem spares_renest (g : Nesting → Except ScanError Nesting) : Spares (renest g) := by
  rintro ⟨r, n⟩ e t' failed
  simp only [renest] at failed
  cases turned : g n with
  | ok n' =>
    rw [turned] at failed
    cases failed
  | error e' =>
    rw [turned] at failed
    cases failed
    rfl

theorem succeeds_pure (a : α) : Succeeds (pure a) := fun t => ⟨a, t, rfl⟩

theorem succeeds_clear : Succeeds (onIntake Intake.clear) :=
  fun t => ⟨(), ⟨t.intake.cleared, t.nesting⟩, rfl⟩

theorem succeeds_emit (kind : TokenKind) : Succeeds (emit kind) := fun _ => ⟨_, _, rfl⟩

/-! ### Handlers -/

variable {limits : ScanLimits} {acceptReturn : Bool}

theorem steady_expect (c : Char) (words : String) : Steady (expect limits c words) := by
  refine steady_position.bind fun _ => (steady_onIntake _).bind fun next => ?_
  split
  · exact (steady_onIntake _).bind fun _ => steady_pure _
  · exact steady_throw _

theorem steady_expectAny (words : String) : Steady (expectAny limits words) := by
  refine steady_position.bind fun _ => (steady_onIntake _).bind fun next => ?_
  cases next with
  | some c => exact steady_pure c
  | none => exact steady_throw _

private theorem steady_emitting (next : Phase) (kind : TokenKind) :
    Steady (do return (next, some (← emit kind))) :=
  (steady_emit kind).bind fun _ => steady_pure _

theorem steady_dispatch : Steady (dispatch acceptReturn) := by
  refine (steady_onIntake _).bind fun _ => (steady_onIntake _).bind fun next => ?_
  cases next with
  | none => exact steady_position.bind fun _ => steady_pure _
  | some c => exact steady_pure _

theorem steady_whitespace : Steady (whitespace acceptReturn) :=
  (steady_onIntake _).bind fun _ => (steady_onIntake _).bind fun _ => steady_pure _

theorem steady_single (kind : TokenKind) : Steady (single limits kind) :=
  (steady_onIntake _).bind fun _ => steady_emitting _ kind

theorem steady_endOfRule : Steady (endOfRule limits) := by
  refine (steady_expect _ _).bind fun _ => (steady_onIntake _).bind fun again => ?_
  cases again with
  | true => exact (steady_onIntake _).bind fun _ => steady_emitting _ _
  | false => exact steady_emitting _ _

theorem steady_productionRuleOp : Steady (productionRuleOp limits) :=
  (steady_expect _ _).bind fun _ => (steady_expect _ _).bind fun _ => (steady_expect _ _).bind fun _ =>
    steady_emitting _ _

theorem steady_moreDots (count : Nat) : Steady (moreDots limits count) := by
  induction count with
  | zero => exact steady_pure ()
  | succ count ih =>
    refine (steady_onIntake _).bind fun more => ?_
    cases more with
    | true => exact (steady_onIntake _).bind fun _ => ih
    | false => exact steady_pure ()

theorem steady_sequence : Steady (sequence limits) :=
  (steady_expect _ _).bind fun _ => (steady_moreDots 2).bind fun _ => steady_emitting _ _

theorem steady_scanEnclosed : Steady (scanEnclosed limits) := by
  refine steady_top.bind fun top => ?_
  cases top with
  | none => exact steady_pure _
  | some frame => exact (steady_onIntake _).bind fun _ => steady_emitting _ _

theorem steady_actionName : Steady (actionName limits acceptReturn) := by
  refine (steady_onIntake _).bind fun _ => (steady_onIntake _).bind fun _ =>
    (steady_onIntake _).bind fun _ => steady_position.bind fun _ => (steady_onIntake _).bind fun next => ?_
  split
  · refine Steady.bind (fun _ => rfl) fun _ => (steady_onIntake _).bind fun _ => ?_
    dsimp only
    split
    · exact steady_throw _
    · exact (steady_onIntake _).bind fun _ => (steady_onIntake _).bind fun _ => steady_pure _
  · exact steady_throw _

theorem steady_actionArgs : Steady (actionArgs limits acceptReturn) := by
  refine (steady_onIntake _).bind fun _ => (steady_onIntake _).bind fun _ =>
    (steady_onIntake _).bind fun next => ?_
  split
  · exact steady_position.bind fun _ => steady_throw _
  · exact (steady_onIntake _).bind fun _ => (steady_onIntake _).bind fun _ => steady_pure _
  · exact (steady_onIntake _).bind fun _ => steady_emitting _ _

theorem steady_bareTerminal : Steady (bareTerminal limits) := by
  refine steady_position.bind fun _ => (steady_onIntake _).bind fun next => ?_
  cases next with
  | none => exact steady_pure _
  | some c =>
    dsimp only
    split
    · exact (steady_onIntake _).bind fun _ => steady_emitting _ _
    · split
      · exact (steady_onIntake _).bind fun _ => steady_emitting _ _
      · exact steady_throw _

theorem spares_openEnclosure : Spares (openEnclosure limits) :=
  steady_position.bind_spares fun _ => (steady_expectAny _).bind_spares fun _ =>
    (spares_renest _).bind_succeeds fun _ => succeeds_clear.bind fun _ =>
      Succeeds.bind (fun _ => ⟨_, _, rfl⟩) fun _ => succeeds_pure _

theorem spares_openGroup : Spares (openGroup limits) :=
  steady_position.bind_spares fun _ => (steady_expectAny _).bind_spares fun _ =>
    (spares_renest _).bind_succeeds fun _ => Succeeds.bind (fun _ => ⟨_, _, rfl⟩) fun _ =>
      (succeeds_emit _).bind fun _ => succeeds_pure _

theorem spares_actionOpen : Spares (actionOpen limits) :=
  steady_position.bind_spares fun _ => (steady_expect _ _).bind_spares fun _ =>
    (spares_renest _).bind_succeeds fun _ => succeeds_clear.bind fun _ => succeeds_pure _

theorem steady_closingBrace : Steady (closingBrace limits) := by
  refine (steady_onIntake _).bind fun next => ?_
  split
  · exact (steady_onIntake _).bind fun _ => steady_pure _
  · exact steady_pure _
  · exact steady_position.bind fun _ => steady_throw _

/-- The action is dropped when nothing is left to be read. -/
theorem spares_actionClose : Spares (actionClose limits acceptReturn) :=
  (steady_onIntake _).bind_spares fun _ => steady_closingBrace.bind_spares fun _ =>
    Succeeds.spares (Succeeds.bind (fun _ => ⟨_, _, rfl⟩) fun _ => succeeds_clear.bind fun _ =>
      succeeds_pure _)

/-- Most handlers touch the open constructs only where nothing can fail any more. -/
theorem handler_spares {phase : Phase} (enclosure : phase ≠ .closeEnclosure)
    (group : phase ≠ .closeGroup) : Spares (handler limits acceptReturn phase) := by
  cases phase with
  | dispatch => exact steady_dispatch.spares
  | whitespace => exact steady_whitespace.spares
  | endOfRule => exact steady_endOfRule.spares
  | productionRuleOp => exact steady_productionRuleOp.spares
  | or | assign | and => exact (steady_single _).spares
  | sequence => exact steady_sequence.spares
  | openEnclosure => exact spares_openEnclosure
  | scanEnclosed => exact steady_scanEnclosed.spares
  | closeEnclosure => exact absurd rfl enclosure
  | openGroup => exact spares_openGroup
  | closeGroup => exact absurd rfl group
  | actionOpen => exact spares_actionOpen
  | actionName => exact steady_actionName.spares
  | actionArgs => exact steady_actionArgs.spares
  | actionClose => exact spares_actionClose
  | bareTerminal => exact steady_bareTerminal.spares
  | finished => exact (steady_pure _).spares

end Scan

/-! ### The handlers that drop a construct first -/

variable {limits : ScanLimits} {acceptReturn : Bool} {source : CharSource} {m m' : Machine}
  {r r' : Intake} {s s' : Spot} {token : Option Token} {tokens : List Token} {e : ScanError}

/-- What the handlers that drop a construct first rely on. -/
structure Spot.Primed (limits : ScanLimits) (s : Spot) : Prop where
  -- Whoever has collected a text has looked at the character behind it.
  looked : s.phase = .closeEnclosure → s.left.chars = [] → s.left.fault = none
  -- Whoever has opened a construct has collected its opening delimiter.
  roomy : s.frames ≠ [] → 0 < limits.maxLexeme

namespace Machine

/-- The closer of a text can be taken if it is there. -/
private theorem At.next_of_closeEnclosure (here : m.At acceptReturn r s) (primed : s.Primed limits)
    (phase : s.phase = .closeEnclosure) : ∃ s', s.next limits acceptReturn = .ok (none, s') := by
  obtain ⟨phase', frames, ⟨chars, fault⟩, p⟩ := s
  subst phase
  obtain ⟨frame, groups, rfl, -⟩ := here.spot_agrees.nests
  have room : 0 < limits.maxLexeme := primed.roomy (List.cons_ne_nil _ _)
  have lands : (Stride.enclosureEnd fault frame.closer chars).landing =
        .ok { next := .dispatch, turn := .closes } ∧
      (Stride.enclosureEnd fault frame.closer chars).counted ≤ limits.maxLexeme := by
    cases chars with
    | nil =>
      rw [Stride.enclosureEnd, Stride.facing_of_whole fun _ => primed.looked rfl rfl]
      exact ⟨rfl, Nat.zero_le _⟩
    | cons c rest =>
      rw [Stride.enclosureEnd]
      split
      · exact ⟨rfl, room⟩
      · exact ⟨rfl, Nat.zero_le _⟩
  exact ⟨_, Spot.take_of_silent lands.2 lands.1 rfl⟩

/-- Where no group can be closed the open constructs are not touched. -/
private theorem Scan.closeGroup_of_refused (limits : ScanLimits) {n : Nesting} {c : Char}
    (shows : r.Shows c) (refused : n.closeGroup c r.position = .error e) :
    (finalState (Scan.closeGroup limits ⟨r, n⟩)).nesting = n := by
  have looked : Scan.onIntake Intake.peek ⟨r, n⟩ = .ok (some c) ⟨r, n⟩ := by
    simp only [Scan.onIntake, shows.peek_eq]
  change (finalState ((Scan.onIntake Intake.peek >>= _) (⟨r, n⟩ : Scan))).nesting = n
  rw [bind_apply, looked]
  dsimp only
  rw [bind_apply, get_apply]
  simp only [refused]
  cases e.isSoft <;> rfl

theorem closeGroup_eq_ok {n n' : Nesting} {frame : Frame} {c : Char} {p : Position}
    (closes : n.closeGroup c p = .ok (frame, n')) :
    n' = n.pop ∧ n.top? = some frame ∧ frame.kind.isGroup = true ∧ frame.closer = c := by
  unfold Nesting.closeGroup at closes
  split at closes
  next frame' top =>
    split at closes
    next group =>
      split at closes
      next same =>
        cases closes
        exact ⟨rfl, top, group, same⟩
      next => cases closes
    next => cases closes
  next => cases closes

/-- The closer of a group can be taken where it closes the innermost construct. -/
private theorem At.next_of_closeGroup {frame : Frame} {c : Char} (here : m.At acceptReturn r s)
    (primed : s.Primed limits) (phase : s.phase = .closeGroup) (shows : r.Shows c)
    (top : m.nesting.top? = some frame) (group : frame.kind.isGroup = true)
    (closer : frame.closer = c) : ∃ token s', s.next limits acceptReturn = .ok (token, s') := by
  obtain ⟨rest, front⟩ := Spot.chars_of_shows here.holds.stands shows
  rw [Nesting.top?, here.holds.frames_eq] at top
  obtain ⟨phase', frames, ⟨chars, fault⟩, p⟩ := s
  subst phase
  obtain rfl : chars = c :: rest := front
  obtain ⟨groups, rfl⟩ := List.head?_eq_some_iff.mp top
  have lands : (Stride.groupEnd (some (frame.kind, frame.closer)) c rest).landing =
      .ok ⟨.dispatch, some (if frame.kind = .bracket then .bracketRight else .parenRight, [c]),
        .closes⟩ := by
    simp only [Stride.groupEnd, group, closer, if_true]
  have counted : (Stride.groupEnd (some (frame.kind, frame.closer)) c rest).counted = 1 := by
    simp only [Stride.groupEnd, group, closer, if_true]
    rfl
  have room : (Stride.groupEnd (some (frame.kind, frame.closer)) c rest).counted ≤ limits.maxLexeme := by
    rw [counted]
    exact primed.roomy (List.cons_ne_nil _ _)
  exact ⟨_, _, Spot.take_of_landing (s := ⟨.closeGroup, frame :: groups, ⟨c :: rest, fault⟩, p⟩)
    room lands rfl⟩

private theorem At.closeGroup_spares (here : m.At acceptReturn r s) (primed : s.Primed limits)
    (phase : m.phase = .closeGroup) (stepped : m.step limits r = ⟨.error e, m', r'⟩) :
    m'.nesting = m.nesting := by
  have failed := here.next_of_error stepped
  obtain ⟨c, shows, -⟩ := here.agrees.shown (by rw [phase]; rfl)
  cases closes : m.nesting.closeGroup c r.position with
  | ok closed =>
    obtain ⟨-, top, group, closer⟩ := closeGroup_eq_ok closes
    obtain ⟨token, s', taken⟩ := here.next_of_closeGroup primed (here.phase_eq ▸ phase) shows top group
      closer
    cases failed.symm.trans taken
  | error refusal =>
    obtain ⟨n, result, rfl⟩ := handler_of_failed stepped
    rw [phase] at result
    have kept := Scan.closeGroup_of_refused limits shows closes
    change Scan.closeGroup limits _ = _ at result
    rwa [result] at kept

private theorem At.eq_of_failed (here : m.At acceptReturn r s) (primed : s.Primed limits)
    (stepped : m.step limits r = ⟨.error e, m', r'⟩) : m' = m := by
  have kept : m'.nesting = m.nesting := by
    by_cases enclosure : m.phase = .closeEnclosure
    · obtain ⟨s', taken⟩ := here.next_of_closeEnclosure primed (here.phase_eq ▸ enclosure)
      cases (here.next_of_error stepped).symm.trans taken
    · by_cases group : m.phase = .closeGroup
      · exact here.closeGroup_spares primed group stepped
      · obtain ⟨n, result, rfl⟩ := handler_of_failed stepped
        exact Scan.handler_spares enclosure group _ _ _ result
  obtain ⟨n, -, rfl⟩ := handler_of_failed stepped
  obtain rfl : n = m.nesting := kept
  rfl

end Machine

/-! ### What has been collected before -/

namespace Move

variable {phase next : Phase} {frames frames' : List Frame}

private theorem of_opened (move : Move acceptReturn r phase frames next token frames')
    (none : frames = []) (opened : frames' ≠ []) : phase.isOpening = true := by
  cases move with
  | openEnclosure | openGroup | openAction => rfl
  | closeEnclosure | closeGroup | closeAction => cases none
  | _ => exact absurd none opened

end Move

/-- Who opens a construct collects its opening delimiter. -/
private theorem Spot.Agrees.counted_of_opening (agrees : s.Agrees acceptReturn)
    (opening : s.phase.isOpening = true) : (s.stride acceptReturn).counted = 1 := by
  obtain ⟨phase, frames, ⟨chars, fault⟩, p⟩ := s
  obtain ⟨-, shown⟩ := agrees
  cases phase with
  | openEnclosure | openGroup | actionOpen =>
    obtain ⟨c, rest, rfl, -⟩ := shown rfl
    rfl
  | _ => cases opening

namespace Machine

private theorem At.primed_of_step (here : m.At acceptReturn r s) (primed : s.Primed limits)
    (stepped : m.step limits r = ⟨.ok token, m', r'⟩) :
    ∃ s', m'.At acceptReturn r' s' ∧ s'.Primed limits := by
  obtain ⟨s', next_eq, here'⟩ := here.next_of_ok stepped
  obtain ⟨move, -⟩ := here.agrees.moves stepped
  rw [here.phase_eq, here'.phase_eq, here.holds.frames_eq, here'.holds.frames_eq] at move
  have agrees := here.spot_agrees
  refine ⟨s', here', ?_, ?_⟩
  · intro phase empty
    rw [phase] at move
    have scanned := move.of_closeEnclosure
    obtain ⟨phase', frames, ⟨chars, fault⟩, p⟩ := s
    subst scanned
    obtain ⟨frame, groups, rfl, -⟩ := agrees.nests
    obtain ⟨landing, frames', -, lands, -, -, rfl⟩ := Spot.take_eq_ok next_eq
    -- The source has not broken where the text was read to its end.
    change (Stride.enclosed fault frame.kind frame.closer chars).landing = .ok landing at lands
    change (Stride.enclosed fault frame.kind frame.closer chars).rest = [] at empty
    rw [Stride.enclosed, Stride.facing_rest] at empty
    cases fault with
    | none => rfl
    | some e =>
      rw [Stride.enclosed, Stride.facing_of_broken empty rfl] at lands
      cases lands
  · intro opened
    by_cases none : s.frames = []
    · have opening := move.of_opened none opened
      obtain ⟨landing, frames', room, -⟩ := Spot.take_eq_ok next_eq
      rw [agrees.counted_of_opening opening] at room
      exact room
    · exact primed.roomy none

/-- Every state that steps lead to without an error is one in which nothing can fail late. -/
theorem Emits.primed (emits : Emits limits acceptReturn source tokens m r) :
    ∃ s, m.At acceptReturn r s ∧ s.Primed limits := by
  induction emits with
  | fresh => exact ⟨_, at_initial acceptReturn source, nofun, fun opened => absurd rfl opened⟩
  | step before stepped ih =>
    obtain ⟨s, here, primed⟩ := ih
    exact here.primed_of_step primed stepped

/-- A step that fails leaves the machine as it was. -/
theorem Emits.eq_of_failed (emits : Emits limits acceptReturn source tokens m r)
    (stepped : m.step limits r = ⟨.error e, m', r'⟩) : m' = m := by
  obtain ⟨s, here, primed⟩ := emits.primed
  exact here.eq_of_failed primed stepped

end Machine

end GrammarLex
