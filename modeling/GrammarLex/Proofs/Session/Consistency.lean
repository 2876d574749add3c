import GrammarLex.Proofs.Session.Coupled

/-!
# Phase and open constructs always agree

Between two tokens a machine remembers its phase and the open constructs, and looks at the next
character. In every state that it reaches without an error the three agree, so the ways out that its
handlers keep for a state in which they would not agree are never taken, and neither error that is
kept for it is ever handed out.
-/
namespace GrammarLex

namespace Phase

/-- What a handler expects to find of the character that has selected its phase. -/
def literal? : Phase → Option Char
  | .endOfRule => some '!'
  | .productionRuleOp => some ':'
  | .sequence => some '.'
  | .actionOpen => some '\x7b'
  | _ => none

theorem Nests.cases {phase : Phase} {frames : List Frame} (nests : phase.Nests frames) :
    ((phase = .scanEnclosed ∨ phase = .closeEnclosure) ∧ ∃ frame groups,
      frames = frame :: groups ∧ frame.kind.isEnclosure = true ∧ OnlyGroups groups) ∨
    ((phase = .actionName ∨ phase = .actionArgs ∨ phase = .actionClose) ∧ ∃ frame groups,
      frames = frame :: groups ∧ frame.kind = .action ∧ OnlyGroups groups) ∨
    (¬(phase = .scanEnclosed ∨ phase = .closeEnclosure) ∧
      ¬(phase = .actionName ∨ phase = .actionArgs ∨ phase = .actionClose) ∧ OnlyGroups frames) := by
  cases phase with
  | scanEnclosed | closeEnclosure => exact .inl ⟨by simp, nests⟩
  | actionName | actionArgs | actionClose => exact .inr (.inl ⟨by simp, nests⟩)
  | _ => exact .inr (.inr ⟨by simp, by simp, nests⟩)

end Phase

theorem FrameKind.isEnclosure_iff {kind : FrameKind} :
    kind.isEnclosure = true ↔ kind = .nonTerminal ∨ kind = .quote := by
  cases kind <;> simp [isEnclosure]

namespace Machine

/-- The states that successful steps over one source lead to. -/
inductive Reached (limits : ScanLimits) (acceptReturn : Bool) (source : CharSource) :
    Machine → Intake → Prop where
  | fresh : Reached limits acceptReturn source (.initial acceptReturn) (.ofSource source)
  | step {m m' : Machine} {r r' : Intake} {token : Option Token}
      (before : Reached limits acceptReturn source m r)
      (stepped : m.step limits r = ⟨.ok token, m', r'⟩) : Reached limits acceptReturn source m' r'

/-- Phase, open constructs and next character agree. -/
structure Consistent (m : Machine) (r : Intake) : Prop where
  below : ∀ frame ∈ m.nesting.frames.tail, frame.kind = .paren ∨ frame.kind = .bracket
  enclosure_iff : (∃ frame, m.nesting.top? = some frame ∧
      (frame.kind = .nonTerminal ∨ frame.kind = .quote)) ↔
    m.phase = .scanEnclosed ∨ m.phase = .closeEnclosure
  action_iff : (∃ frame, m.nesting.top? = some frame ∧ frame.kind = .action) ↔
    m.phase = .actionName ∨ m.phase = .actionArgs ∨ m.phase = .actionClose
  groups : ¬(m.phase = .scanEnclosed ∨ m.phase = .closeEnclosure) →
    ¬(m.phase = .actionName ∨ m.phase = .actionArgs ∨ m.phase = .actionClose) →
    ∀ frame ∈ m.nesting.frames, frame.kind = .paren ∨ frame.kind = .bracket
  -- A further look at the character changes nothing.
  selected : m.phase.isSelected = true → ∃ c, Intake.peek r = .ok (some c) r ∧
    (Phase.ofLookahead m.acceptReturn c = m.phase ∨
      m.phase = .bareTerminal ∧ (c = ')' ∨ c = ']') ∧ m.nesting.frames = [])

/-- The ways out that handlers keep for a state in which phase, open constructs and next character do
not agree. -/
inductive FallsBack (limits : ScanLimits) (m : Machine) (r : Intake) : Prop where
  -- No construct is open whose text could be collected or whose closer could be taken.
  | unframed (phase : m.phase = .scanEnclosed ∨ m.phase = .closeEnclosure)
      (nothing : m.nesting.top? = none)
  | ended {r' : Intake} (phase : m.phase = .closeGroup ∨ m.phase = .bareTerminal)
      (looked : Intake.peek r = .ok none r')
  -- The opening delimiter cannot be collected because there is no further character.
  | missing {r' : Intake} (phase : m.phase = .openEnclosure ∨ m.phase = .openGroup)
      (collected : Intake.bump limits r = .ok none r')
  -- A fixed character is expected first, and another one or none is there.
  | other {c : Char} {next : Option Char} {r' : Intake} (literal : m.phase.literal? = some c)
      (looked : Intake.peek r = .ok next r') (differs : next ≠ some c)

variable {limits : ScanLimits} {acceptReturn : Bool} {source : CharSource} {m : Machine} {r : Intake}

theorem Reached.agrees (reached : Reached limits acceptReturn source m r) : m.Agrees r := by
  induction reached with
  | fresh => exact agrees_initial acceptReturn _
  | step before stepped ih => exact ih.of_step stepped

theorem Agrees.consistent (agrees : m.Agrees r) : m.Consistent r := by
  obtain ⟨nests, shown⟩ := agrees
  have group {frames : List Frame} (groups : OnlyGroups frames) :
      ∀ frame ∈ frames, frame.kind = .paren ∨ frame.kind = .bracket :=
    fun frame member => FrameKind.isGroup_iff.mp (groups frame member)
  have selected : m.phase.isSelected = true → ∃ c, Intake.peek r = .ok (some c) r ∧
      m.phase.SelectedBy m.acceptReturn m.nesting.frames c := by
    intro selects
    obtain ⟨c, shows, selected⟩ := shown selects
    exact ⟨c, shows.peek_eq, selected⟩
  rcases nests.cases with ⟨phase, frame, groups, open_eq, kind, only⟩ |
    ⟨phase, frame, groups, open_eq, kind, only⟩ | ⟨phase, phase', only⟩
  · have top : m.nesting.top? = some frame := by rw [Nesting.top?, open_eq]; rfl
    rw [FrameKind.isEnclosure_iff] at kind
    refine ⟨?_, iff_of_true ⟨frame, top, kind⟩ phase, iff_of_false ?_ ?_, ?_, selected⟩
    · rw [open_eq]
      exact group only
    · rintro ⟨other, same, action⟩
      cases top.symm.trans same
      rcases kind with kind | kind <;> cases kind.symm.trans action
    · rcases phase with phase | phase <;> simp [phase]
    · exact fun no => absurd phase no
  · have top : m.nesting.top? = some frame := by rw [Nesting.top?, open_eq]; rfl
    refine ⟨?_, iff_of_false ?_ ?_, iff_of_true ⟨frame, top, kind⟩ phase, ?_, selected⟩
    · rw [open_eq]
      exact group only
    · rintro ⟨other, same, encloses⟩
      cases top.symm.trans same
      rcases encloses with encloses | encloses <;> cases kind.symm.trans encloses
    · rcases phase with phase | phase | phase <;> simp [phase]
    · exact fun _ no => absurd phase no
  · have groups := group only
    refine ⟨?_, iff_of_false ?_ phase, iff_of_false ?_ phase', fun _ _ => groups, selected⟩
    · exact fun frame member => groups frame (List.mem_of_mem_tail member)
    · rintro ⟨frame, top, encloses⟩
      rcases groups frame (List.mem_of_mem_head? top) with kind | kind <;> simp [kind] at encloses
    · rintro ⟨frame, top, action⟩
      rcases groups frame (List.mem_of_mem_head? top) with kind | kind <;>
        cases kind.symm.trans action

/-- The first character that a handler expects is the one that has selected its phase. -/
private theorem eq_of_literal {phase : Phase} {frames : List Frame} {c d : Char}
    (literal : phase.literal? = some d) (selected : phase.SelectedBy acceptReturn frames c) :
    c = d := by
  have starts := selected.starts
  cases phase with
  | endOfRule | productionRuleOp | sequence | actionOpen =>
    cases literal
    exact starts
  | _ => cases literal

theorem Agrees.not_fallsBack (agrees : m.Agrees r) : ¬m.FallsBack limits r := by
  have consistent := agrees.consistent
  -- A phase that a character has selected still has the character in front of it.
  have seen : m.phase.isSelected = true → ∀ {next : Option Char} {r' : Intake},
      Intake.peek r = .ok next r' → next.isSome = true := by
    intro selects next r' looked
    obtain ⟨c, found, -⟩ := consistent.selected selects
    cases looked.symm.trans found
    rfl
  intro fallsBack
  cases fallsBack with
  | unframed phase nothing =>
    obtain ⟨frame, top, -⟩ := consistent.enclosure_iff.mpr phase
    cases nothing.symm.trans top
  | ended phase looked =>
    have selects : m.phase.isSelected = true := by rcases phase with phase | phase <;> rw [phase] <;> rfl
    cases seen selects looked
  | @missing r' phase collected =>
    have selects : m.phase.isSelected = true := by rcases phase with phase | phase <;> rw [phase] <;> rfl
    obtain ⟨c, shows, -⟩ := agrees.shown selects
    obtain ⟨next, r₁, taken, rest⟩ := bind_eq_ok.mp collected
    cases taken.symm.trans shows.take_eq
    obtain ⟨_, _, _, rest⟩ := bind_eq_ok.mp rest
    cases rest
  | @other d next r' literal looked differs =>
    have selects : m.phase.isSelected = true := by
      cases phase : m.phase <;> rw [phase] at literal <;> first | rfl | cases literal
    obtain ⟨c, found, selected⟩ := consistent.selected selects
    cases looked.symm.trans found
    exact differs (congrArg some (eq_of_literal literal selected))

end Machine

namespace Session

/-- Without an error phase, open constructs and next character always agree, no handler takes a way
out that is kept for a state in which they do not, and no request is answered with an error that is
kept for it. -/
theorem always_consistent (limits : ScanLimits) (preferences : LexicalPreferences)
    (source : CharSource) :
    (∀ m r, Machine.Reached limits preferences.acceptCarriageReturn source m r →
      m.Consistent r ∧ ¬m.FallsBack limits r) ∧
    (∀ requests request e,
      (answer limits ((start preferences source).serve limits requests) request).failure? = some e →
      (∀ expected p, e ≠ .conditionFailed expected p) ∧
        ∀ found p, e ≠ .unexpected found "no token after end of stream" p) := by
  refine ⟨?_, ?_⟩
  · intro m r reached
    exact ⟨reached.agrees.consistent, reached.agrees.not_fallsBack⟩
  · intro requests request e fails
    have stuck := failure_of_answer fails
    have sound := sound_serve limits preferences source (requests ++ [request])
    rw [serve, List.foldl_append] at sound
    obtain ⟨hard, wording⟩ := sound.surfaces e stuck
    refine ⟨?_, wording⟩
    rintro expected p rfl
    cases hard

/-- Behind an angle bracket, and at the error of an action without a name. -/
theorem always_consistent_of_bracket :
    (∃ m r, Machine.Reached .development true ⟨.ofBytes [0x3C], none, none⟩ m r ∧
      m.phase = .scanEnclosed ∧ m.Consistent r ∧ ¬m.FallsBack .development r) ∧
    (answer .development (start {} ⟨.ofBytes [0x7B, 0x28], none, none⟩) .next).failure? =
      some (.unexpected (.char '(') "action name" ⟨1, 1, 2⟩) ∧
    ∀ expected p, ScanError.unexpected (.char '(') "action name" ⟨1, 1, 2⟩ ≠
      .conditionFailed expected p := by
  have reached : ∃ m r, Machine.Reached .development true ⟨.ofBytes [0x3C], none, none⟩ m r ∧
      m.phase = .scanEnclosed := by
    refine ⟨_, _, .step (.step .fresh rfl) rfl, rfl⟩
  obtain ⟨m, r, reached, phase⟩ := reached
  have fails : (answer .development (start {} ⟨.ofBytes [0x7B, 0x28], none, none⟩) .next).failure? =
      some (.unexpected (.char '(') "action name" ⟨1, 1, 2⟩) := by decide +kernel
  have left := (always_consistent .development {} ⟨.ofBytes [0x3C], none, none⟩).1 m r reached
  have right := (always_consistent .development {} ⟨.ofBytes [0x7B, 0x28], none, none⟩).2 [] .next _
    fails
  exact ⟨⟨m, r, reached, phase, left⟩, fails, right.1⟩

end Session

end GrammarLex
