import GrammarLex.Proofs.Scan.Moves
import GrammarLex.Proofs.Scan.Trace

/-!
# Runs in step

A step of the machine makes one move, so phase and open constructs agree after every step. A run to
the next token on coupled sources goes through the same phases on both, and the groups that are open
behind it are told by the kind of the token alone.
-/
namespace GrammarLex

/-! ### Open groups -/

/-- The kinds of the groups among the open constructs. -/
def groupKinds (frames : List Frame) : List FrameKind :=
  (frames.map Frame.kind).filter FrameKind.isGroup

/-- What a token does to the open groups. -/
def TokenKind.regroup : TokenKind → List FrameKind → List FrameKind
  | .parenLeft, groups => .paren :: groups
  | .bracketLeft, groups => .bracket :: groups
  | .parenRight, groups | .bracketRight, groups => groups.tail
  | _, groups => groups

theorem TokenKind.regroup_of_plain {kind : TokenKind} (plain : kind.isPlain = true)
    (groups : List FrameKind) : kind.regroup groups = groups := by
  cases kind <;> first | rfl | cases plain

theorem groupKinds_of_group {frame : Frame} {frames : List Frame}
    (group : frame.kind.isGroup = true) :
    groupKinds (frame :: frames) = frame.kind :: groupKinds frames := by
  rw [groupKinds, List.map_cons, List.filter_cons_of_pos group]
  rfl

theorem groupKinds_of_other {frame : Frame} {frames : List Frame}
    (other : frame.kind.isGroup = false) : groupKinds (frame :: frames) = groupKinds frames := by
  rw [groupKinds, List.map_cons, List.filter_cons_of_neg (by simp [other])]
  rfl

theorem groupKinds_eq_nil {frames : List Frame} (groups : OnlyGroups frames) :
    groupKinds frames = [] ↔ frames = [] := by
  cases frames with
  | nil => simp [groupKinds]
  | cons frame frames => simp [groupKinds_of_group (groups frame List.mem_cons_self)]

theorem FrameKind.isGroup_of_enclosure {kind : FrameKind} (encloses : kind.isEnclosure = true) :
    kind.isGroup = false := by
  cases kind <;> first | rfl | cases encloses

namespace Move

variable {acceptReturn : Bool} {r r' : Intake} {phase next : Phase} {token : Option Token}
  {frames frames' : List Frame}

/-- The token of a move tells what becomes of the open groups. -/
theorem groupKinds_eq (agreed : Agreed acceptReturn phase frames r)
    (move : Move acceptReturn r' phase frames next token frames') :
    groupKinds frames' = token.elim (groupKinds frames) (·.kind.regroup (groupKinds frames)) := by
  have nests := agreed.nests
  cases move with
  | select => rfl
  | finish last => simp [last, TokenKind.regroup]
  | skip => rfl
  | word selected plain => exact (TokenKind.regroup_of_plain plain _).symm
  | openEnclosure kind => exact groupKinds_of_other (FrameKind.isGroup_of_enclosure kind)
  | enclosed plain => exact (TokenKind.regroup_of_plain plain _).symm
  | closeEnclosure =>
    obtain ⟨_, _, same, kind, _⟩ := nests
    cases same
    exact (groupKinds_of_other (FrameKind.isGroup_of_enclosure kind)).symm
  | openGroup kinds =>
    rcases kinds with ⟨kind, opens⟩ | ⟨kind, opens⟩
    · simp [groupKinds_of_group, kind, opens, FrameKind.isGroup, TokenKind.regroup]
    · simp [groupKinds_of_group, kind, opens, FrameKind.isGroup, TokenKind.regroup]
  | closeGroup kinds =>
    rcases kinds with ⟨kind, closes⟩ | ⟨kind, closes⟩
    · simp [groupKinds_of_group, kind, closes, FrameKind.isGroup, TokenKind.regroup]
    · simp [groupKinds_of_group, kind, closes, FrameKind.isGroup, TokenKind.regroup]
  | punctuate => rfl
  | openAction kind => exact groupKinds_of_other (kind ▸ rfl)
  | name plain => exact (TokenKind.regroup_of_plain plain _).symm
  | argument plain => exact (TokenKind.regroup_of_plain plain _).symm
  | endArguments => rfl
  | closeAction =>
    obtain ⟨_, _, same, kind, _⟩ := nests
    cases same
    exact (groupKinds_of_other (kind ▸ rfl)).symm
  | stay => rfl

/-- The machine is finished by the end marker and by nothing else. -/
theorem finished_iff (unfinished : phase ≠ .finished)
    (move : Move acceptReturn r' phase frames next token frames') :
    next = .finished ↔ ∃ marker, token = some marker ∧ marker.kind = .endOfStream := by
  have plain {kind : TokenKind} (plain : kind.isPlain = true) : kind ≠ .endOfStream := by
    rintro rfl
    cases plain
  cases move with
  | @select c =>
    have selected := Phase.isSelected_ofLookahead acceptReturn c
    constructor
    · intro finished
      rw [finished] at selected
      cases selected
    · rintro ⟨marker, same, -⟩
      cases same
  | finish last => simp [last]
  | stay => exact absurd rfl unfinished
  | word selected kind => simp [plain kind]
  | enclosed kind => simp [plain kind]
  | name kind => simp [plain kind]
  | argument kind => simp [plain kind]
  | openGroup kinds => rcases kinds with ⟨-, kind⟩ | ⟨-, kind⟩ <;> simp [kind]
  | closeGroup kinds => rcases kinds with ⟨-, kind⟩ | ⟨-, kind⟩ <;> simp [kind]
  | skip | openEnclosure | closeEnclosure | punctuate | openAction | endArguments | closeAction =>
    simp

/-- A machine that is finished stays so. -/
theorem stays (move : Move acceptReturn r' .finished frames next token frames') : next = .finished := by
  cases move with
  | word selected => cases selected
  | stay => rfl

end Move

/-! ### Steps and runs -/

namespace Machine

/-- Phase and open constructs of the machine agree, in front of the intake. -/
def Agrees (m : Machine) (r : Intake) : Prop := Agreed m.acceptReturn m.phase m.nesting.frames r

/-- The token is what the machine brings on its way to another one. -/
structure Brings (m : Machine) (token : Token) (m' : Machine) : Prop where
  groups_eq : groupKinds m'.nesting.frames = token.kind.regroup (groupKinds m.nesting.frames)
  finished_iff : m'.phase = .finished ↔ token.kind = .endOfStream

theorem agrees_initial (acceptReturn : Bool) (r : Intake) : (initial acceptReturn).Agrees r := by
  have none : OnlyGroups [] := by simp [OnlyGroups]
  exact ⟨none, nofun⟩

end Machine

namespace Coupling

variable {κ : Coupling} {limits : ScanLimits} {m m' : Machine} {r q r' q' : Intake}

/-- Two steps of a machine end alike. -/
inductive StepsAlike (κ : Coupling) (m : Machine) : Stepped → Stepped → Prop where
  | ok {next : Phase} {n : Nesting} {token : Option Token} {r q : Intake}
      (together : κ.Together r q)
      (move : Move m.acceptReturn r m.phase m.nesting.frames next token n.frames) :
      StepsAlike κ m ⟨.ok token, ⟨next, n, m.acceptReturn⟩, r⟩
        ⟨.ok token, ⟨next, n, m.acceptReturn⟩, q⟩
  | failed {e : ScanError} {m' : Machine} {r q : Intake} (surfaces : e.Surfaces)
      (alike : κ.Alike r q) : StepsAlike κ m ⟨.error e, m', r⟩ ⟨.error e, m', q⟩

/-- Two steps of a machine are in step. -/
inductive StepsTo (κ : Coupling) (m : Machine) (left : Stepped) : Stepped → Prop where
  | alike {right : Stepped} (alike : κ.StepsAlike m left right) : StepsTo κ m left right
  | parted {e : ScanError} {m' : Machine} {q : Intake} (parts : κ.Parts e)
      (alone : κ.StepsAlike m left left) : StepsTo κ m left ⟨.error e, m', q⟩

theorem step_stepsTo (limits : ScanLimits) (together : κ.Together r q) (agrees : m.Agrees r) :
    κ.StepsTo m (m.step limits r) (m.step limits q) := by
  obtain ⟨phase, n, acceptReturn⟩ := m
  have taken {r q : Intake} {outcome : Scan.Outcome} {s t : Scan}
      (left : Scan.handler limits acceptReturn phase ⟨r, n⟩ = .ok outcome s)
      (right : Scan.handler limits acceptReturn phase ⟨q, n⟩ = .ok outcome t)
      (moved : κ.Moved acceptReturn phase n.frames outcome s t) :
      κ.StepsAlike ⟨phase, n, acceptReturn⟩ (Machine.step limits ⟨phase, n, acceptReturn⟩ r)
        (Machine.step limits ⟨phase, n, acceptReturn⟩ q) := by
    obtain ⟨same, together', move⟩ := moved
    rw [Machine.step_of_ok left, Machine.step_of_ok right, same]
    exact .ok together' move
  have refused {r q : Intake} {e : ScanError} {s t : Scan}
      (left : Scan.handler limits acceptReturn phase ⟨r, n⟩ = .error e s)
      (right : Scan.handler limits acceptReturn phase ⟨q, n⟩ = .error e t)
      (holds : e.Surfaces ∧ t.nesting = s.nesting ∧ κ.Alike s.intake t.intake) :
      κ.StepsAlike ⟨phase, n, acceptReturn⟩ (Machine.step limits ⟨phase, n, acceptReturn⟩ r)
        (Machine.step limits ⟨phase, n, acceptReturn⟩ q) := by
    obtain ⟨surfaces, same, alike⟩ := holds
    rw [Machine.step_of_error left, Machine.step_of_error right, same]
    exact .failed surfaces alike
  cases handler_steps together limits agrees with
  | done left right holds => exact .alike (taken left right holds)
  | failed left right holds => exact .alike (refused left right holds)
  | parted right holds alone =>
    rw [Machine.step_of_error right]
    refine .parted holds ?_
    cases alone with
    | ok left holds => exact taken left left holds
    | error left holds => exact refused left left holds

/-- Two runs of a machine to the next token end alike. -/
inductive RunsAlike (κ : Coupling) (m : Machine) : Ran → Ran → Prop where
  | token {token : Token} {m' : Machine} {r q : Intake} {peak : Nat} (together : κ.Together r q)
      (agrees : m'.Agrees r) (brings : m.Brings token m') :
      RunsAlike κ m ⟨⟨.ok (some token), m', r⟩, peak⟩ ⟨⟨.ok (some token), m', q⟩, peak⟩
  | failed {e : ScanError} {m' : Machine} {r q : Intake} {peak : Nat} (surfaces : e.Surfaces)
      (alike : κ.Alike r q) : RunsAlike κ m ⟨⟨.error e, m', r⟩, peak⟩ ⟨⟨.error e, m', q⟩, peak⟩

/-- Two runs of a machine to the next token are in step. -/
inductive RunsTo (κ : Coupling) (m : Machine) (left : Ran) : Ran → Prop where
  | alike {right : Ran} (alike : κ.RunsAlike m left right) : RunsTo κ m left right
  | parted {e : ScanError} {m' : Machine} {q : Intake} {peak : Nat} (parts : κ.Parts e)
      (alone : κ.RunsAlike m left left) : RunsTo κ m left ⟨⟨.error e, m', q⟩, peak⟩

/-- A run from where a silent step has led is a run from where the step has started. -/
private theorem RunsAlike.of_silent {left right : Ran} (runs : κ.RunsAlike m' left right)
    (groups_eq : groupKinds m'.nesting.frames = groupKinds m.nesting.frames) :
    κ.RunsAlike m left right := by
  cases runs with
  | token together agrees brings =>
    exact .token together agrees ⟨groups_eq ▸ brings.groups_eq, brings.finished_iff⟩
  | failed surfaces alike => exact .failed surfaces alike

private theorem RunsTo.of_silent {left right : Ran} (runs : κ.RunsTo m' left right)
    (groups_eq : groupKinds m'.nesting.frames = groupKinds m.nesting.frames) :
    κ.RunsTo m left right := by
  cases runs with
  | alike alike => exact .alike (alike.of_silent groups_eq)
  | parted parts alone => exact .parted parts (alone.of_silent groups_eq)

private theorem RunsTo.alone {ran : Ran} (runs : κ.RunsTo m ran ran) : κ.RunsAlike m ran ran := by
  generalize other : ran = right at runs
  cases runs with
  | alike alike => exact other ▸ alike
  | parted parts alone => exact other ▸ alone

/-- Steps that end alike decide whether the runs are in step. -/
private theorem runsTo_of_steps {peak : Nat} (steps : κ.StepsTo m (m.step limits r) (m.step limits q))
    (behind : ∀ {q}, κ.StepsAlike m (m.step limits r) (m.step limits q) →
      κ.RunsTo m (m.run limits r peak) (m.run limits q peak)) :
    κ.RunsTo m (m.run limits r peak) (m.run limits q peak) := by
  generalize other : m.step limits q = right at steps
  cases steps with
  | alike alike => exact behind (other ▸ alike)
  | parted parts alone =>
    rw [Machine.run_of_error other]
    exact .parted parts (behind alone).alone

theorem run_runsTo (limits : ScanLimits) {m : Machine} {r q : Intake} (peak : Nat)
    (together : κ.Together r q) (agrees : m.Agrees r) (unfinished : m.phase ≠ .finished) :
    κ.RunsTo m (m.run limits r peak) (m.run limits q peak) := by
  apply runsTo_of_steps (step_stepsTo limits together agrees)
  intro q alike
  generalize left : m.step limits r = stepped, right : m.step limits q = stepped' at alike
  cases alike with
  | failed surfaces alike =>
    rw [Machine.run_of_error left, Machine.run_of_error right]
    exact .alike (.failed surfaces alike)
  | @ok next n token r' q' together' move =>
    have groups_eq := move.groupKinds_eq agrees
    have finished_iff := move.finished_iff unfinished
    cases token with
    | some token =>
      rw [Machine.run_of_token left, Machine.run_of_token right]
      exact .alike (.token together' (move.agreed agrees) ⟨groups_eq, by simpa using finished_iff⟩)
    | none =>
      -- The machine goes on behind a silent step.
      have goesOn : next ≠ .finished := by simpa using finished_iff
      rw [Machine.run_of_silent left, Machine.run_of_silent right, if_neg goesOn, if_neg goesOn]
      have agrees' : (⟨next, n, m.acceptReturn⟩ : Machine).Agrees r' := move.agreed agrees
      exact (run_runsTo limits _ together' agrees' goesOn).of_silent groups_eq
termination_by m.toDo r
decreasing_by exact Machine.step_toDo left goesOn

end Coupling

/-- A step that succeeds makes one of the moves, and leaves alone whether a carriage return separates
tokens. -/
theorem Machine.Agrees.moves {limits : ScanLimits} {m m' : Machine} {r r' : Intake}
    {token : Option Token} (agrees : m.Agrees r) (stepped : m.step limits r = ⟨.ok token, m', r'⟩) :
    Move m.acceptReturn r' m.phase m.nesting.frames m'.phase token m'.nesting.frames ∧
      m'.acceptReturn = m.acceptReturn := by
  have together : (SourceCoupling.holding CharSource.Stable.true).onIntakes.Together r r :=
    ⟨rfl, rfl, trivial⟩
  have steps := Coupling.step_stepsTo limits together agrees
  rw [stepped] at steps
  obtain ⟨⟨_, move⟩⟩ := steps
  exact ⟨move, rfl⟩

theorem Machine.Agrees.of_step {limits : ScanLimits} {m m' : Machine} {r r' : Intake}
    {token : Option Token} (agrees : m.Agrees r) (stepped : m.step limits r = ⟨.ok token, m', r'⟩) :
    m'.Agrees r' := by
  obtain ⟨move, accepts⟩ := agrees.moves stepped
  rw [Machine.Agrees, accepts]
  exact move.agreed agrees

end GrammarLex
