import GrammarLex.Proofs.Scan.Coupling

/-!
# What a handler can do

`Move` lists everything that a handler can have done when it succeeds: which phase comes next, which
token it emits, which constructs it opens or closes. A handler does so if phase and open constructs
agree and the character that has selected the phase is still to be consumed (`Agreed`), and on
coupled sources it does the same.
-/
namespace GrammarLex

/-! ### Phases and open constructs -/

namespace FrameKind

/-- Quotes and angle brackets, whose text is taken as it is. -/
def isEnclosure : FrameKind → Bool
  | .nonTerminal | .quote => true
  | _ => false

end FrameKind

/-- The token marks neither a group nor the end of the input. -/
def TokenKind.isPlain : TokenKind → Bool
  | .parenLeft | .parenRight | .bracketLeft | .bracketRight | .endOfStream => false
  | _ => true

def OnlyGroups (frames : List Frame) : Prop := ∀ frame ∈ frames, frame.kind.isGroup = true

namespace Phase

/-- The phases that a character selects between constructs. -/
def isSelected : Phase → Bool
  | .whitespace | .endOfRule | .productionRuleOp | .or | .assign | .and | .sequence
  | .openEnclosure | .openGroup | .closeGroup | .actionOpen | .bareTerminal => true
  | _ => false

/-- The constructs that may be open in a phase: within an enclosure or an action that one is
innermost, and everything else is a group. -/
def Nests : Phase → List Frame → Prop
  | .scanEnclosed, frames | .closeEnclosure, frames =>
    ∃ frame groups, frames = frame :: groups ∧ frame.kind.isEnclosure = true ∧ OnlyGroups groups
  | .actionName, frames | .actionArgs, frames | .actionClose, frames =>
    ∃ frame groups, frames = frame :: groups ∧ frame.kind = .action ∧ OnlyGroups groups
  | _, frames => OnlyGroups frames

/-- The character selects the phase, or it closes a group where none is open and is read as plain
punctuation. -/
def SelectedBy (acceptReturn : Bool) (phase : Phase) (frames : List Frame) (c : Char) : Prop :=
  ofLookahead acceptReturn c = phase ∨ phase = .bareTerminal ∧ (c = ')' ∨ c = ']') ∧ frames = []

/-- The characters that select a phase, as far as they are few. -/
def Starts : Phase → Char → Prop
  | .endOfRule, c => c = '!'
  | .productionRuleOp, c => c = ':'
  | .or, c => c = '|'
  | .assign, c => c = '='
  | .and, c => c = '&'
  | .sequence, c => c = '.'
  | .openEnclosure, c => c = '"' ∨ c = '\'' ∨ c = '<'
  | .actionOpen, c => c = '\x7b'
  | .openGroup, c => c = '(' ∨ c = '['
  | .closeGroup, c => c = ')' ∨ c = ']'
  | .whitespace, _ | .bareTerminal, _ => True
  | _, _ => False

theorem starts_ofLookahead (acceptReturn : Bool) (c : Char) :
    (ofLookahead acceptReturn c).Starts c := by
  unfold ofLookahead
  split
  · rfl
  · rfl
  · rfl
  · rfl
  · rfl
  · rfl
  · exact .inl rfl
  · exact .inr (.inl rfl)
  · exact .inr (.inr rfl)
  · rfl
  · exact .inl rfl
  · exact .inr rfl
  · exact .inl rfl
  · exact .inr rfl
  · split <;> trivial

theorem SelectedBy.starts {acceptReturn : Bool} {phase : Phase} {frames : List Frame} {c : Char}
    (selected : phase.SelectedBy acceptReturn frames c) : phase.Starts c := by
  rcases selected with rfl | ⟨rfl, -, -⟩
  · exact starts_ofLookahead acceptReturn c
  · trivial

end Phase

/-- Phase and open constructs agree, and a phase that a character selects has it in front. -/
structure Agreed (acceptReturn : Bool) (phase : Phase) (frames : List Frame) (r : Intake) : Prop where
  nests : phase.Nests frames
  shown : phase.isSelected = true → ∃ c, r.Shows c ∧ phase.SelectedBy acceptReturn frames c

/-- What a handler that succeeds can have done: the phase and the open constructs it has found, the
next phase, the token, and the open constructs it has left. The intake is the one it has left. -/
inductive Move (acceptReturn : Bool) (r : Intake) :
    Phase → List Frame → Phase → Option Token → List Frame → Prop where
  | select {c : Char} {frames : List Frame} (shows : r.Shows c) :
      Move acceptReturn r .dispatch frames (.ofLookahead acceptReturn c) none frames
  | finish {token : Token} {frames : List Frame} (last : token.kind = .endOfStream) :
      Move acceptReturn r .dispatch frames .finished (some token) frames
  | skip {frames : List Frame} : Move acceptReturn r .whitespace frames .dispatch none frames
  | word {phase : Phase} {token : Token} {frames : List Frame} (selected : phase.isSelected = true)
      (plain : token.kind.isPlain = true) :
      Move acceptReturn r phase frames .dispatch (some token) frames
  | openEnclosure {frame : Frame} {frames : List Frame} (kind : frame.kind.isEnclosure = true) :
      Move acceptReturn r .openEnclosure frames .scanEnclosed none (frame :: frames)
  | enclosed {token : Token} {frames : List Frame} (plain : token.kind.isPlain = true) :
      Move acceptReturn r .scanEnclosed frames .closeEnclosure (some token) frames
  | closeEnclosure {frame : Frame} {frames : List Frame} :
      Move acceptReturn r .closeEnclosure (frame :: frames) .dispatch none frames
  | openGroup {token : Token} {frame : Frame} {frames : List Frame}
      (kinds : frame.kind = .paren ∧ token.kind = .parenLeft ∨
        frame.kind = .bracket ∧ token.kind = .bracketLeft) :
      Move acceptReturn r .openGroup frames .dispatch (some token) (frame :: frames)
  | closeGroup {token : Token} {frame : Frame} {frames : List Frame}
      (kinds : frame.kind = .paren ∧ token.kind = .parenRight ∨
        frame.kind = .bracket ∧ token.kind = .bracketRight) :
      Move acceptReturn r .closeGroup (frame :: frames) .dispatch (some token) frames
  -- With no group open the closer of a group is plain punctuation.
  | punctuate {c : Char} (shows : r.Shows c) (closes : c = ')' ∨ c = ']') :
      Move acceptReturn r .closeGroup [] .bareTerminal none []
  | openAction {frame : Frame} {frames : List Frame} (kind : frame.kind = .action) :
      Move acceptReturn r .actionOpen frames .actionName none (frame :: frames)
  | name {token : Token} {frames : List Frame} (plain : token.kind.isPlain = true) :
      Move acceptReturn r .actionName frames .actionArgs (some token) frames
  | argument {token : Token} {frames : List Frame} (plain : token.kind.isPlain = true) :
      Move acceptReturn r .actionArgs frames .actionArgs (some token) frames
  | endArguments {frames : List Frame} :
      Move acceptReturn r .actionArgs frames .actionClose none frames
  | closeAction {frame : Frame} {frames : List Frame} :
      Move acceptReturn r .actionClose (frame :: frames) .dispatch none frames
  | stay {frames : List Frame} : Move acceptReturn r .finished frames .finished none frames

namespace Coupling

variable {κ : Coupling} {limits : ScanLimits} {acceptReturn : Bool} {r q : Intake} {n : Nesting}
  {c : Char} {α β : Type} {f : α → Scan.Action β} {done : β → Scan → Scan → Prop}

/-! ### The operations of handlers -/

theorem steps_bind_onIntake {action : Intake.Action α}
    (runs : κ.Runs action r q fun a r' q' => κ.Steps (f a) ⟨r', n⟩ ⟨q', n⟩ done) :
    κ.Steps (Scan.onIntake action >>= f) ⟨r, n⟩ ⟨q, n⟩ done := by
  have taken {r r' : Intake} {a : α} (result : action r = .ok a r') :
      Scan.onIntake action ⟨r, n⟩ = .ok a ⟨r', n⟩ := by simp only [Scan.onIntake, result]
  have refused {r r' : Intake} {e : ScanError} (result : action r = .error e r') :
      Scan.onIntake action ⟨r, n⟩ = .error e ⟨r', n⟩ := by simp only [Scan.onIntake, result]
  apply InStep.bind
  refine InStep.follow_lift (fun r => (⟨r, n⟩ : Scan)) runs ?_ ?_ ?_
  · exact fun left right holds => .done (taken left) (taken right) holds
  · exact fun left right holds => .failed (refused left) (refused right) ⟨holds.1, rfl, holds.2⟩
  · exact fun right holds => ⟨_, _, refused right, holds⟩

theorem steps_bind_position {f : Position → Scan.Action β} (together : κ.Together r q)
    (second : κ.Steps (f r.position) ⟨r, n⟩ ⟨q, n⟩ done) :
    κ.Steps (Scan.position >>= f) ⟨r, n⟩ ⟨q, n⟩ done :=
  .bind (.done rfl (together.position_eq ▸ rfl) second)

/-- What is taken from the state must not depend on the source. -/
theorem steps_bind_get {f : Scan → Scan.Action β} (same : f ⟨q, n⟩ = f ⟨r, n⟩)
    (second : κ.Steps (f ⟨r, n⟩) ⟨r, n⟩ ⟨q, n⟩ done) :
    κ.Steps (get >>= f) ⟨r, n⟩ ⟨q, n⟩ done := by
  have left : (get >>= f) (⟨r, n⟩ : Scan) = f ⟨r, n⟩ ⟨r, n⟩ := rfl
  have right : (get >>= f) (⟨q, n⟩ : Scan) = f ⟨r, n⟩ ⟨q, n⟩ := congrFun same _
  exact InStep.of_eq left right second

theorem steps_bind_top {f : Option Frame → Scan.Action β}
    (second : κ.Steps (f n.top?) ⟨r, n⟩ ⟨q, n⟩ done) :
    κ.Steps (Scan.top? >>= f) ⟨r, n⟩ ⟨q, n⟩ done :=
  .bind (.done rfl rfl second)

theorem steps_bind_popFrame {f : Unit → Scan.Action β}
    (second : κ.Steps (f ()) ⟨r, n.pop⟩ ⟨q, n.pop⟩ done) :
    κ.Steps (Scan.popFrame >>= f) ⟨r, n⟩ ⟨q, n⟩ done :=
  .bind (.done rfl rfl second)

theorem steps_throw {e : ScanError} (together : κ.Together r q) (surfaces : e.Surfaces) :
    κ.Steps (throw e) ⟨r, n⟩ ⟨q, n⟩ done :=
  .throw ⟨surfaces, rfl, together.alike⟩

theorem surfaces_unexpected {found : Found} {words : String} {p : Position}
    (wording : words ≠ "no token after end of stream") :
    (ScanError.unexpected found words p).Surfaces := by
  refine ⟨rfl, ?_⟩
  intro found' p' same
  cases same
  exact wording rfl

theorem steps_bind_clear {f : Unit → Scan.Action β} (together : κ.Together r q)
    (second : κ.Together r.cleared q.cleared →
      κ.Steps (f ()) ⟨r.cleared, n⟩ ⟨q.cleared, n⟩ done) :
    κ.Steps (Scan.onIntake Intake.clear >>= f) ⟨r, n⟩ ⟨q, n⟩ done :=
  steps_bind_onIntake (.done rfl rfl (second together.cleared))

theorem steps_bind_emit {kind : TokenKind} {f : Token → Scan.Action β} (together : κ.Together r q)
    (second : ∀ token r' q', token.kind = kind → κ.Together r' q' →
      κ.Steps (f token) ⟨r', n⟩ ⟨q', n⟩ done) :
    κ.Steps (Scan.emit kind >>= f) ⟨r, n⟩ ⟨q, n⟩ done := by
  have token_eq : Token.ofPosition q.lexeme kind q.tokenStart =
      .ofPosition r.lexeme kind r.tokenStart := by
    rw [together.same]
  have left : Scan.emit kind ⟨r, n⟩ = .ok (.ofPosition r.lexeme kind r.tokenStart) ⟨r.cleared, n⟩ :=
    rfl
  have right : Scan.emit kind ⟨q, n⟩ =
      .ok (.ofPosition r.lexeme kind r.tokenStart) ⟨q.cleared, n⟩ := by
    rw [← token_eq]
    rfl
  exact .bind (.done left right (second _ _ _ rfl together.cleared))

/-- The expected character is collected; anything else is an error. -/
theorem steps_bind_expect {words : String} {f : Unit → Scan.Action β} (together : κ.Together r q)
    (wording : words ≠ "no token after end of stream")
    (second : ∀ r' q', κ.Together r' q' → κ.Steps (f ()) ⟨r', n⟩ ⟨q', n⟩ done) :
    κ.Steps (Scan.expect limits c words >>= f) ⟨r, n⟩ ⟨q, n⟩ done := by
  refine .bind (steps_bind_position together (steps_bind_onIntake (runs_peek together ?_)))
  intro next r' q' together' shows
  split
  next found =>
    refine steps_bind_onIntake (runs_bump together' (shows c found) ?_)
    exact fun r'' q'' together'' => .pure (second r'' q'' together'')
  next => exact steps_throw together' (surfaces_unexpected wording)

theorem steps_bind_expectAny {words : String} {f : Char → Scan.Action β}
    (together : κ.Together r q) (shows : r.Shows c)
    (second : ∀ r' q', κ.Together r' q' → κ.Steps (f c) ⟨r', n⟩ ⟨q', n⟩ done) :
    κ.Steps (Scan.expectAny limits words >>= f) ⟨r, n⟩ ⟨q, n⟩ done := by
  refine .bind (steps_bind_position together (steps_bind_onIntake (runs_bump together shows ?_)))
  exact fun r' q' together' => .pure (second r' q' together')

private theorem renest_of_ok {g : Nesting → Except ScanError Nesting} {n' : Nesting}
    (result : g n = .ok n') : Scan.renest g ⟨r, n⟩ = .ok () ⟨r, n'⟩ := by
  simp only [Scan.renest, result]

private theorem renest_of_error {g : Nesting → Except ScanError Nesting} {e : ScanError}
    (result : g n = .error e) : Scan.renest g ⟨r, n⟩ = .error e ⟨r, n⟩ := by
  simp only [Scan.renest, result]

/-- A construct is opened, unless too many are open. -/
theorem steps_bind_open {kind : FrameKind} {p : Position} {f : Unit → Scan.Action β}
    (together : κ.Together r q) (known : FrameKind.ofOpener? c = some kind)
    (second : ∀ frame n', frame.kind = kind → n'.frames = frame :: n.frames →
      κ.Steps (f ()) ⟨r, n'⟩ ⟨q, n'⟩ done) :
    κ.Steps (Scan.renest (·.openWith limits c p) >>= f) ⟨r, n⟩ ⟨q, n⟩ done := by
  by_cases full : n.depth ≥ limits.maxDepth
  · have refused : n.openWith limits c p = .error (.nestedTooDeep (n.depth + 1) p) := by
      simp only [Nesting.openWith, known, Nesting.push, if_pos full]
    refine .bind (.failed (renest_of_error refused) (renest_of_error refused) ⟨⟨rfl, ?_⟩, rfl,
      together.alike⟩)
    intro found q same
    cases same
  · have opened : n.openWith limits c p =
        .ok ⟨⟨closerOf c, kind, p⟩ :: n.frames, max n.deepest (n.depth + 1)⟩ := by
      simp only [Nesting.openWith, known, Nesting.push, if_neg full]
    exact .bind (.done (renest_of_ok opened) (renest_of_ok opened) (second _ _ rfl rfl))

/-! ### The handlers -/

/-- What a handler leaves is still coupled, and it has made one of its moves. -/
def Moved (κ : Coupling) (acceptReturn : Bool) (phase : Phase) (frames : List Frame)
    (outcome : Scan.Outcome) (s t : Scan) : Prop :=
  t.nesting = s.nesting ∧ κ.Together s.intake t.intake ∧
    Move acceptReturn s.intake phase frames outcome.1 outcome.2 s.nesting.frames

theorem steps_emit {kind : TokenKind} {next phase : Phase} {frames : List Frame}
    (together : κ.Together r q)
    (moves : ∀ token r', token.kind = kind →
      Move acceptReturn r' phase frames next (some token) n.frames) :
    κ.Steps (Scan.emit kind >>= fun token => pure (next, some token)) ⟨r, n⟩ ⟨q, n⟩
      (κ.Moved acceptReturn phase frames) :=
  steps_bind_emit together fun token r' _ kind_eq together' =>
    .pure ⟨rfl, together', moves token r' kind_eq⟩

section

variable (together : κ.Together r q)
include together

private theorem dispatch_steps :
    κ.Steps (Scan.dispatch acceptReturn) ⟨r, n⟩ ⟨q, n⟩ (κ.Moved acceptReturn .dispatch n.frames) := by
  apply steps_bind_clear together
  intro together
  apply steps_bind_onIntake
  apply runs_peek together
  intro next r' q' together' shows
  cases next with
  | none => exact steps_bind_position together' (.pure ⟨rfl, together', .finish rfl⟩)
  | some c => exact .pure ⟨rfl, together', .select (shows c rfl)⟩

private theorem whitespace_steps :
    κ.Steps (Scan.whitespace acceptReturn) ⟨r, n⟩ ⟨q, n⟩
      (κ.Moved acceptReturn .whitespace n.frames) := by
  apply steps_bind_onIntake
  apply runs_skipWhile together
  intro _ r' q' together'
  apply steps_bind_clear together'
  intro together''
  exact .pure ⟨rfl, together'', .skip⟩

private theorem single_steps {kind : TokenKind} {phase : Phase} (shows : r.Shows c)
    (selected : phase.isSelected = true) (plain : kind.isPlain = true) :
    κ.Steps (Scan.single limits kind) ⟨r, n⟩ ⟨q, n⟩ (κ.Moved acceptReturn phase n.frames) := by
  apply steps_bind_onIntake
  apply runs_bump together shows
  intro r' q' together'
  apply steps_emit together'
  exact fun token r' kind_eq => .word selected (kind_eq ▸ plain)

private theorem endOfRule_steps :
    κ.Steps (Scan.endOfRule limits) ⟨r, n⟩ ⟨q, n⟩ (κ.Moved acceptReturn .endOfRule n.frames) := by
  apply steps_bind_expect together (by decide)
  intro r₁ q₁ together₁
  apply steps_bind_onIntake
  apply runs_peekIs together₁
  intro again r₂ q₂ together₂ shows
  cases again with
  | true =>
    apply steps_bind_onIntake
    apply runs_bump together₂ (shows rfl)
    intro r₃ q₃ together₃
    apply steps_emit together₃
    exact fun token _ kind_eq => .word rfl (kind_eq ▸ rfl)
  | false =>
    apply steps_emit together₂
    exact fun token _ kind_eq => .word rfl (kind_eq ▸ rfl)

private theorem productionRuleOp_steps :
    κ.Steps (Scan.productionRuleOp limits) ⟨r, n⟩ ⟨q, n⟩
      (κ.Moved acceptReturn .productionRuleOp n.frames) := by
  apply steps_bind_expect together (by decide)
  intro r₁ q₁ together₁
  apply steps_bind_expect together₁ (by decide)
  intro r₂ q₂ together₂
  apply steps_bind_expect together₂ (by decide)
  intro r₃ q₃ together₃
  apply steps_emit together₃
  exact fun token _ kind_eq => .word rfl (kind_eq ▸ rfl)

private theorem moreDots_steps (count : Nat) {done : Unit → Scan → Scan → Prop}
    (collected : ∀ r' q', κ.Together r' q' → done () ⟨r', n⟩ ⟨q', n⟩) :
    κ.Steps (Scan.moreDots limits count) ⟨r, n⟩ ⟨q, n⟩ done := by
  induction count generalizing r q with
  | zero => exact .pure (collected r q together)
  | succ count ih =>
    apply steps_bind_onIntake
    apply runs_peekIs together
    intro more r₁ q₁ together₁ shows
    cases more with
    | true =>
      apply steps_bind_onIntake
      apply runs_bump together₁ (shows rfl)
      intro r₂ q₂ together₂
      exact ih together₂
    | false => exact .pure (collected r₁ q₁ together₁)

private theorem sequence_steps :
    κ.Steps (Scan.sequence limits) ⟨r, n⟩ ⟨q, n⟩ (κ.Moved acceptReturn .sequence n.frames) := by
  apply steps_bind_expect together (by decide)
  intro r₁ q₁ together₁
  apply InStep.bind
  apply moreDots_steps together₁
  intro r₂ q₂ together₂
  apply steps_emit together₂
  exact fun token _ kind_eq => .word rfl (kind_eq ▸ rfl)

private theorem openEnclosure_steps (shows : r.Shows c) (starts : Phase.openEnclosure.Starts c) :
    κ.Steps (Scan.openEnclosure limits) ⟨r, n⟩ ⟨q, n⟩
      (κ.Moved acceptReturn .openEnclosure n.frames) := by
  obtain ⟨kind, known, encloses⟩ :
      ∃ kind, FrameKind.ofOpener? c = some kind ∧ kind.isEnclosure = true := by
    rcases starts with rfl | rfl | rfl
    · exact ⟨.quote, rfl, rfl⟩
    · exact ⟨.quote, rfl, rfl⟩
    · exact ⟨.nonTerminal, rfl, rfl⟩
  apply steps_bind_position together
  apply steps_bind_expectAny together shows
  intro r₁ q₁ together₁
  apply steps_bind_open together₁ known
  intro frame n' kind_eq frames_eq
  apply steps_bind_clear together₁
  intro together₂
  apply steps_bind_onIntake
  refine .done rfl rfl (.pure ⟨rfl, together₂.markStart _, ?_⟩)
  rw [frames_eq]
  exact .openEnclosure (kind_eq ▸ encloses)

private theorem scanEnclosed_steps {frame : Frame} {frames : List Frame}
    (open_eq : n.frames = frame :: frames) :
    κ.Steps (Scan.scanEnclosed limits) ⟨r, n⟩ ⟨q, n⟩
      (κ.Moved acceptReturn .scanEnclosed n.frames) := by
  have top : n.top? = some frame := by rw [Nesting.top?, open_eq]; rfl
  apply steps_bind_top
  rw [top]
  apply steps_bind_onIntake
  apply runs_bumpWhile together
  intro _ r₁ q₁ together₁
  apply steps_emit together₁
  intro token _ kind_eq
  refine .enclosed ?_
  rw [kind_eq]
  split <;> rfl

private theorem closeEnclosure_steps {frame : Frame} {frames : List Frame}
    (open_eq : n.frames = frame :: frames) :
    κ.Steps (Scan.closeEnclosure limits) ⟨r, n⟩ ⟨q, n⟩
      (κ.Moved acceptReturn .closeEnclosure n.frames) := by
  have top : n.top? = some frame := by rw [Nesting.top?, open_eq]; rfl
  have popped : n.pop.frames = frames := by rw [Nesting.pop, open_eq]; rfl
  -- The frame is dropped whether or not the closer is there.
  have closed : ∀ {r q : Intake}, κ.Together r q →
      κ.Steps (do Intake.clear; return (.dispatch, none)) ⟨r, n.pop⟩ ⟨q, n.pop⟩
        (κ.Moved acceptReturn .closeEnclosure n.frames) := by
    intro r q together
    apply steps_bind_clear together
    intro together'
    refine .pure ⟨rfl, together', ?_⟩
    rw [popped, open_eq]
    exact .closeEnclosure
  apply InStep.bind
  apply steps_bind_top
  rw [top]
  apply steps_bind_popFrame
  apply steps_bind_onIntake
  apply runs_peek together
  intro next r₁ q₁ together₁ shows
  split
  next found =>
    apply steps_bind_onIntake
    apply runs_bump together₁ (shows _ found)
    intro r₂ q₂ together₂
    exact .pure (closed together₂)
  next => exact .pure (closed together₁)

private theorem openGroup_steps (shows : r.Shows c) (starts : Phase.openGroup.Starts c) :
    κ.Steps (Scan.openGroup limits) ⟨r, n⟩ ⟨q, n⟩
      (κ.Moved acceptReturn .openGroup n.frames) := by
  obtain ⟨kind, known, groups⟩ :
      ∃ kind, FrameKind.ofOpener? c = some kind ∧ (kind = .paren ∨ kind = .bracket) := by
    rcases starts with rfl | rfl
    · exact ⟨.paren, rfl, .inl rfl⟩
    · exact ⟨.bracket, rfl, .inr rfl⟩
  apply steps_bind_position together
  apply steps_bind_expectAny together shows
  intro r₁ q₁ together₁
  apply steps_bind_open together₁ known
  intro frame n' kind_eq frames_eq
  have top : n'.top? = some frame := by rw [Nesting.top?, frames_eq]; rfl
  apply steps_bind_top
  rw [top]
  apply steps_emit together₁
  intro token _ token_eq
  rw [frames_eq]
  refine .openGroup ?_
  rw [token_eq]
  rcases groups with rfl | rfl
  · exact .inl ⟨kind_eq, by simp [kind_eq]⟩
  · exact .inr ⟨kind_eq, by simp [kind_eq]⟩

private theorem closeGroup_steps (shows : r.Shows c) (starts : Phase.closeGroup.Starts c)
    (groups : OnlyGroups n.frames) :
    κ.Steps (Scan.closeGroup limits) ⟨r, n⟩ ⟨q, n⟩
      (κ.Moved acceptReturn .closeGroup n.frames) := by
  apply steps_bind_position together
  apply steps_bind_onIntake
  refine .done shows.peek_eq (together.shows shows).peek_eq ?_
  dsimp only
  refine steps_bind_get rfl ?_
  -- Only groups are open, so the innermost construct is a group, if there is one.
  cases open_eq : n.frames with
  | nil =>
    have none : n.top? = none := by rw [Nesting.top?, open_eq]; rfl
    simp only [Nesting.closeGroup, none]
    refine .pure ⟨rfl, together, ?_⟩
    rw [open_eq]
    exact .punctuate shows starts
  | cons frame frames =>
    have top : n.top? = some frame := by rw [Nesting.top?, open_eq]; rfl
    have group : frame.kind.isGroup = true := groups frame (open_eq ▸ List.mem_cons_self)
    simp only [Nesting.closeGroup, top, group, if_true]
    by_cases closes : frame.closer = c
    · rw [if_pos closes]
      refine .bind (.done rfl rfl ?_)
      apply steps_bind_onIntake
      apply runs_bump together shows
      intro r₁ q₁ together₁
      apply steps_emit together₁
      intro token _ token_eq
      have popped : n.pop.frames = frames := by rw [Nesting.pop, open_eq]; rfl
      rw [popped]
      refine .closeGroup ?_
      rw [token_eq]
      cases kind_eq : frame.kind with
      | paren => exact .inl ⟨rfl, rfl⟩
      | bracket => exact .inr ⟨rfl, rfl⟩
      | nonTerminal => rw [kind_eq] at group; cases group
      | quote => rw [kind_eq] at group; cases group
      | action => rw [kind_eq] at group; cases group
    · rw [if_neg closes]
      refine steps_throw together ⟨rfl, ?_⟩
      intro found p same
      cases same

private theorem actionOpen_steps :
    κ.Steps (Scan.actionOpen limits) ⟨r, n⟩ ⟨q, n⟩
      (κ.Moved acceptReturn .actionOpen n.frames) := by
  apply steps_bind_position together
  apply steps_bind_expect together (by decide)
  intro r₁ q₁ together₁
  apply steps_bind_open together₁ rfl
  intro frame n' kind_eq frames_eq
  apply steps_bind_clear together₁
  intro together₂
  refine .pure ⟨rfl, together₂, ?_⟩
  rw [frames_eq]
  exact .openAction kind_eq

private theorem actionName_steps :
    κ.Steps (Scan.actionName limits acceptReturn) ⟨r, n⟩ ⟨q, n⟩
      (κ.Moved acceptReturn .actionName n.frames) := by
  apply steps_bind_onIntake
  apply runs_skipWhile together
  intro _ r₁ q₁ together₁
  apply steps_bind_clear together₁
  intro together₂
  apply steps_bind_onIntake
  apply runs_bumpWhile together₂
  intro _ r₃ q₃ together₃
  apply steps_bind_position together₃
  apply steps_bind_onIntake
  apply runs_peek together₃
  intro next r₄ q₄ together₄ shows
  split
  next =>
    apply steps_bind_get
    · rw [together₄.same]
    apply steps_bind_onIntake
    apply runs_takeLexeme together₄
    intro together₅
    dsimp only
    split
    next => exact steps_throw together₅ (surfaces_unexpected (by decide))
    next =>
      apply steps_bind_onIntake
      apply runs_bump together₅ (shows _ rfl)
      intro r₆ q₆ together₆
      apply steps_bind_clear together₆
      intro together₇
      exact .pure ⟨rfl, together₇, .name rfl⟩
  next => exact steps_throw together₄ (surfaces_unexpected (by decide))

private theorem actionArgs_steps :
    κ.Steps (Scan.actionArgs limits acceptReturn) ⟨r, n⟩ ⟨q, n⟩
      (κ.Moved acceptReturn .actionArgs n.frames) := by
  apply steps_bind_onIntake
  apply runs_skipWhile together
  intro _ r₁ q₁ together₁
  apply steps_bind_clear together₁
  intro together₂
  apply steps_bind_onIntake
  apply runs_peek together₂
  intro next r₃ q₃ together₃ shows
  split
  next =>
    apply steps_bind_position together₃
    exact steps_throw together₃ (surfaces_unexpected (by decide))
  next =>
    apply steps_bind_onIntake
    apply runs_bump together₃ (shows _ rfl)
    intro r₄ q₄ together₄
    apply steps_bind_clear together₄
    intro together₅
    exact .pure ⟨rfl, together₅, .endArguments⟩
  next =>
    apply steps_bind_onIntake
    apply runs_bumpWhile together₃
    intro _ r₄ q₄ together₄
    apply steps_emit together₄
    exact fun token _ kind_eq => .argument (kind_eq ▸ rfl)

private theorem actionClose_steps {frame : Frame} {frames : List Frame}
    (open_eq : n.frames = frame :: frames) :
    κ.Steps (Scan.actionClose limits acceptReturn) ⟨r, n⟩ ⟨q, n⟩
      (κ.Moved acceptReturn .actionClose n.frames) := by
  have popped : n.pop.frames = frames := by rw [Nesting.pop, open_eq]; rfl
  have closed : ∀ {r q : Intake}, κ.Together r q →
      κ.Steps (do Scan.popFrame; Intake.clear; return (.dispatch, none)) ⟨r, n⟩ ⟨q, n⟩
        (κ.Moved acceptReturn .actionClose n.frames) := by
    intro r q together
    apply steps_bind_popFrame
    apply steps_bind_clear together
    intro together'
    refine .pure ⟨rfl, together', ?_⟩
    rw [popped, open_eq]
    exact .closeAction
  apply steps_bind_onIntake
  apply runs_skipWhile together
  intro _ r₁ q₁ together₁
  apply InStep.bind
  apply steps_bind_onIntake
  apply runs_peek together₁
  intro next r₂ q₂ together₂ shows
  split
  next =>
    apply steps_bind_onIntake
    apply runs_bump together₂ (shows _ rfl)
    intro r₃ q₃ together₃
    exact .pure (closed together₃)
  next => exact .pure (closed together₂)
  next =>
    apply steps_bind_position together₂
    exact steps_throw together₂ (surfaces_unexpected (by decide))

private theorem bareTerminal_steps (shows : r.Shows c) :
    κ.Steps (Scan.bareTerminal limits) ⟨r, n⟩ ⟨q, n⟩
      (κ.Moved acceptReturn .bareTerminal n.frames) := by
  apply steps_bind_position together
  apply steps_bind_onIntake
  refine .done shows.peek_eq (together.shows shows).peek_eq ?_
  dsimp only
  split
  next =>
    apply steps_bind_onIntake
    apply runs_bumpWhile together
    intro _ r₁ q₁ together₁
    apply steps_emit together₁
    exact fun token _ kind_eq => .word rfl (kind_eq ▸ rfl)
  next =>
    split
    next =>
      apply steps_bind_onIntake
      apply runs_bump together shows
      intro r₁ q₁ together₁
      apply steps_emit together₁
      exact fun token _ kind_eq => .word rfl (kind_eq ▸ rfl)
    next => exact steps_throw together (surfaces_unexpected (by decide))

/-- Every handler makes one of its moves, and the same one on coupled sources. -/
theorem handler_steps (limits : ScanLimits) {phase : Phase}
    (agreed : Agreed acceptReturn phase n.frames r) :
    κ.Steps (Scan.handler limits acceptReturn phase) ⟨r, n⟩ ⟨q, n⟩
      (κ.Moved acceptReturn phase n.frames) := by
  obtain ⟨nests, shown⟩ := agreed
  cases phase with
  | dispatch => exact dispatch_steps together
  | whitespace => exact whitespace_steps together
  | endOfRule => exact endOfRule_steps together
  | productionRuleOp => exact productionRuleOp_steps together
  | sequence => exact sequence_steps together
  | or | assign | and =>
    obtain ⟨c, shows, -⟩ := shown rfl
    exact single_steps together shows rfl rfl
  | openEnclosure =>
    obtain ⟨c, shows, selected⟩ := shown rfl
    exact openEnclosure_steps together shows selected.starts
  | scanEnclosed =>
    obtain ⟨frame, groups, open_eq, -⟩ := nests
    exact scanEnclosed_steps together open_eq
  | closeEnclosure =>
    obtain ⟨frame, groups, open_eq, -⟩ := nests
    exact closeEnclosure_steps together open_eq
  | openGroup =>
    obtain ⟨c, shows, selected⟩ := shown rfl
    exact openGroup_steps together shows selected.starts
  | closeGroup =>
    obtain ⟨c, shows, selected⟩ := shown rfl
    exact closeGroup_steps together shows selected.starts nests
  | actionOpen => exact actionOpen_steps together
  | actionName => exact actionName_steps together
  | actionArgs => exact actionArgs_steps together
  | actionClose =>
    obtain ⟨frame, groups, open_eq, -⟩ := nests
    exact actionClose_steps together open_eq
  | bareTerminal =>
    obtain ⟨c, shows, -⟩ := shown rfl
    exact bareTerminal_steps together shows
  | finished => exact .pure ⟨rfl, together, .stay⟩

end

end Coupling

/-! ### Moves keep the agreement -/

theorem OnlyGroups.tail {frame : Frame} {frames : List Frame} (groups : OnlyGroups (frame :: frames)) :
    OnlyGroups frames :=
  fun other member => groups other (List.mem_cons_of_mem _ member)

theorem Phase.nests_of_selected {phase : Phase} {frames : List Frame}
    (selected : phase.isSelected = true) : phase.Nests frames ↔ OnlyGroups frames := by
  cases phase <;> first | exact Iff.rfl | cases selected

theorem Phase.isSelected_ofLookahead (acceptReturn : Bool) (c : Char) :
    (ofLookahead acceptReturn c).isSelected = true := by
  unfold ofLookahead
  split <;> first | rfl | skip
  split <;> rfl

/-- Whatever a handler has done, phase and open constructs agree again. -/
theorem Move.agreed {acceptReturn : Bool} {r r' : Intake} {phase next : Phase} {token : Option Token}
    {frames frames' : List Frame} (agreed : Agreed acceptReturn phase frames r)
    (move : Move acceptReturn r' phase frames next token frames') :
    Agreed acceptReturn next frames' r' := by
  have nests := agreed.nests
  cases move with
  | @select c frames shows =>
    have selected := Phase.isSelected_ofLookahead acceptReturn c
    exact ⟨(Phase.nests_of_selected selected).mpr nests, fun _ => ⟨c, shows, .inl rfl⟩⟩
  | finish last => exact ⟨nests, nofun⟩
  | skip => exact ⟨nests, nofun⟩
  | word selected plain => exact ⟨(Phase.nests_of_selected selected).mp nests, nofun⟩
  | openEnclosure kind => exact ⟨⟨_, _, rfl, kind, nests⟩, nofun⟩
  | enclosed plain => exact ⟨nests, nofun⟩
  | closeEnclosure =>
    obtain ⟨_, _, same, _, groups⟩ := nests
    cases same
    exact ⟨groups, nofun⟩
  | @openGroup token frame frames kinds =>
    refine ⟨?_, nofun⟩
    intro other member
    rcases List.mem_cons.mp member with rfl | member
    · rcases kinds with ⟨kind, -⟩ | ⟨kind, -⟩ <;> rw [kind] <;> rfl
    · exact nests other member
  | closeGroup kinds => exact ⟨OnlyGroups.tail nests, nofun⟩
  | @punctuate c shows closes => exact ⟨nests, fun _ => ⟨c, shows, .inr ⟨rfl, closes, rfl⟩⟩⟩
  | openAction kind => exact ⟨⟨_, _, rfl, kind, nests⟩, nofun⟩
  | name plain => exact ⟨nests, nofun⟩
  | argument plain => exact ⟨nests, nofun⟩
  | endArguments => exact ⟨nests, nofun⟩
  | closeAction =>
    obtain ⟨_, _, same, _, groups⟩ := nests
    cases same
    exact ⟨groups, nofun⟩
  | stay => exact ⟨nests, nofun⟩

/-! ### Where moves come from -/

/-- A character selects only phases that are for a character to select. -/
theorem Phase.ofLookahead_ne {acceptReturn : Bool} {c : Char} {other : Phase}
    (unselected : other.isSelected = false) : ofLookahead acceptReturn c ≠ other := by
  intro same
  have selected := isSelected_ofLookahead acceptReturn c
  rw [same, unselected] at selected
  cases selected

namespace Move

variable {acceptReturn : Bool} {r : Intake} {phase next : Phase} {token : Option Token}
  {frames frames' : List Frame}

theorem of_scanEnclosed (move : Move acceptReturn r phase frames .scanEnclosed token frames') :
    phase = .openEnclosure := by
  generalize leads : Phase.scanEnclosed = next at move
  cases move with
  | openEnclosure => rfl
  | select => exact absurd leads.symm (Phase.ofLookahead_ne rfl)
  | _ => cases leads

theorem of_closeEnclosure (move : Move acceptReturn r phase frames .closeEnclosure token frames') :
    phase = .scanEnclosed := by
  generalize leads : Phase.closeEnclosure = next at move
  cases move with
  | enclosed => rfl
  | select => exact absurd leads.symm (Phase.ofLookahead_ne rfl)
  | _ => cases leads

theorem of_actionClose (move : Move acceptReturn r phase frames .actionClose token frames') :
    phase = .actionArgs := by
  generalize leads : Phase.actionClose = next at move
  cases move with
  | endArguments => rfl
  | select => exact absurd leads.symm (Phase.ofLookahead_ne rfl)
  | _ => cases leads

theorem next_of_scanEnclosed (move : Move acceptReturn r .scanEnclosed frames next token frames') :
    next = .closeEnclosure := by
  cases move with
  | enclosed => rfl
  | word selected => cases selected

end Move

end GrammarLex
