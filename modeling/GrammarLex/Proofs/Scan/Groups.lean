import GrammarLex.Proofs.Scan.Walk
import Mathlib.Data.List.Forall2

/-!
# Groups nest

At every moment of a run the delimiters of groups among the tokens are the front of a balanced word,
and the groups among the open constructs are its unmatched opening tokens. Quotes, angle brackets
and actions come and go on the same stack and leave this alone.
-/
namespace GrammarLex

/-! ### Balanced words -/

namespace TokenKind

/-- What closes a group that the token opens. -/
def closes? : TokenKind → Option TokenKind
  | .parenLeft => some .parenRight
  | .bracketLeft => some .bracketRight
  | _ => none

def opensGroup (kind : TokenKind) : Bool := kind.closes?.isSome

def closesGroup : TokenKind → Bool
  | .parenRight | .bracketRight => true
  | _ => false

def delimitsGroup (kind : TokenKind) : Bool := kind.opensGroup || kind.closesGroup

end TokenKind

/-- Words in which every opening delimiter is closed by its own closing one. -/
inductive Balanced : List TokenKind → Prop where
  | nil : Balanced []
  | group {left right : TokenKind} {inner behind : List TokenKind} (pair : left.closes? = some right)
      (inside : Balanced inner) (others : Balanced behind) :
      Balanced (left :: (inner ++ right :: behind))

namespace Balanced

variable {word word' : List TokenKind} {left right : TokenKind}

theorem append (balanced : Balanced word) (balanced' : Balanced word') :
    Balanced (word ++ word') := by
  induction balanced with
  | nil => exact balanced'
  | group pair inside others _ ih =>
    rw [List.cons_append, List.append_assoc, List.cons_append]
    exact .group pair inside ih

theorem enclose (pair : left.closes? = some right) (inside : Balanced word) :
    Balanced (left :: (word ++ [right])) :=
  .group pair inside .nil

theorem count_eq (balanced : Balanced word) :
    word.countP TokenKind.closesGroup = word.countP TokenKind.opensGroup := by
  induction balanced with
  | nil => rfl
  | @group left right inner behind pair inside others ih ih' =>
    simp only [List.countP_cons, List.countP_append, ih, ih']
    cases left with
    | parenLeft | bracketLeft =>
      cases pair
      simp [TokenKind.opensGroup, TokenKind.closesGroup, TokenKind.closes?]
      omega
    | _ => cases pair

end Balanced

/-- The unmatched opening tokens of a word, in order. What lies in front of the first of them, between
two of them and behind the last one is balanced. -/
inductive Unmatched : List Token → List Token → Prop where
  | none {word : List Token} (balanced : Balanced (word.map Token.kind)) : Unmatched word []
  | opener {word openers inner : List Token} {opener : Token} {right : TokenKind}
      (before : Unmatched word openers) (pair : opener.kind.closes? = some right)
      (balanced : Balanced (inner.map Token.kind)) :
      Unmatched (word ++ opener :: inner) (openers ++ [opener])

namespace Unmatched

variable {word openers : List Token} {token opener : Token} {right : TokenKind}

theorem append (unmatched : Unmatched word openers) {behind : List Token}
    (balanced : Balanced (behind.map Token.kind)) : Unmatched (word ++ behind) openers := by
  cases unmatched with
  | none before =>
    apply none
    rw [List.map_append]
    exact before.append balanced
  | opener before pair inside =>
    rw [List.append_assoc, List.cons_append]
    apply opener before pair
    rw [List.map_append]
    exact inside.append balanced

theorem opens (unmatched : Unmatched word openers) (pair : token.kind.closes? = some right) :
    Unmatched (word ++ [token]) (openers ++ [token]) :=
  unmatched.opener pair .nil

/-- A closing token takes the innermost opening one away. -/
theorem closes (unmatched : Unmatched word (openers ++ [opener]))
    (pair : opener.kind.closes? = some token.kind) : Unmatched (word ++ [token]) openers := by
  generalize whole : openers ++ [opener] = all at unmatched
  cases unmatched with
  | none => simp at whole
  | @opener before openers' inner opener' right' unmatched' pair' inside =>
    obtain ⟨rfl, same⟩ := List.append_inj' whole rfl
    cases same
    rw [List.append_assoc, List.cons_append]
    apply unmatched'.append
    rw [List.map_cons, List.map_append]
    exact .enclose pair inside

/-- With the closing tokens that are still missing the word is balanced. -/
theorem completes (unmatched : Unmatched word openers) :
    ∃ missing, Balanced (word.map Token.kind ++ missing) := by
  -- On the unmatched tokens, with something balanced in front of what is missing.
  suffices completed : ∃ missing, ∀ inner, Balanced inner →
      Balanced (word.map Token.kind ++ (inner ++ missing)) by
    obtain ⟨missing, balanced⟩ := completed
    exact ⟨missing, balanced [] .nil⟩
  induction unmatched with
  | none before =>
    refine ⟨[], ?_⟩
    intro inner inside
    rw [List.append_nil]
    exact before.append inside
  | @opener word openers inner opener right before pair balanced ih =>
    obtain ⟨missing, completed⟩ := ih
    refine ⟨right :: missing, ?_⟩
    intro inner' inside
    have group := Balanced.enclose pair (balanced.append inside)
    have whole := completed _ group
    simpa [List.append_assoc] using whole

theorem count_add (unmatched : Unmatched word openers) :
    openers.length + (word.map Token.kind).countP TokenKind.closesGroup =
      (word.map Token.kind).countP TokenKind.opensGroup := by
  induction unmatched with
  | none balanced => simpa using balanced.count_eq
  | @opener word openers inner opener right before pair balanced ih =>
    have opens : opener.kind.opensGroup = true := by rw [TokenKind.opensGroup, pair]; rfl
    have closes : opener.kind.closesGroup = false := by
      cases kind : opener.kind <;> simp_all [TokenKind.closes?, TokenKind.closesGroup]
    simp only [List.map_append, List.map_cons, List.countP_append, List.countP_cons, opens, closes,
      List.length_append, List.length_singleton, balanced.count_eq, Bool.false_eq_true, if_false,
      if_true]
    omega

end Unmatched

/-! ### The record of the open groups -/

/-- The construct is the one that the token has opened. -/
structure Frame.Records (frame : Frame) (opener : Token) : Prop where
  kinds : frame.kind = .paren ∧ frame.closer = ')' ∧ opener.kind = .parenLeft ∨
    frame.kind = .bracket ∧ frame.closer = ']' ∧ opener.kind = .bracketLeft
  line_eq : frame.openedAt.line = opener.line
  column_eq : frame.openedAt.column = opener.column

/-- The tokens that delimit groups. -/
def delimiters (tokens : List Token) : List Token := tokens.filter (·.kind.delimitsGroup)

/-- The groups among open constructs. -/
def groupFrames (frames : List Frame) : List Frame := frames.filter (·.kind.isGroup)

/-- The groups among the open constructs are the unmatched opening tokens. The constructs are listed
innermost first and the tokens in order, so one of the lists is turned around. -/
structure Recorded (tokens : List Token) (frames : List Frame) (openers : List Token) : Prop where
  unmatched : Unmatched (delimiters tokens) openers
  records : List.Forall₂ Frame.Records (groupFrames frames) openers.reverse

theorem delimiters_append (tokens : List Token) (token : Token) : delimiters (tokens ++ [token]) =
    delimiters tokens ++ if token.kind.delimitsGroup then [token] else [] := by
  rw [delimiters, List.filter_append, List.filter_cons, List.filter_nil]
  rfl

theorem groupFrames_of_group {frame : Frame} {frames : List Frame}
    (group : frame.kind.isGroup = true) : groupFrames (frame :: frames) = frame :: groupFrames frames :=
  List.filter_cons_of_pos group

theorem groupFrames_of_other {frame : Frame} {frames : List Frame}
    (other : frame.kind.isGroup = false) : groupFrames (frame :: frames) = groupFrames frames :=
  List.filter_cons_of_neg (by simp [other])

theorem groupFrames_eq_self {frames : List Frame} (groups : OnlyGroups frames) :
    groupFrames frames = frames :=
  List.filter_eq_self.mpr groups

namespace Recorded

variable {tokens openers : List Token} {frame : Frame} {frames frames' : List Frame} {token : Token}

theorem plain (recorded : Recorded tokens frames openers)
    (other : token.kind.delimitsGroup = false) : Recorded (tokens ++ [token]) frames openers := by
  refine ⟨?_, recorded.records⟩
  rw [delimiters_append, other]
  simpa using recorded.unmatched

theorem of_groups (recorded : Recorded tokens frames openers)
    (same : groupFrames frames' = groupFrames frames) : Recorded tokens frames' openers :=
  ⟨recorded.unmatched, same ▸ recorded.records⟩

theorem opens (recorded : Recorded tokens frames openers) (records : frame.Records token) :
    Recorded (tokens ++ [token]) (frame :: frames) (openers ++ [token]) := by
  obtain ⟨right, pair⟩ : ∃ right, token.kind.closes? = some right := by
    rcases records.kinds with ⟨-, -, kind⟩ | ⟨-, -, kind⟩ <;> exact ⟨_, by rw [kind]; rfl⟩
  have delimits : token.kind.delimitsGroup = true := by
    rw [TokenKind.delimitsGroup, TokenKind.opensGroup, pair]
    rfl
  have group : frame.kind.isGroup = true := by
    rcases records.kinds with ⟨kind, -⟩ | ⟨kind, -⟩ <;> rw [kind] <;> rfl
  constructor
  · rw [delimiters_append, delimits, if_pos rfl]
    exact recorded.unmatched.opens pair
  · rw [groupFrames_of_group group, List.reverse_append]
    exact .cons records recorded.records

/-- The innermost group is recorded by the last of the unmatched opening tokens. -/
theorem innermost (recorded : Recorded tokens (frame :: frames) openers)
    (group : frame.kind.isGroup = true) : ∃ others opener, openers = others ++ [opener] ∧
      frame.Records opener ∧ List.Forall₂ Frame.Records (groupFrames frames) others.reverse := by
  have records := recorded.records
  rw [groupFrames_of_group group, List.forall₂_cons_left_iff] at records
  obtain ⟨opener, others, innermost, records, turned⟩ := records
  refine ⟨others.reverse, opener, ?_, innermost, ?_⟩
  · rw [← List.reverse_reverse openers, turned, List.reverse_cons]
  · rwa [List.reverse_reverse]

theorem closes (recorded : Recorded tokens (frame :: frames) openers)
    (kinds : frame.kind = .paren ∧ token.kind = .parenRight ∨
      frame.kind = .bracket ∧ token.kind = .bracketRight) :
    ∃ others, Recorded (tokens ++ [token]) frames others := by
  have group : frame.kind.isGroup = true := by
    rcases kinds with ⟨kind, -⟩ | ⟨kind, -⟩ <;> rw [kind] <;> rfl
  have delimits : token.kind.delimitsGroup = true := by
    rcases kinds with ⟨-, kind⟩ | ⟨-, kind⟩ <;> rw [kind] <;> rfl
  obtain ⟨others, opener, rfl, innermost, records⟩ := recorded.innermost group
  have pair : opener.kind.closes? = some token.kind := by
    rcases innermost.kinds with ⟨kind, -, opens⟩ | ⟨kind, -, opens⟩
    · have closes : token.kind = .parenRight := by simpa [kind] using kinds
      rw [opens, closes]
      rfl
    · have closes : token.kind = .bracketRight := by simpa [kind] using kinds
      rw [opens, closes]
      rfl
  refine ⟨others, ?_, records⟩
  rw [delimiters_append, delimits, if_pos rfl]
  exact recorded.unmatched.closes pair

end Recorded

/-! ### Every step keeps the record -/

/-- The construct that a group's opening delimiter opens is the one of its token. -/
theorem Spot.next_of_openGroup {limits : ScanLimits} {acceptReturn : Bool} {s s' : Spot}
    {token : Option Token} (agrees : s.Agrees acceptReturn) (phase : s.phase = .openGroup)
    (next_eq : s.next limits acceptReturn = .ok (token, s')) :
    ∃ frame opener, s'.frames = frame :: s.frames ∧ token = some opener ∧ frame.Records opener := by
  obtain ⟨current, frames, ⟨chars, fault⟩, p⟩ := s
  subst phase
  obtain ⟨c, rest, rfl, selected⟩ := agrees.shown rfl
  obtain ⟨landing, frames', -, lands, turned, rfl, rfl⟩ := take_eq_ok next_eq
  cases lands
  obtain ⟨kind, known, -, rfl⟩ := Turn.apply_opens turned
  refine ⟨_, _, rfl, rfl, ?_⟩
  have starts : c = '(' ∨ c = '[' := selected.starts
  rcases starts with rfl | rfl
  · cases known
    exact ⟨.inl ⟨rfl, rfl, rfl⟩, rfl, rfl⟩
  · cases known
    exact ⟨.inr ⟨rfl, rfl, rfl⟩, rfl, rfl⟩

namespace Machine

variable {limits : ScanLimits} {acceptReturn : Bool} {source : CharSource} {m m' : Machine}
  {r r' : Intake} {tokens openers : List Token} {token : Option Token}

theorem Emits.depth_le (emits : Emits limits acceptReturn source tokens m r) :
    m.nesting.depth ≤ limits.maxDepth := by
  induction emits with
  | fresh => exact Nat.zero_le _
  | step before stepped ih =>
    obtain ⟨s, walk, here⟩ := before.walk
    obtain ⟨s', next_eq, here'⟩ := here.next_of_ok stepped
    obtain ⟨landing, frames, -, -, turned, -, rfl⟩ := Spot.take_eq_ok next_eq
    rw [Nesting.depth, here'.holds.frames_eq]
    apply Turn.length_le turned
    rw [← here.holds.frames_eq]
    exact ih

private theorem recorded_of_move {phase next : Phase} {frames frames' : List Frame}
    (recorded : Recorded tokens frames openers) (nests : phase.Nests frames)
    (move : Move acceptReturn r phase frames next token frames')
    (opened : phase = .openGroup → ∃ frame opener, frames' = frame :: frames ∧
      token = some opener ∧ frame.Records opener) :
    ∃ others, Recorded (tokens ++ token.toList) frames' others := by
  have silent : tokens ++ (none : Option Token).toList = tokens := List.append_nil tokens
  have plain {token : Token} (plain : token.kind.isPlain = true) :
      token.kind.delimitsGroup = false := by
    cases kind : token.kind <;> rw [kind] at plain <;> first | rfl | cases plain
  -- Only the moves of groups change the record; enclosures and actions are not in it.
  cases move with
  | select | skip | punctuate | endArguments | stay =>
    rw [silent]
    exact ⟨openers, recorded⟩
  | finish last => exact ⟨openers, recorded.plain (by rw [last]; rfl)⟩
  | word selected kind => exact ⟨openers, recorded.plain (plain kind)⟩
  | enclosed kind => exact ⟨openers, recorded.plain (plain kind)⟩
  | name kind => exact ⟨openers, recorded.plain (plain kind)⟩
  | argument kind => exact ⟨openers, recorded.plain (plain kind)⟩
  | openEnclosure kind =>
    rw [silent]
    exact ⟨openers, recorded.of_groups (groupFrames_of_other (FrameKind.isGroup_of_enclosure kind))⟩
  | openAction kind =>
    rw [silent]
    exact ⟨openers, recorded.of_groups (groupFrames_of_other (kind ▸ rfl))⟩
  | closeEnclosure =>
    obtain ⟨_, _, same, kind, _⟩ := nests
    cases same
    rw [silent]
    exact ⟨openers,
      recorded.of_groups (groupFrames_of_other (FrameKind.isGroup_of_enclosure kind)).symm⟩
  | closeAction =>
    obtain ⟨_, _, same, kind, _⟩ := nests
    cases same
    rw [silent]
    exact ⟨openers, recorded.of_groups (groupFrames_of_other (kind ▸ rfl)).symm⟩
  | openGroup =>
    obtain ⟨_, _, same, emitted, records⟩ := opened rfl
    cases same
    cases emitted
    exact ⟨_, recorded.opens records⟩
  | closeGroup kinds => exact recorded.closes kinds

/-- At every moment of a run the open groups are the unmatched opening tokens. -/
theorem Emits.recorded (emits : Emits limits acceptReturn source tokens m r) :
    ∃ openers, Recorded tokens m.nesting.frames openers := by
  induction emits with
  | fresh => exact ⟨[], .none .nil, .nil⟩
  | step before stepped ih =>
    obtain ⟨openers, recorded⟩ := ih
    obtain ⟨s, -, here⟩ := before.walk
    obtain ⟨s', next_eq, here'⟩ := here.next_of_ok stepped
    obtain ⟨move, -⟩ := here.agrees.moves stepped
    apply recorded_of_move recorded here.agrees.nests move
    intro phase
    have frames_eq := here.holds.frames_eq
    have frames_eq' := here'.holds.frames_eq
    rw [frames_eq, frames_eq']
    exact Spot.next_of_openGroup here.spot_agrees (here.phase_eq ▸ phase) next_eq

end Machine

end GrammarLex
