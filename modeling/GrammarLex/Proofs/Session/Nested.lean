import GrammarLex.Proofs.Scan.Groups
import GrammarLex.Proofs.Scan.Untouched
import GrammarLex.Proofs.Session.Requests

/-!
# A session's groups nest

Whatever a session is asked for, the delimiters of groups among the tokens that its machine has
emitted are the front of a balanced word, and between two constructs its open constructs are the
unmatched opening ones among them. A closing delimiter is read as plain punctuation only if no group
is open, and refused only if it is of the other kind than the innermost open group.
-/
namespace GrammarLex

variable {limits : ScanLimits} {acceptReturn : Bool} {source : CharSource} {m m' : Machine}
  {r r' : Intake} {emitted openers : List Token} {c : Char} {rest : List Char}

/-! ### Closing delimiters -/

/-- A token of the given kind, or the error that not even its characters may be collected. -/
def IsLoud (limits : ScanLimits) (kind : TokenKind)
    (outcome : Except ScanError (Option Token)) : Prop :=
  (∃ p, outcome = .error (.lexemeTooLong (limits.maxLexeme + 1) p)) ∨
    ∃ token, outcome = .ok (some token) ∧ token.kind = kind

namespace Spot

variable {s s₁ : Spot} {outcome : Except ScanError (Option Token)} {fault : Option DecodeError}
  {frame : Frame} {frames : List Frame} {p : Position}

/-- A stride that emits a token comes to it, or it has collected too much. -/
private theorem take_isLoud {stride : Stride} {landing : Landing} {kind : TokenKind}
    {lexeme : List Char} {frames : List Frame} (lands : stride.landing = .ok landing)
    (emits : landing.token = some (kind, lexeme))
    (turned : landing.turn.apply limits s.position s.frames = .ok frames) :
    IsLoud limits kind ((s.take limits stride).map Prod.fst) := by
  rcases Nat.lt_or_ge limits.maxLexeme stride.counted with long | room
  · rw [take_of_long long]
    exact .inl ⟨_, rfl⟩
  · rw [take_of_landing room lands turned, emits]
    exact .inr ⟨_, rfl, rfl⟩

/-- A walk that emits nothing goes on behind a silent step. -/
private theorem passed {s' : Spot} (walk : Walk limits acceptReturn s [] s₁)
    (next_eq : s.next limits acceptReturn = .ok (none, s'))
    (stops : (s₁.next limits acceptReturn).map Prod.fst ≠ .ok none) :
    Walk limits acceptReturn s' [] s₁ := by
  rcases walk.silent_cases with rfl | ⟨s'', silent, walk'⟩
  · rw [next_eq] at stops
    exact absurd rfl stops
  · cases next_eq.symm.trans silent
    exact walk'

/-- A walk that emits nothing does not get past a step that does. -/
private theorem stopped (walk : Walk limits acceptReturn s [] s₁)
    (loud : (s.next limits acceptReturn).map Prod.fst ≠ .ok none) : s₁ = s := by
  rcases walk.silent_cases with same | ⟨s', silent, -⟩
  · exact same
  · rw [silent] at loud
    exact absurd rfl loud

private theorem IsLoud.ne {kind : TokenKind} (loud : IsLoud limits kind outcome) :
    outcome ≠ .ok none := by
  rcases loud with ⟨p, rfl⟩ | ⟨token, rfl, -⟩ <;> exact nofun

/-- With no group open the delimiter is plain punctuation. -/
private theorem punctuation_isLoud (closes : c = ')' ∨ c = ']')
    (walk : Walk limits acceptReturn ⟨.closeGroup, [], ⟨c :: rest, fault⟩, p⟩ [] s₁)
    (stops : (s₁.next limits acceptReturn).map Prod.fst ≠ .ok none) :
    IsLoud limits .terminalSymbol ((s₁.next limits acceptReturn).map Prod.fst) := by
  have punctuation : (Spot.mk .closeGroup [] ⟨c :: rest, fault⟩ p).next limits acceptReturn =
      .ok (none, ⟨.bareTerminal, [], ⟨c :: rest, fault⟩, p⟩) := take_still _ _
  have plain : Stride.word fault c rest = .token .terminalSymbol [c] rest := by
    rcases closes with rfl | rfl
    · rw [Stride.word, if_neg (by decide), if_neg (by decide)]
    · rw [Stride.word, if_neg (by decide), if_neg (by decide)]
  have lands : (Stride.word fault c rest).landing =
      .ok { next := .dispatch, token := some (.terminalSymbol, [c]) } := by rw [plain]; rfl
  have loud : IsLoud limits .terminalSymbol (((Spot.mk .bareTerminal [] ⟨c :: rest, fault⟩ p).next
      limits acceptReturn).map Prod.fst) := take_isLoud lands rfl rfl
  rw [stopped (passed walk punctuation stops) (IsLoud.ne loud)]
  exact loud

/-- The closer of the innermost group closes it, and the other one is refused. -/
private theorem closer_cases (group : frame.kind.isGroup = true)
    (walk : Walk limits acceptReturn ⟨.closeGroup, frame :: frames, ⟨c :: rest, fault⟩, p⟩ [] s₁) :
    (∃ kind, kind.closesGroup = true ∧
      IsLoud limits kind ((s₁.next limits acceptReturn).map Prod.fst)) ∨
    frame.closer ≠ c ∧
      (s₁.next limits acceptReturn).map Prod.fst = .error (.mismatched frame.closer c p) := by
  by_cases closes : frame.closer = c
  · obtain ⟨symbol, closer, lands⟩ : ∃ symbol : TokenKind, symbol.closesGroup = true ∧
        ((Spot.mk .closeGroup (frame :: frames) ⟨c :: rest, fault⟩ p).stride acceptReturn).landing =
          .ok ⟨.dispatch, some (symbol, [c]), .closes⟩ := by
      refine ⟨if frame.kind = .bracket then .bracketRight else .parenRight, ?_, ?_⟩
      · split <;> rfl
      · change (Stride.groupEnd (some (frame.kind, frame.closer)) c rest).landing = _
        simp only [Stride.groupEnd, group, closes, if_true]
    have loud : IsLoud limits symbol (((Spot.mk .closeGroup (frame :: frames)
      ⟨c :: rest, fault⟩ p).next limits acceptReturn).map Prod.fst) := take_isLoud lands rfl rfl
    rw [stopped walk (IsLoud.ne loud)]
    exact .inl ⟨symbol, closer, loud⟩
  · have refused : (Spot.mk .closeGroup (frame :: frames) ⟨c :: rest, fault⟩ p).next limits
        acceptReturn = .error (.mismatched frame.closer c p) := by
      change take limits _ (Stride.groupEnd (some (frame.kind, frame.closer)) c rest) = _
      simp only [Stride.groupEnd, group, if_true, if_neg closes]
      exact take_of_unread
    have loud : ((Spot.mk .closeGroup (frame :: frames) ⟨c :: rest, fault⟩ p).next limits
        acceptReturn).map Prod.fst ≠ .ok none := by
      rw [refused]
      rintro silent
      cases silent
    rw [stopped walk loud, refused]
    exact .inr ⟨closes, rfl⟩

/-- What becomes of a closing delimiter between two constructs is decided by the innermost open
group. -/
private theorem closer_outcome (phase : s.phase = .dispatch) (met : s.left.chars = c :: rest)
    (closes : c = ')' ∨ c = ']') (groups : OnlyGroups s.frames)
    (walk : Walk limits acceptReturn s [] s₁)
    (stops : (s₁.next limits acceptReturn).map Prod.fst ≠ .ok none) :
    (s.frames = [] ∧ IsLoud limits .terminalSymbol ((s₁.next limits acceptReturn).map Prod.fst)) ∨
    ∃ frame frames, s.frames = frame :: frames ∧
      ((∃ kind, kind.closesGroup = true ∧
          IsLoud limits kind ((s₁.next limits acceptReturn).map Prod.fst)) ∨
        frame.closer ≠ c ∧ (s₁.next limits acceptReturn).map Prod.fst =
          .error (.mismatched frame.closer c s.position)) := by
  obtain ⟨phase', frames, ⟨chars, fault⟩, p⟩ := s
  subst phase
  obtain rfl : chars = c :: rest := met
  have selects : Phase.ofLookahead acceptReturn c = .closeGroup := by
    rcases closes with rfl | rfl <;> rfl
  have selected : (Spot.mk .dispatch frames ⟨c :: rest, fault⟩ p).next limits acceptReturn =
      .ok (none, ⟨.closeGroup, frames, ⟨c :: rest, fault⟩, p⟩) := by
    rw [← selects]
    exact take_still _ _
  have walk := passed walk selected stops
  cases frames with
  | nil => exact .inl ⟨rfl, punctuation_isLoud closes walk stops⟩
  | cons frame frames =>
    exact .inr ⟨frame, frames, rfl, closer_cases (groups frame List.mem_cons_self) walk⟩

end Spot

/-! ### Between constructs -/

/-- The delimiters among the tokens are the front of a balanced word, and the open constructs are
the unmatched opening ones among them. -/
structure Nested (limits : ScanLimits) (emitted : List Token) (frames : List Frame)
    (openers : List Token) : Prop where
  unmatched : Unmatched (delimiters emitted) openers
  balanced : ∃ missing, Balanced ((delimiters emitted).map Token.kind ++ missing)
  -- Outermost first.
  records : List.Forall₂ Frame.Records frames.reverse openers
  depth_add : frames.length + emitted.countP (·.kind.closesGroup) =
    emitted.countP (·.kind.opensGroup)
  depth_le : frames.length ≤ limits.maxDepth

private theorem count_delimiters (kinds : TokenKind → Bool) (tokens : List Token)
    (delimit : ∀ kind, kinds kind = true → kind.delimitsGroup = true) :
    ((delimiters tokens).map Token.kind).countP kinds = tokens.countP (kinds ·.kind) := by
  rw [List.countP_map, delimiters, List.countP_filter]
  apply List.countP_congr
  intro token _
  simp only [Function.comp_apply, Bool.and_eq_true, and_iff_left_iff_imp]
  exact delimit token.kind

/-- Between two constructs nothing but groups is open. -/
private theorem nested_of_recorded {frames : List Frame} (recorded : Recorded emitted frames openers)
    (groups : OnlyGroups frames) (depth_le : frames.length ≤ limits.maxDepth) :
    Nested limits emitted frames openers := by
  obtain ⟨unmatched, records⟩ := recorded
  rw [groupFrames_eq_self groups] at records
  refine ⟨unmatched, unmatched.completes, ?_, ?_, depth_le⟩
  · rw [← List.reverse_reverse openers, List.forall₂_reverse_iff]
    exact records
  · have count := unmatched.count_add
    have closes := count_delimiters TokenKind.closesGroup emitted (by
      intro kind closes
      simp [TokenKind.delimitsGroup, closes])
    have opens := count_delimiters TokenKind.opensGroup emitted (by
      intro kind opens
      simp [TokenKind.delimitsGroup, opens])
    rw [closes, opens] at count
    rw [records.length_eq, List.length_reverse]
    exact count

namespace Machine

theorem Emits.nested (emits : Emits limits acceptReturn source emitted m r)
    (between : m.phase = .dispatch ∨ m.phase = .finished) :
    ∃ openers, Nested limits emitted m.nesting.frames openers := by
  obtain ⟨openers, recorded⟩ := emits.recorded
  have nests := emits.agrees.nests
  have groups : OnlyGroups m.nesting.frames := by
    rcases between with phase | phase
    · rw [phase] at nests
      exact nests
    · rw [phase] at nests
      exact nests
  exact ⟨openers, nested_of_recorded recorded groups emits.depth_le⟩

/-- A closing delimiter is read as punctuation only if no group is open, and refused only if the
innermost one is of the other kind. -/
theorem Emits.closer (emits : Emits limits acceptReturn source emitted m r)
    (nested : Nested limits emitted m.nesting.frames openers) (phase : m.phase = .dispatch)
    (met : r.source.contents.chars = c :: rest) (closes : c = ')' ∨ c = ']') :
    (∀ token, (m.pull limits r).outcome = .ok (some token) → token.kind = .terminalSymbol →
      openers = []) ∧
    ∀ expected found p, (m.pull limits r).outcome = .error (.mismatched expected found p) →
      ∃ opener, openers.getLast? = some opener ∧
        opener.kind = if c = ')' then .bracketLeft else .parenLeft := by
  obtain ⟨s, -, here⟩ := emits.walk
  obtain ⟨m₁, r₁, s₁, here₁, walk, pulled⟩ : ∃ (m₁ : Machine) (r₁ : Intake) (s₁ : Spot),
      m₁.At acceptReturn r₁ s₁ ∧ Spot.Walk limits acceptReturn s [] s₁ ∧
      m.pull limits r = m₁.step limits r₁ := here.pull
  have nests := here.spot_agrees.nests
  have phase' : s.phase = .dispatch := here.phase_eq ▸ phase
  rw [phase'] at nests
  rw [here.contents_eq] at met
  rw [pulled, here₁.outcome_eq]
  have cases_of := Spot.closer_outcome phase' met closes nests walk
  have records := nested.records
  have frames_eq : m.nesting.frames = s.frames := here.holds.frames_eq
  rw [frames_eq] at records
  generalize (s₁.next limits acceptReturn).map Prod.fst = outcome at cases_of ⊢
  constructor
  · rintro token rfl kind
    rcases cases_of nofun with ⟨nothing, -⟩ | ⟨frame, frames, -, ⟨right, closer, loud⟩ | ⟨-, refused⟩⟩
    · rw [nothing] at records
      exact List.forall₂_nil_left_iff.mp records
    · rcases loud with ⟨p, failed⟩ | ⟨_, same, right_eq⟩
      · cases failed
      · cases same
        rw [← right_eq, kind] at closer
        cases closer
    · cases refused
  · rintro expected found p rfl
    rcases cases_of nofun with ⟨-, loud⟩ | ⟨frame, frames, open_eq, ⟨right, -, loud⟩ | ⟨other, -⟩⟩
    · rcases loud with ⟨p, failed⟩ | ⟨_, same, -⟩
      · cases failed
      · cases same
    · rcases loud with ⟨p, failed⟩ | ⟨_, same, -⟩
      · cases failed
      · cases same
    · rw [open_eq, ← List.forall₂_reverse_iff, List.reverse_reverse,
        List.forall₂_cons_left_iff] at records
      obtain ⟨opener, others, innermost, -, turned⟩ := records
      refine ⟨opener, ?_, ?_⟩
      · rw [← List.head?_reverse, turned, List.head?_cons]
      · rcases innermost.kinds with ⟨-, closer, kind⟩ | ⟨-, closer, kind⟩
        · rw [closer] at other
          rw [kind, if_neg other.symm]
        · rw [closer] at other
          have round : c = ')' := closes.resolve_right other.symm
          rw [kind, if_pos round]

end Machine

/-! ### Sessions -/

/-- How a session has come to where it is: its machine has emitted what is buffered, or it has failed,
in a handler or because there was no room for a further token. -/
inductive Core.Emitted (limits : ScanLimits) (acceptReturn : Bool) (source : CharSource) (k : Core) :
    List Token → Prop where
  | running (unfailed : k.failure = none)
      (emits : Machine.Emits limits acceptReturn source k.buffer.tokens.toList k.machine k.intake) :
      Emitted limits acceptReturn source k k.buffer.tokens.toList
  | broken {m : Machine} {r : Intake} {e : ScanError} (stuck : k.failure = some e)
      (emits : Machine.Emits limits acceptReturn source k.buffer.tokens.toList m r)
      (stepped : m.step limits r = ⟨.error e, k.machine, k.intake⟩) :
      Emitted limits acceptReturn source k k.buffer.tokens.toList
  | crowded {token : Token}
      (stuck : k.failure = some (.tooManyTokens (k.buffer.size + 1) k.intake.position))
      (emits : Machine.Emits limits acceptReturn source (k.buffer.tokens.toList ++ [token]) k.machine
        k.intake) : Emitted limits acceptReturn source k (k.buffer.tokens.toList ++ [token])

namespace Core

variable {k k' : Core} {answer : Except ScanError (Option Token)} {tokens : List Token}

theorem Emitted.of_cursor {cursor : Nat} {iterated : Bool}
    (emitted : k.Emitted limits acceptReturn source tokens) :
    ({ k with buffer := { k.buffer with cursor := cursor }, iterated := iterated } : Core).Emitted
      limits acceptReturn source tokens := by
  cases emitted with
  | running unfailed emits => exact .running unfailed emits
  | broken stuck emits stepped => exact .broken stuck emits stepped
  | crowded stuck emits => exact .crowded stuck emits

theorem Emitted.emits (emitted : k.Emitted limits acceptReturn source tokens)
    (isOpen : k.IsOpen) :
    Machine.Emits limits acceptReturn source k.buffer.tokens.toList k.machine k.intake := by
  cases emitted with
  | running unfailed emits => exact emits
  | broken stuck => cases stuck.symm.trans isOpen.2
  | crowded stuck => cases stuck.symm.trans isOpen.2

theorem Next.keeps_emitted (next : k.Next limits answer k')
    (emitted : k.Emitted limits acceptReturn source tokens) :
    ∃ tokens', k'.Emitted limits acceptReturn source tokens' := by
  cases next with
  | buffered => exact ⟨_, emitted.of_cursor⟩
  | finished => exact ⟨_, emitted⟩
  | failed => exact ⟨_, emitted⟩
  | broken empty isOpen pulled =>
    obtain ⟨m₁, r₁, emits, same⟩ := (emitted.emits isOpen).pull
    exact ⟨_, .broken rfl emits (same.symm.trans pulled)⟩
  | silent empty isOpen pulled =>
    obtain ⟨m₁, r₁, emits, same⟩ := (emitted.emits isOpen).pull
    have emits' := emits.step (same.symm.trans pulled)
    rw [Option.toList_none, List.append_nil] at emits'
    exact ⟨_, .running isOpen.2 emits'⟩
  | crowded empty isOpen pulled crowded =>
    obtain ⟨m₁, r₁, emits, same⟩ := (emitted.emits isOpen).pull
    exact ⟨_, .crowded rfl (emits.step (same.symm.trans pulled))⟩
  | @read token m' r' empty isOpen pulled room =>
    obtain ⟨m₁, r₁, emits, same⟩ := (emitted.emits isOpen).pull
    have emits' := emits.step (same.symm.trans pulled)
    refine ⟨_, .running isOpen.2 ?_⟩
    rwa [TokenBuffer.tokens_taken]

end Core

namespace Session

theorem emitted_lasting (limits : ScanLimits) (acceptReturn : Bool) (source : CharSource) :
    Lasting limits fun k => ∃ tokens, k.Emitted limits acceptReturn source tokens where
  next := fun ⟨_, emitted⟩ next => next.keeps_emitted emitted
  of_cursor := fun ⟨tokens, emitted⟩ _ _ => ⟨tokens, emitted.of_cursor⟩

theorem serve_emitted (limits : ScanLimits) (preferences : LexicalPreferences) (source : CharSource)
    (requests : List Request) :
    ∃ tokens, ((start preferences source).serve limits requests).core.Emitted limits
      preferences.acceptCarriageReturn source tokens :=
  (emitted_lasting limits preferences.acceptCarriageReturn source).serve
    ⟨[], .running rfl .fresh⟩ requests

/-- Between two constructs the open constructs are the unmatched opening delimiters among the tokens
that the machine has emitted, in a run of it and in a session. -/
theorem groups_nest (limits : ScanLimits) (preferences : LexicalPreferences) (source : CharSource) :
    (∀ emitted m r,
      Machine.Emits limits preferences.acceptCarriageReturn source emitted m r →
      m.phase = .dispatch ∨ m.phase = .finished →
      ∃ openers, Nested limits emitted m.nesting.frames openers ∧
        (m.phase = .dispatch → ∀ c rest, r.source.contents.chars = c :: rest → c = ')' ∨ c = ']' →
          (∀ token, (m.pull limits r).outcome = .ok (some token) → token.kind = .terminalSymbol →
            openers = []) ∧
          ∀ expected found p, (m.pull limits r).outcome = .error (.mismatched expected found p) →
            ∃ opener, openers.getLast? = some opener ∧
              opener.kind = if c = ')' then .bracketLeft else .parenLeft)) ∧
    ∀ requests, let s := (start preferences source).serve limits requests
      (∃ emitted, s.core.Emitted limits preferences.acceptCarriageReturn source emitted) ∧
      ∀ emitted, s.core.Emitted limits preferences.acceptCarriageReturn source emitted →
        s.machine.phase = .dispatch ∨ s.machine.phase = .finished →
        ∃ openers, Nested limits emitted s.machine.nesting.frames openers := by
  refine ⟨?_, ?_⟩
  · intro emitted m r emits between
    obtain ⟨openers, nested⟩ := emits.nested between
    refine ⟨openers, nested, ?_⟩
    intro phase c rest met closes
    exact emits.closer nested phase met closes
  · intro requests s
    refine ⟨serve_emitted limits preferences source requests, ?_⟩
    intro emitted emitted_by between
    cases emitted_by with
    | running unfailed emits => exact emits.nested between
    | broken stuck emits stepped =>
      have same : s.machine = _ := emits.eq_of_failed stepped
      rw [same] at between ⊢
      exact emits.nested between
    | crowded stuck emits => exact emits.nested between

/-- Behind an opening parenthesis, in front of a closing bracket. -/
theorem groups_nest_of_mismatch :
    (∃ emitted m r openers opener,
      Machine.Emits .development true ⟨.ofBytes [0x28, 0x5D], none, none⟩ emitted m r ∧
      m.phase = .dispatch ∧ r.source.contents.chars = [']'] ∧
      (m.pull .development r).outcome = .error (.mismatched ')' ']' ⟨1, 1, 2⟩) ∧
      Nested .development emitted m.nesting.frames openers ∧ openers.getLast? = some opener ∧
      opener.kind = .parenLeft) ∧
    ∃ emitted openers, let s := (start {} ⟨.ofBytes [0x28, 0x5D], none, none⟩).serve .development [.next]
      s.core.Emitted .development true ⟨.ofBytes [0x28, 0x5D], none, none⟩ emitted ∧
      s.machine.phase = .dispatch ∧ Nested .development emitted s.machine.nesting.frames openers := by
  obtain ⟨run, session⟩ := groups_nest .development {} ⟨.ofBytes [0x28, 0x5D], none, none⟩
  constructor
  · obtain ⟨emitted, m, r, emits, phase, met, refused⟩ : ∃ emitted m r,
        Machine.Emits .development true ⟨.ofBytes [0x28, 0x5D], none, none⟩ emitted m r ∧
        m.phase = .dispatch ∧ r.source.contents.chars = [']'] ∧
        (m.pull .development r).outcome = .error (.mismatched ')' ']' ⟨1, 1, 2⟩) :=
      ⟨_, _, _, .step (.step .fresh rfl) rfl, rfl, by decide +kernel, by decide +kernel⟩
    obtain ⟨openers, nested, closing⟩ := run emitted m r emits (.inl phase)
    obtain ⟨opener, last, kind⟩ := (closing phase ']' [] met (.inr rfl)).2 _ _ _ refused
    exact ⟨emitted, m, r, openers, opener, emits, phase, met, refused, nested, last, kind⟩
  · obtain ⟨⟨emitted, emitted_by⟩, nests⟩ := session [.next]
    have phase : ((start {} ⟨.ofBytes [0x28, 0x5D], none, none⟩).serve .development
      [.next]).machine.phase = .dispatch := by decide +kernel
    obtain ⟨openers, nested⟩ := nests emitted emitted_by (.inl phase)
    exact ⟨emitted, openers, emitted_by, phase, nested⟩

end Session

end GrammarLex
