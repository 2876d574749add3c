import GrammarLex.Proofs.Scan.Stops
import GrammarLex.Proofs.Text.Order

/-!
# Tokens have places of their own

A handler that emits a token takes characters for it. The exceptions are the text between
delimiters, which may be empty but starts at an opener that has been taken before, and the end
marker. So the tokens that a machine emits start behind fronts of the text that become longer and
longer: their places increase, and there is at most one more of them than characters taken.
-/
namespace GrammarLex

/-! ### What is taken for a token -/

namespace Stride

/-- Characters are taken for a token, unless it is the last. -/
def Pays (stride : Stride) : Prop :=
  ∀ landing, stride.landing = .ok landing → landing.token ≠ none →
    stride.body ≠ [] ∨ landing.next = .finished

variable {acceptReturn : Bool} {fault : Option DecodeError} {top : Option (FrameKind × Char)}
  {stride : Stride} {c : Char} {chars rest front : List Char}

theorem pays_of_body (some : stride.body ≠ []) : stride.Pays :=
  fun _ _ _ => .inl some

theorem pays_of_silent {landing : Landing} (lands : stride.landing = .ok landing)
    (silent : landing.token = none) : stride.Pays := by
  intro landing' lands' emits
  cases lands.symm.trans lands'
  exact absurd silent emits

theorem pays_of_obstacle {obstacle : Obstacle} (stops : stride.landing = .error obstacle) :
    stride.Pays := by
  intro landing lands
  cases stops.symm.trans lands

theorem Pays.facing (pays : stride.Pays) : (facing fault stride).Pays := by
  rcases facing_cases fault stride with same | ⟨e, same⟩
  · rw [same]
    exact pays
  · rw [same]
    exact pays_of_obstacle rfl

theorem still_pays (next : Phase) : (still next chars).Pays :=
  pays_of_silent rfl rfl

theorem refused_pays (words : String) (body rest : List Char) : (refused words body rest).Pays :=
  pays_of_obstacle rfl

theorem dispatch_pays : (dispatch acceptReturn fault chars).Pays := by
  cases chars with
  | nil =>
    refine Pays.facing ?_
    rintro landing ⟨⟩ -
    exact .inr rfl
  | cons c rest => exact still_pays _

theorem exclamation_pays : (exclamation fault c rest).Pays := by
  unfold exclamation
  split
  · exact pays_of_body (List.cons_ne_nil _ _)
  · exact (pays_of_body (List.cons_ne_nil _ _)).facing

theorem productionRule_pays : (productionRule fault c rest).Pays := by
  unfold productionRule
  split
  · exact pays_of_body (List.cons_ne_nil _ _)
  · exact (refused_pays _ _ _).facing
  · exact (refused_pays _ _ _).facing

theorem dots_pays : (dots fault c rest).Pays := by
  unfold dots
  split
  · exact pays_of_body (List.cons_ne_nil _ _)
  · exact (pays_of_body (List.cons_ne_nil _ _)).facing
  · exact (pays_of_body (List.cons_ne_nil _ _)).facing

theorem enclosureEnd_pays {closer : Char} : (enclosureEnd fault closer chars).Pays := by
  cases chars with
  | nil => exact (pays_of_silent rfl rfl).facing
  | cons c rest =>
    rw [enclosureEnd]
    split <;> exact pays_of_silent rfl rfl

theorem groupEnd_pays : (groupEnd top c rest).Pays := by
  unfold groupEnd
  split
  next => exact still_pays _
  next =>
    split
    next =>
      split
      · exact pays_of_body (List.cons_ne_nil _ _)
      · exact pays_of_obstacle rfl
    next => exact still_pays _

theorem named_pays : (named fault front chars).Pays := by
  unfold named
  split
  next =>
    dsimp only
    split
    · exact pays_of_obstacle rfl
    · exact pays_of_body (by simp)
  next => exact (pays_of_obstacle rfl).facing

/-- An argument starts with a character that separates nothing. -/
theorem argued_pays : (argued acceptReturn fault front
    (chars.dropWhile (Place.isArgumentSeparator acceptReturn))).Pays := by
  have stops := List.head?_dropWhile_not (Place.isArgumentSeparator acceptReturn) chars
  generalize chars.dropWhile (Place.isArgumentSeparator acceptReturn) = behind at stops
  unfold argued
  split
  next => exact (pays_of_obstacle rfl).facing
  next => exact pays_of_silent rfl rfl
  next noEnd noCloser =>
    refine Pays.facing (pays_of_body ?_)
    cases behind with
    | nil => exact absurd rfl noEnd
    | cons c rest =>
      have other : c ≠ ')' := by
        rintro rfl
        exact noCloser rest rfl
      simp only [List.head?_cons, Place.isArgumentSeparator, Bool.or_eq_false_iff] at stops
      have begins : Place.isArgumentChar acceptReturn c = true := by
        simp [Place.isArgumentChar, other, stops.2, by simpa using stops.1]
      simp [List.takeWhile_cons_of_pos begins]

theorem braced_pays {spaces : List Char} : (braced fault spaces chars).Pays := by
  cases chars with
  | nil => exact (pays_of_silent rfl rfl).facing
  | cons c rest =>
    rw [braced]
    split
    · exact pays_of_silent rfl rfl
    · exact pays_of_obstacle rfl

theorem word_pays : (word fault c rest).Pays := by
  unfold word
  split
  · exact (pays_of_body (List.cons_ne_nil _ _)).facing
  · split
    · exact pays_of_obstacle rfl
    · exact pays_of_body (List.cons_ne_nil _ _)

end Stride

open Stride in
/-- No token is had for nothing but the text between delimiters, which starts at its opener, and the
end marker. -/
theorem Phase.stride_pays (acceptReturn : Bool) (fault : Option DecodeError)
    (top : Option (FrameKind × Char)) {phase : Phase} (other : phase ≠ .scanEnclosed)
    (chars : List Char) : (phase.stride acceptReturn fault top chars).Pays := by
  cases phase with
  | scanEnclosed => exact absurd rfl other
  | dispatch => exact dispatch_pays
  | whitespace => exact (pays_of_silent rfl rfl).facing
  | closeEnclosure =>
    cases top with
    | none => exact still_pays _
    | some top => exact enclosureEnd_pays
  | actionName => exact named_pays
  | actionArgs => exact argued_pays
  | actionClose => exact braced_pays
  | finished => exact still_pays _
  | endOfRule =>
    cases chars with
    | nil => exact still_pays _
    | cons c rest => exact exclamation_pays
  | productionRuleOp =>
    cases chars with
    | nil => exact still_pays _
    | cons c rest => exact productionRule_pays
  | sequence =>
    cases chars with
    | nil => exact still_pays _
    | cons c rest => exact dots_pays
  | closeGroup =>
    cases chars with
    | nil => exact still_pays _
    | cons c rest => exact groupEnd_pays
  | bareTerminal =>
    cases chars with
    | nil => exact still_pays _
    | cons c rest => exact word_pays
  | or | assign | and | openEnclosure | openGroup | actionOpen =>
    cases chars with
    | nil => exact still_pays _
    | cons c rest => exact pays_of_body (List.cons_ne_nil _ _)

/-! ### Tokens in a text -/

/-- The tokens stand in the text one behind the other: the number of characters in front of each is
greater than for the one before, and below the bound. -/
inductive Placed (text : List Char) : List Token → Nat → Prop where
  | nil {bound : Nat} : Placed text [] bound
  | snoc {tokens : List Token} {token : Token} {count bound : Nat} (before : Placed text tokens count)
      (place_eq : token.place = (Position.start.advanceBy (text.take count)).place)
      (within : count ≤ text.length) (below : count < bound) : Placed text (tokens ++ [token]) bound

namespace Placed

variable {text : List Char} {tokens : List Token} {bound bound' : Nat}

theorem mono (placed : Placed text tokens bound) (le : bound ≤ bound') : Placed text tokens bound' := by
  cases placed with
  | nil => exact .nil
  | snoc before place_eq within below => exact .snoc before place_eq within (Nat.lt_of_lt_of_le below le)

theorem length_le (placed : Placed text tokens bound) : tokens.length ≤ bound := by
  induction placed with
  | nil => exact Nat.zero_le _
  | snoc before place_eq within below ih =>
    rw [List.length_append]
    exact Nat.lt_of_le_of_lt ih below

/-- Every token comes before the place at the bound. -/
theorem place_lt (placed : Placed text tokens bound) (within : bound ≤ text.length) (token : Token)
    (member : token ∈ tokens) :
    token.place < (Position.start.advanceBy (text.take bound)).place := by
  induction placed with
  | nil => cases member
  | @snoc tokens last count bound before place_eq _ below ih =>
    have onward : (Position.start.advanceBy (text.take count)).place <
        (Position.start.advanceBy (text.take bound)).place := by
      apply Position.lt_of_length_lt Position.place_lt_advance (List.take_prefix _ _)
        (List.take_prefix _ _)
      rw [List.length_take, List.length_take]
      omega
    rcases List.mem_append.mp member with member | member
    · exact (ih (Nat.le_trans below.le within) member).trans onward
    · rw [List.mem_singleton.mp member, place_eq]
      exact onward

theorem ordered (placed : Placed text tokens bound) : tokens.Pairwise (·.place < ·.place) := by
  induction placed with
  | nil => exact .nil
  | snoc before place_eq within below ih =>
    refine List.pairwise_append.mpr ⟨ih, List.pairwise_singleton _ _, ?_⟩
    intro token member last same
    rw [List.mem_singleton.mp same, place_eq]
    exact before.place_lt within token member

end Placed

/-! ### Walking through a text -/

section

variable {limits : ScanLimits} {acceptReturn : Bool} {source : CharSource} {text : List Char}
  {tokens : List Token} {token : Option Token} {m m' : Machine} {r r' : Intake} {s s' : Spot}

/-- A spot in a text, behind the tokens emitted on the way. What has been taken since the place where
the next token starts is the opener of text between delimiters, or nothing. -/
inductive Spot.Behind (text : List Char) (tokens : List Token) (s : Spot) : Prop where
  | intro (front back : List Char) (text_eq : text = front ++ back ++ s.left.chars)
      (start_eq : s.start = Position.start.advanceBy front)
      (position_eq : s.position = Position.start.advanceBy (front ++ back))
      (enclosing : back ≠ [] ↔ s.phase = .scanEnclosed)
      (placed : Placed text tokens (front.length + if s.phase = .finished then 1 else 0))

/-- At the end nothing is done. -/
theorem Spot.next_of_finished (finished : s.phase = .finished) :
    s.next limits acceptReturn = .ok (none, s) := by
  obtain ⟨phase, frames, left, p⟩ := s
  subst finished
  exact take_still .finished left.chars

namespace Spot.Behind

/-- The token of a step, if there is one, starts where the stride begins to take characters for it. -/
private theorem token_placed {front : List Char} {bound : Nat}
    (placed : Placed text tokens front.length)
    (start_eq : s.start = Position.start.advanceBy front)
    (next_eq : s.next limits acceptReturn = .ok (token, s'))
    (ahead : front ++ (s.stride acceptReturn).front <+: text) (le : front.length ≤ bound)
    (below : token ≠ none → (front ++ (s.stride acceptReturn).front).length < bound) :
    Placed text (tokens ++ token.toList) bound := by
  obtain ⟨landing, frames, -, -, -, token_eq, -⟩ := take_eq_ok next_eq
  cases token with
  | none =>
    rw [Option.toList_none, List.append_nil]
    exact placed.mono le
  | some token =>
    obtain ⟨⟨kind, lexeme⟩, -, rfl⟩ := Option.map_eq_some_iff.mp token_eq.symm
    have further : front.length ≤ (front ++ (s.stride acceptReturn).front).length := by
      rw [List.length_append]
      exact Nat.le_add_right _ _
    refine .snoc (placed.mono further) ?_ ahead.length_le (below nofun)
    rw [← List.prefix_iff_eq_take.mp ahead, Position.advanceBy_append, ← start_eq]
    exact Token.place_ofPosition _ _ _

/-- The token of text between delimiters starts at the opener, which has been taken. -/
private theorem next_enclosed (behind : s.Behind text tokens) (agrees : s.Agrees acceptReturn)
    (phase : s.phase = .scanEnclosed) (leads : s'.phase = .closeEnclosure)
    (next_eq : s.next limits acceptReturn = .ok (token, s')) :
    s'.Behind text (tokens ++ token.toList) := by
  obtain ⟨-, covers, there⟩ := next_covers next_eq
  obtain ⟨front, back, text_eq, start_eq, position_eq, enclosing, placed⟩ := behind
  have unfronted : (s.stride acceptReturn).front = [] := by
    obtain ⟨current, frames, left, p⟩ := s
    subst phase
    obtain ⟨frame, groups, rfl, -⟩ := agrees.nests
    exact Stride.facing_front
  have taken : front.length < (front ++ back ++ (s.stride acceptReturn).used).length := by
    have some := List.length_pos_iff.mpr (enclosing.mpr phase)
    rw [List.length_append, List.length_append]
    omega
  rw [← covers, ← List.append_assoc] at text_eq
  rw [position_eq, ← Position.advanceBy_append] at there
  rw [phase, if_neg nofun] at placed
  refine .intro (front ++ back ++ (s.stride acceptReturn).used) [] ?_ ?_ ?_ ?_ ?_
  · rw [List.append_nil, text_eq]
  · rw [start_of_other (by rw [leads]; exact nofun), there]
  · rw [List.append_nil, there]
  · rw [leads]
    simp
  · rw [leads, if_neg nofun]
    apply token_placed placed start_eq next_eq
    · rw [unfronted, List.append_nil, text_eq, List.append_assoc, List.append_assoc]
      exact List.prefix_append _ _
    · exact taken.le
    · intro _
      rw [unfronted, List.append_nil]
      exact taken

/-- The opener of text between delimiters is taken, and its place is kept. -/
private theorem next_opened (behind : s.Behind text tokens) (agrees : s.Agrees acceptReturn)
    (phase : s.phase = .openEnclosure) (leads : s'.phase = .scanEnclosed)
    (next_eq : s.next limits acceptReturn = .ok (token, s')) :
    s'.Behind text (tokens ++ token.toList) := by
  obtain ⟨-, covers, there⟩ := next_covers next_eq
  obtain ⟨opener, kind, -, front_eq, rfl, frames_eq⟩ := next_of_openEnclosure agrees phase next_eq
  obtain ⟨front, back, text_eq, start_eq, position_eq, enclosing, placed⟩ := behind
  obtain rfl : back = [] := by simpa [phase] using enclosing
  have used_eq : (s.stride acceptReturn).used = [opener] :=
    List.append_cancel_right (covers.trans front_eq)
  rw [List.append_nil] at position_eq
  rw [used_eq, position_eq, ← Position.advanceBy_append] at there
  rw [phase, if_neg nofun] at placed
  refine .intro front [opener] ?_ ?_ there ?_ ?_
  · rw [text_eq, front_eq, List.append_nil, List.append_assoc]
    rfl
  · rw [start, leads, frames_eq]
    exact position_eq
  · simp [leads]
  · rw [leads, if_neg nofun, Option.toList_none, List.append_nil]
    exact placed

/-- Everywhere else a token starts within what is taken. -/
private theorem next_plain (behind : s.Behind text tokens) (unfinished : s.phase ≠ .finished)
    (other : s.phase ≠ .scanEnclosed) (other' : s'.phase ≠ .scanEnclosed)
    (next_eq : s.next limits acceptReturn = .ok (token, s')) :
    s'.Behind text (tokens ++ token.toList) := by
  obtain ⟨-, covers, there⟩ := next_covers next_eq
  obtain ⟨front, back, text_eq, start_eq, position_eq, enclosing, placed⟩ := behind
  obtain rfl : back = [] := by simpa [other] using enclosing
  rw [List.append_nil] at text_eq position_eq
  rw [← covers, ← List.append_assoc] at text_eq
  rw [position_eq, ← Position.advanceBy_append] at there
  rw [if_neg unfinished] at placed
  refine .intro (front ++ (s.stride acceptReturn).used) [] ?_ ?_ ?_ ?_ ?_
  · rw [List.append_nil, text_eq]
  · rw [start_of_other other', there]
  · rw [List.append_nil, there]
  · simp [other']
  · apply token_placed placed start_eq next_eq
    · rw [text_eq, Stride.used, ← List.append_assoc, List.append_assoc _ _ s'.left.chars]
      exact List.prefix_append _ _
    · rw [List.length_append, Nat.add_assoc]
      exact Nat.le_add_right _ _
    · intro emits
      obtain ⟨landing, frames, -, lands, -, token_eq, s'_eq⟩ := take_eq_ok next_eq
      have paid : (s.stride acceptReturn).body ≠ [] ∨ landing.next = .finished := by
        apply Phase.stride_pays acceptReturn s.left.fault s.top other s.left.chars landing lands
        intro silent
        rw [silent] at token_eq
        exact emits token_eq
      rw [Stride.used]
      simp only [List.length_append]
      rcases paid with some | ended
      · have positive := List.length_pos_iff.mpr some
        omega
      · have finished : s'.phase = .finished := by rw [s'_eq, ended]
        rw [if_pos finished]
        omega

/-- A step keeps the tokens behind the machine in places of their own. -/
theorem step (behind : s.Behind text tokens) (here : m.At acceptReturn r s)
    (stepped : m.step limits r = ⟨.ok token, m', r'⟩) :
    ∃ s', m'.At acceptReturn r' s' ∧ s'.Behind text (tokens ++ token.toList) := by
  obtain ⟨s', next_eq, here'⟩ := here.next_of_ok stepped
  refine ⟨s', here', ?_⟩
  obtain ⟨move, -⟩ := here.agrees.moves stepped
  rw [here.phase_eq, here'.phase_eq] at move
  have agrees := here.spot_agrees
  by_cases finished : s.phase = .finished
  · cases (next_of_finished finished).symm.trans next_eq
    rw [Option.toList_none, List.append_nil]
    exact behind
  by_cases enclosed : s.phase = .scanEnclosed
  · rw [enclosed] at move
    exact behind.next_enclosed agrees enclosed move.next_of_scanEnclosed next_eq
  by_cases opened : s'.phase = .scanEnclosed
  · rw [opened] at move
    exact behind.next_opened agrees move.of_scanEnclosed opened next_eq
  · exact behind.next_plain finished enclosed opened next_eq

end Spot.Behind

/-- Whatever a machine has emitted stands behind it in places of its own. -/
theorem Machine.Emits.behind (emits : Emits limits acceptReturn source tokens m r) :
    ∃ s, m.At acceptReturn r s ∧ s.Behind source.contents.chars tokens := by
  induction emits with
  | fresh => exact ⟨_, at_initial acceptReturn source, .intro [] [] rfl rfl rfl (by simp) .nil⟩
  | step before stepped ih =>
    obtain ⟨s, here, behind⟩ := ih
    exact behind.step here stepped

/-- No token but the last is the end marker. -/
theorem Machine.Emits.unmarked_dropLast (emits : Emits limits acceptReturn source tokens m r) :
    ∀ token ∈ tokens.dropLast, token.isEndOfStream = false := by
  induction emits with
  | fresh => exact nofun
  | @step tokens m m' r r' token before stepped ih =>
    cases token with
    | none =>
      rw [Option.toList_none, List.append_nil]
      exact ih
    | some last =>
      -- A machine that is finished emits nothing more.
      have unfinished : m.phase ≠ .finished := by
        intro finished
        obtain ⟨s, here, -⟩ := before.behind
        obtain ⟨s', next_eq, -⟩ := here.next_of_ok stepped
        cases (Spot.next_of_finished (here.phase_eq.symm.trans finished)).symm.trans next_eq
      rw [Option.toList_some, List.dropLast_concat]
      exact before.unmarked unfinished

/-- The places of the tokens increase. -/
theorem Machine.Emits.ordered (emits : Emits limits acceptReturn source tokens m r) :
    tokens.Pairwise (·.place < ·.place) := by
  obtain ⟨s, -, behind⟩ := emits.behind
  obtain ⟨front, back, -, -, -, -, placed⟩ := behind
  exact placed.ordered

/-- There is at most one more token than characters taken. -/
theorem Machine.Emits.length_le (emits : Emits limits acceptReturn source tokens m r) :
    ∃ used, source.contents.chars = used ++ r.source.contents.chars ∧
      tokens.length ≤ used.length + 1 := by
  obtain ⟨s, here, behind⟩ := emits.behind
  obtain ⟨front, back, text_eq, -, -, -, placed⟩ := behind
  refine ⟨front ++ back, ?_, ?_⟩
  · rw [text_eq, here.contents_eq]
  · have counted := placed.length_le
    rw [List.length_append]
    split at counted <;> omega

end

end GrammarLex
