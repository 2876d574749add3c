import GrammarLex.Proofs.Scan.Insertion
import Mathlib.Data.Prod.Lex

/-!
# Loops end

The scanner has three loops: a scan steps the machine until there is a token or an error, and within
a handler characters are collected or skipped as long as they satisfy a predicate. Here each of them
is written with a number of rounds after which it is given up, and it is never given up if the
characters that have not been read are fewer. A handler that emits nothing takes a character, or else
it leads to a phase of a lower rank.
-/
namespace GrammarLex

/-- The characters that have not been consumed. -/
def Intake.unread (r : Intake) : Nat := r.source.contents.chars.length

/-! ### Steps that emit nothing -/

/-- How many steps a phase may be away from taking a character. -/
def Phase.rank : Phase → Nat
  | .closeEnclosure | .actionClose => 3
  | .dispatch => 2
  | .closeGroup => 1
  | _ => 0

theorem Phase.rank_le (phase : Phase) : phase.rank ≤ 3 := by
  cases phase <;> decide

theorem Phase.rank_lt_of_selected {phase : Phase} (selected : phase.isSelected = true) :
    phase.rank < rank .dispatch := by
  cases phase <;> first | decide | cases selected

/-- A handler that emits nothing leads to a phase of a lower rank, but for four of them. -/
theorem Move.rank_lt_or {acceptReturn : Bool} {r : Intake} {phase next : Phase}
    {frames frames' : List Frame} (move : Move acceptReturn r phase frames next none frames')
    (unfinished : phase ≠ .finished) : next.rank < phase.rank ∨
      phase ∈ [.whitespace, .openEnclosure, .actionOpen] ∨
      phase = .actionArgs ∧ next = .actionClose := by
  cases move with
  | select => exact .inl (Phase.rank_lt_of_selected (Phase.isSelected_ofLookahead _ _))
  | stay => exact absurd rfl unfinished
  | closeEnclosure | punctuate | closeAction => exact .inl (by decide)
  | skip | openEnclosure | openAction => exact .inr (.inl (by decide))
  | endArguments => exact .inr (.inr ⟨rfl, rfl⟩)

section

variable {limits : ScanLimits} {acceptReturn : Bool} {token : Option Token} {m m' : Machine}
  {r r' : Intake} {s s' : Spot}

/-- White space and the openers of enclosures and actions are taken. -/
theorem Spot.used_of_selected (agrees : s.Agrees acceptReturn)
    (phase : s.phase ∈ [.whitespace, .openEnclosure, .actionOpen]) :
    (s.stride acceptReturn).used ≠ [] := by
  obtain ⟨current, frames, ⟨chars, fault⟩, p⟩ := s
  have selects : current.isSelected = true := by
    simp only [List.mem_cons, List.not_mem_nil, or_false] at phase
    rcases phase with rfl | rfl | rfl <;> rfl
  obtain ⟨c, rest, rfl, selected⟩ := agrees.shown selects
  simp only [List.mem_cons, List.not_mem_nil, or_false] at phase
  rcases phase with rfl | rfl | rfl
  · rcases selected with selected | ⟨other, -⟩
    · simp [Spot.stride, Phase.stride, Stride.whitespace, Stride.used,
        isSeparator_of_lookahead selected]
    · cases other
  · exact List.cons_ne_nil _ _
  · exact List.cons_ne_nil _ _

theorem Stride.landing_of_facing {fault : Option DecodeError} {stride : Stride} {landing : Landing}
    (lands : (facing fault stride).landing = .ok landing) : stride.landing = .ok landing := by
  rcases facing_cases fault stride with same | ⟨e, same⟩
  · rwa [same] at lands
  · rw [same] at lands
    cases lands

/-- The parenthesis behind the arguments is taken. -/
theorem Stride.argued_body {fault : Option DecodeError} {front behind : List Char} {landing : Landing}
    (lands : (argued acceptReturn fault front behind).landing = .ok landing)
    (leads : landing.next = .actionClose) : (argued acceptReturn fault front behind).body ≠ [] := by
  unfold argued at lands ⊢
  split at lands
  next => cases landing_of_facing lands
  next => exact List.cons_ne_nil _ _
  next =>
    cases landing_of_facing lands
    cases leads

/-- A step that emits nothing takes characters, or it leads to a phase of a lower rank. -/
theorem Machine.At.used_or_rank_lt (here : m.At acceptReturn r s) (unfinished : m.phase ≠ .finished)
    (stepped : m.step limits r = ⟨.ok none, m', r'⟩) :
    (s.stride acceptReturn).used ≠ [] ∨ m'.phase.rank < m.phase.rank := by
  obtain ⟨move, -⟩ := here.agrees.moves stepped
  rcases move.rank_lt_or unfinished with lower | taking | ⟨phase, leads⟩
  · exact .inr lower
  · rw [here.phase_eq] at taking
    exact .inl (Spot.used_of_selected here.spot_agrees taking)
  · obtain ⟨s', next_eq, here'⟩ := here.next_of_ok stepped
    obtain ⟨landing, frames, -, lands, -, -, rfl⟩ := Spot.take_eq_ok next_eq
    rw [here.phase_eq] at phase
    have closes : landing.next = .actionClose := here'.phase_eq.symm.trans leads
    have stride_eq : s.stride acceptReturn = .actionArgs acceptReturn s.left.fault s.left.chars := by
      rw [Spot.stride, phase]
      rfl
    rw [stride_eq] at lands ⊢
    left
    intro nothing
    exact Stride.argued_body lands closes (List.append_eq_nil_iff.mp nothing).2

/-- **No cycle is silent.** A step that emits nothing leaves fewer characters to read, or as many and
a lower rank. -/
theorem Machine.At.silent_lt (here : m.At acceptReturn r s) (unfinished : m.phase ≠ .finished)
    (stepped : m.step limits r = ⟨.ok none, m', r'⟩) :
    toLex (r'.unread, m'.phase.rank) < toLex (r.unread, m.phase.rank) := by
  obtain ⟨s', next_eq, here'⟩ := here.next_of_ok stepped
  obtain ⟨-, covers, -⟩ := Spot.next_covers next_eq
  have taken : (s.stride acceptReturn).used.length + r'.unread = r.unread := by
    rw [Intake.unread, Intake.unread, here.contents_eq, here'.contents_eq, ← covers,
      List.length_append]
  rw [Prod.Lex.toLex_lt_toLex]
  rcases here.used_or_rank_lt unfinished stepped with some | lower
  · have positive := List.length_pos_iff.mpr some
    exact .inl (by omega)
  · rcases Nat.eq_zero_or_pos (s.stride acceptReturn).used.length with none | positive
    · exact .inr ⟨by omega, lower⟩
    · exact .inl (by omega)

end

/-! ### The loop of a scan -/

namespace Machine

/-- Step until there is a token or an error, and give up after a number of rounds. Nothing is asked of
the machine that is stepped. -/
def rounds (limits : ScanLimits) : Nat → Machine → Intake → Nat → Option Ran
  | 0, _, _, _ => none
  | n + 1, m, r, peak =>
    match step limits m r with
    | ⟨.error e, m', r'⟩ => some ⟨⟨.error e, m', r'⟩, peak⟩
    | ⟨.ok (some token), m', r'⟩ => some ⟨⟨.ok (some token), m', r'⟩, max peak m'.nesting.depth⟩
    | ⟨.ok none, m', r'⟩ => rounds limits n m' r' (max peak m'.nesting.depth)

variable {limits : ScanLimits} {acceptReturn : Bool} {m : Machine} {r : Intake} {s : Spot}

/-- More rounds than this are never needed. -/
def budget (m : Machine) (r : Intake) : Nat := 4 * r.unread + m.phase.rank

/-- The loop comes to the end of a run, which is a token or an error. -/
theorem At.rounds_eq {n : Nat} (here : m.At acceptReturn r s) (unfinished : m.phase ≠ .finished)
    (enough : m.budget r < n) (peak : Nat) :
    m.rounds limits n r peak = some (m.run limits r peak) ∧
      (m.run limits r peak).outcome ≠ .ok none := by
  induction n generalizing m r s peak with
  | zero => cases enough
  | succ n ih =>
    rw [rounds]
    rcases stepped : m.step limits r with ⟨outcome, m', r'⟩
    match outcome with
    | .error e =>
      rw [run_of_error stepped]
      exact ⟨rfl, nofun⟩
    | .ok (some token) =>
      rw [run_of_token stepped]
      exact ⟨rfl, nofun⟩
    | .ok none =>
      obtain ⟨s', -, here'⟩ := here.next_of_ok stepped
      have goesOn : m'.phase ≠ .finished :=
        ((here.agrees.moves stepped).1.finished_iff unfinished).not.mpr (by simp)
      have fewer : m'.budget r' < m.budget r := by
        have less := Prod.Lex.toLex_lt_toLex.mp (here.silent_lt unfinished stepped)
        have ranked := m'.phase.rank_le
        simp only [budget]
        omega
      rw [run_of_silent stepped, if_neg goesOn]
      exact ih here' goesOn (by omega) _

end Machine

/-! ### The loops over characters -/

namespace Intake

/-- Collect characters while they satisfy a predicate, and give up after a number of rounds. -/
def bumpRounds (limits : ScanLimits) (keep : Char → Bool) :
    Nat → Nat → Intake → Option (EStateM.Result ScanError Intake Nat)
  | 0, _, _ => none
  | n + 1, count, r =>
    match peek r with
    | .error e r => some (.error e r)
    | .ok none r => some (.ok count r)
    | .ok (some c) r =>
      if keep c then
        match bump limits r with
        | .error e r => some (.error e r)
        | .ok _ r => bumpRounds limits keep n (count + 1) r
      else some (.ok count r)

/-- Pass over characters while they satisfy a predicate, and give up after a number of rounds. -/
def skipRounds (keep : Char → Bool) :
    Nat → Nat → Intake → Option (EStateM.Result ScanError Intake Nat)
  | 0, _, _ => none
  | n + 1, count, r =>
    match peek r with
    | .error e r => some (.error e r)
    | .ok none r => some (.ok count r)
    | .ok (some c) r =>
      if keep c then
        match take r with
        | .error e r => some (.error e r)
        | .ok _ r => skipRounds keep n (count + 1) (r.moveOver c)
      else some (.ok count r)

variable {limits : ScanLimits} {keep : Char → Bool} {r ahead : Intake} {c : Char}

/-- A character that is looked at counts as unread until it is dropped. -/
theorem unread_of_peek (looked : peek r = .ok (some c) ahead) :
    ahead.Shows c ∧ ahead.dropLookahead.unread + 1 = r.unread := by
  simp only [peek] at looked
  cases result : r.source.peek with
  | error e source => simp [result] at looked
  | ok next source =>
    simp only [result, EStateM.Result.ok.injEq] at looked
    obtain ⟨rfl, rfl⟩ := looked
    have whole := (CharSource.contents_of_peek result).2
    refine ⟨CharSource.shows_of_peek result, ?_⟩
    rw [unread, unread, whole]
    rfl

theorem collect_source {r' : Intake} (stored : collect limits c r = .ok () r') :
    r'.source = r.source := by
  simp only [collect] at stored
  split at stored
  next => cases stored
  next => cases stored; rfl

/-- To consume a character that has been looked at is to drop and collect it. -/
theorem Shows.bump_eq (shows : r.Shows c) : bump limits r =
    match collect limits c r.dropLookahead with
    | .error e r => .error e r
    | .ok _ r => .ok (some c) r := by
  rw [bump, bind_apply, shows.take_eq]
  simp only [bind_apply]
  cases collect limits c r.dropLookahead <;> rfl

/-- The loop that collects is over after one round more than there are characters to read. -/
theorem bumpRounds_eq {n : Nat} (enough : r.unread < n) (count : Nat) :
    bumpRounds limits keep n count r = some (bumpWhileFrom limits keep count r) := by
  induction n generalizing r count with
  | zero => cases enough
  | succ n ih =>
    rw [bumpRounds]
    cases looked : peek r with
    | error e ahead => rw [bumpWhileFrom_of_error looked]
    | ok next ahead =>
      cases next with
      | none => rw [bumpWhileFrom_of_ok looked rfl]
      | some c =>
        by_cases keeps : keep c = true
        · obtain ⟨shows, fewer⟩ := unread_of_peek looked
          simp only [if_pos keeps, shows.bump_eq]
          cases stored : collect limits c ahead.dropLookahead with
          | error e last => rw [bumpWhileFrom_of_full looked keeps stored]
          | ok _ last =>
            rw [bumpWhileFrom_of_keep looked keeps stored]
            refine ih ?_ (count + 1)
            rw [unread, collect_source stored]
            exact Nat.lt_of_succ_lt_succ (fewer.trans_lt enough)
        · rw [bumpWhileFrom_of_ok looked (by simpa using keeps)]
          simp only [if_neg keeps]

/-- The loop that skips is over after one round more than there are characters to read. -/
theorem skipRounds_eq {n : Nat} (enough : r.unread < n) (count : Nat) :
    skipRounds keep n count r = some (skipWhileFrom keep count r) := by
  induction n generalizing r count with
  | zero => cases enough
  | succ n ih =>
    rw [skipRounds]
    cases looked : peek r with
    | error e ahead => rw [skipWhileFrom_of_error looked]
    | ok next ahead =>
      cases next with
      | none => rw [skipWhileFrom_of_ok looked rfl]
      | some c =>
        by_cases keeps : keep c = true
        · obtain ⟨shows, fewer⟩ := unread_of_peek looked
          have same : (ahead.dropLookahead.moveOver c).unread = ahead.dropLookahead.unread := rfl
          simp only [if_pos keeps, shows.take_eq]
          rw [skipWhileFrom_of_keep looked keeps]
          exact ih (by omega) (count + 1)
        · rw [skipWhileFrom_of_ok looked (by simpa using keeps)]
          simp only [if_neg keeps]

end Intake

end GrammarLex
