import GrammarLex.Proofs.Scan.Depth
import GrammarLex.Proofs.Scan.Places
import GrammarLex.Proofs.Text.Bounds

/-!
# Everything a machine computes has room

An intake moves its position over a character when it consumes it, and counts no character but these. So
in a text that is not too long neither leaves its words, in a step that fails neither. Tokens and errors
are placed behind fronts of the text, and every construct that is open has an opening delimiter of its
own.
-/
namespace GrammarLex

/-! ### Intakes -/

namespace Intake

/-- The intake has used these characters of a text of at most the given size, and has been within its
words all the time. -/
structure Measured (size : Nat) (used : List Char) (r : Intake) : Prop where
  position_eq : r.position = Position.start.advanceBy used
  room : used.length + r.source.contents.chars.length ≤ size
  counted_le : r.counted ≤ used.length
  fits : r.overflowed = false

/-- What is left of this when the source has failed or a character was one too many. -/
structure Settled (size : Nat) (r : Intake) : Prop where
  reached : r.position.Reached size
  fits : r.overflowed = false

namespace Measured

variable {size : Nat} {used : List Char} {r q : Intake} {c : Char}

theorem settled (measured : r.Measured size used) : r.Settled size :=
  ⟨⟨used, Nat.le_trans (Nat.le_add_right _ _) measured.room, measured.position_eq⟩, measured.fits⟩

/-- What has been looked at is still to come. -/
theorem looked (measured : r.Measured size used) {next : Option Char} {s : CharSource}
    (looked : r.source.peek = .ok next s) : ({ r with source := s } : Intake).Measured size used := by
  refine { measured with room := ?_ }
  cases next with
  | none =>
    rw [CharSource.contents_of_peek_end looked]
    exact Nat.le_trans (Nat.le_add_right _ _) measured.room
  | some c =>
    rw [← (CharSource.contents_of_peek looked).1]
    exact measured.room

theorem count_fits (measured : r.Measured size used) (short : size ≤ maxWord32 - 2) :
    r.count.overflowed = false := by
  have few : ¬r.counted + 1 > maxWord64 := by
    have counted := measured.counted_le
    have room := measured.room
    simp only [maxWord32, maxWord64] at short ⊢
    omega
  simp only [count, measured.fits, few, decide_false, Bool.or_false]

/-- The one place where a character changes over from what is to come to what has been used. -/
private theorem moved (measured : r.Measured size used) (short : size ≤ maxWord32 - 2)
    (shows : r.Shows c) (position_eq : q.position = r.position)
    (source_eq : q.source = r.source.dropped) (counted_le : q.counted ≤ used.length + 1)
    (fits : q.overflowed = false) : (q.moveOver c).Measured size (used ++ [c]) := by
  have chars_eq : r.source.contents.chars = c :: r.source.dropped.contents.chars :=
    congrArg Contents.chars (CharSource.contents_of_peek (CharSource.Shows.peek_eq shows)).2
  have room : (used ++ [c]).length + r.source.dropped.contents.chars.length ≤ size := by
    have room := measured.room
    rw [chars_eq, List.length_cons] at room
    rw [List.length_append, List.length_singleton]
    omega
  have place : q.position.advance c = Position.start.advanceBy (used ++ [c]) := by
    rw [Position.advanceBy_append, position_eq, measured.position_eq]
    rfl
  have reached : (q.position.advance c).Reached size :=
    ⟨used ++ [c], Nat.le_trans (Nat.le_add_right _ _) room, place⟩
  have placeFits := (reached.single_fits short).1
  refine ⟨place, source_eq ▸ room, ?_, ?_⟩
  · rw [List.length_append, List.length_singleton]
    exact counted_le
  · simp only [moveOver, fits, placeFits, decide_true, Bool.not_true, Bool.or_false]

theorem passed (measured : r.Measured size used) (short : size ≤ maxWord32 - 2)
    (shows : r.Shows c) : (r.dropLookahead.moveOver c).Measured size (used ++ [c]) :=
  measured.moved short shows rfl rfl (Nat.le_succ_of_le measured.counted_le) measured.fits

theorem stored (measured : r.Measured size used) (short : size ≤ maxWord32 - 2)
    (shows : r.Shows c) (lexeme : String) :
    (moveOver c { r.dropLookahead.count with lexeme }).Measured size (used ++ [c]) :=
  measured.moved short shows rfl rfl (Nat.succ_le_succ measured.counted_le)
    (measured.count_fits short)

end Measured

end Intake

/-- A source coupled with itself, in front of which an intake has been within its words. -/
def Coupling.measured (size : Nat) (short : size ≤ maxWord32 - 2) : Coupling where
  joined r t := t = r.source ∧ ∃ used, r.Measured size used
  kept r _ := r.Settled size
  parted _ _ := False
  keeps := by
    rintro r t ⟨-, used, measured⟩
    exact measured.settled
  shows := by
    rintro r t c ⟨rfl, -⟩ shows
    exact shows
  look := by
    rintro r t ⟨rfl, used, measured⟩
    cases looked : CharSource.peek r.source with
    | ok next s => exact .done looked looked ⟨rfl, used, measured.looked looked⟩
    | error e s => exact .failed looked looked ⟨measured.settled.reached, measured.fits⟩
  passed := by
    rintro r t c ⟨rfl, used, measured⟩ shows
    exact ⟨rfl, _, measured.passed short shows⟩
  stored := by
    rintro limits r r' t c ⟨rfl, used, measured⟩ shows stored
    rw [Intake.collect_eq_ok stored]
    exact ⟨rfl, _, measured.stored short shows _⟩
  refused := by
    rintro limits r r' t c e ⟨rfl, used, measured⟩ shows refused
    rw [Intake.collect_eq_error refused]
    exact ⟨measured.settled.reached, measured.count_fits short⟩
  cleared := by
    rintro r t ⟨rfl, used, measured⟩
    exact ⟨rfl, used, { measured with counted_le := Nat.zero_le _ }⟩
  marked := by
    rintro r t p ⟨rfl, used, measured⟩
    exact ⟨rfl, used, measured.position_eq, measured.room, measured.counted_le, measured.fits⟩

/-! ### Places -/

section

variable {limits : ScanLimits} {acceptReturn : Bool} {source : CharSource} {text : List Char}
  {tokens : List Token} {token : Option Token} {m m' : Machine} {r r' : Intake} {s s' : Spot}
  {e : ScanError}

theorem Obstacle.position_error (obstacle : Obstacle) (p : Position) :
    (obstacle.error p).position = p := by
  cases obstacle <;> rfl

/-- Whatever is stopped by an error is stopped behind some front of the text. -/
theorem Spot.Behind.reached_of_error (behind : s.Behind text tokens)
    (failed : s.next limits acceptReturn = .error e) : e.position.Reached text.length := by
  obtain ⟨front, back, rfl, start_eq, position_eq, -, -⟩ := behind
  have whole := congrArg List.length (s.stride_whole acceptReturn)
  simp only [Stride.used, List.length_append] at whole
  simp only [List.length_append]
  rcases Spot.take_eq_error failed with
    ⟨-, rfl⟩ | ⟨obstacle, -, rfl⟩ | ⟨landing, -, turned⟩
  · refine ⟨front ++ (s.stride acceptReturn).front, ?_, ?_⟩
    · rw [List.length_append]
      omega
    · rw [Position.advanceBy_append, ← start_eq]
      rfl
  · refine ⟨front ++ back ++ (s.stride acceptReturn).used, ?_, ?_⟩
    · simp only [Stride.used, List.length_append]
      omega
    · rw [Position.advanceBy_append, ← position_eq]
      exact obstacle.position_error _
  · refine ⟨front ++ back, ?_, ?_⟩
    · rw [List.length_append]
      omega
    · rw [← position_eq]
      exact Turn.position_of_refused turned

theorem Machine.Emits.reached_of_failed (emits : Emits limits acceptReturn source tokens m r)
    (stepped : m.step limits r = ⟨.error e, m', r'⟩) :
    e.position.Reached source.contents.chars.length := by
  obtain ⟨s, here, behind⟩ := emits.behind
  exact behind.reached_of_error (here.next_of_error stepped)

theorem Placed.reached {bound : Nat} (placed : Placed text tokens bound) :
    ∀ token ∈ tokens, ∃ p : Position, p.Reached text.length ∧ token.place = p.place := by
  induction placed with
  | nil => exact nofun
  | @snoc tokens last count bound before place_eq within below ih =>
    intro token member
    rcases List.mem_append.mp member with member | member
    · exact ih token member
    · rw [List.mem_singleton.mp member]
      exact ⟨_, ⟨text.take count, List.length_take_le' _ _, rfl⟩, place_eq⟩

/-- Whatever is opened has an opening delimiter of its own. -/
theorem Spot.length_frames_add_le (next_eq : s.next limits acceptReturn = .ok (token, s')) :
    s'.frames.length + s'.left.chars.length ≤ s.frames.length + s.left.chars.length := by
  obtain ⟨landing, frames', -, lands, turned, -, rfl⟩ := take_eq_ok next_eq
  have whole := congrArg List.length (s.stride_whole acceptReturn)
  rw [List.length_append] at whole
  dsimp only
  cases turn_eq : landing.turn with
  | stay =>
    rw [turn_eq] at turned
    cases turned
    omega
  | closes =>
    rw [turn_eq] at turned
    cases turned
    rw [List.length_tail]
    omega
  | opens opener =>
    rw [turn_eq] at turned
    obtain ⟨kind, -, -, rfl⟩ := Turn.apply_opens turned
    obtain ⟨opening, rest, chars_eq⟩ := Phase.stride_opens lands turn_eq
    have behind : (s.stride acceptReturn).rest = rest := by
      rw [stride, chars_eq]
      cases phase_eq : s.phase with
      | openEnclosure | openGroup | actionOpen => rfl
      | _ =>
        rw [phase_eq] at opening
        cases opening
    rw [behind, chars_eq, List.length_cons, List.length_cons]
    omega

namespace Machine.Emits

theorem depth_add_le (emits : Emits limits acceptReturn source tokens m r) :
    m.nesting.depth + r.source.contents.chars.length ≤ source.contents.chars.length := by
  induction emits with
  | fresh => exact Nat.le_of_eq (Nat.zero_add _)
  | step before stepped ih =>
    obtain ⟨s, -, here⟩ := before.walk
    obtain ⟨s', next_eq, here'⟩ := here.next_of_ok stepped
    rw [Nesting.depth, here.holds.frames_eq, here.contents_eq] at ih
    rw [Nesting.depth, here'.holds.frames_eq, here'.contents_eq]
    exact Nat.le_trans (Spot.length_frames_add_le next_eq) ih

/-- The greatest depth is no greater than the number of characters. -/
theorem deepest_le (emits : Emits limits acceptReturn source tokens m r) :
    m.nesting.deepest ≤ source.contents.chars.length := by
  induction emits with
  | fresh => exact Nat.zero_le _
  | step before stepped ih =>
    rw [(deepest_of_step before.bounded stepped).1]
    exact Nat.max_le.mpr ⟨ih, Nat.le_trans (Nat.le_add_right _ _) (before.step stepped).depth_add_le⟩

end Machine.Emits

end

end GrammarLex
