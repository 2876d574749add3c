import GrammarLex.Scan.Nesting
import Mathlib.Data.List.DropRight
import Mathlib.Data.List.Infix
import Mathlib.Order.Bounds.Basic

/-!
# Calls to the stack of open constructs

Constructs are opened with a delimiter or pushed as they are, and the innermost one is dropped or, if it
is a group, closed with a delimiter; in any order, with frames of any kind and closer. A call either
leaves the stack as it is, or opens one construct where there is room, or closes the innermost one:
`Nesting.Moves` says so, and what a series of calls keeps follows from it.
-/
namespace GrammarLex

/-- A group in parentheses or brackets. -/
def Frame.IsGroup (frame : Frame) : Prop := frame.kind = .paren ∨ frame.kind = .bracket

namespace Nesting

/-- A call to the stack. -/
inductive Call where
  | openWith (opener : Char) (openedAt : Position)
  | push (frame : Frame)
  | pop
  | closeGroup (found : Char) (position : Position)
  deriving DecidableEq

inductive Reply where
  -- The construct that is innermost now.
  | opened (top : Option Frame)
  | popped (frame : Option Frame)
  | closed (frame : Frame)
  | refused (error : ScanError)
  deriving DecidableEq

/-- Make a call. What is refused leaves the stack to the caller as it was. -/
def call (limits : ScanLimits) (n : Nesting) : Call → Reply × Nesting
  | .openWith opener p =>
    match n.openWith limits opener p with
    | .ok n' => (.opened n'.top?, n')
    | .error e => (.refused e, n)
  | .push frame =>
    match n.push limits frame with
    | .ok n' => (.opened n'.top?, n')
    | .error e => (.refused e, n)
  | .pop => (.popped n.top?, n.pop)
  | .closeGroup found p =>
    match n.closeGroup found p with
    | .ok (frame, n') => (.closed frame, n')
    | .error e => (.refused e, n)

/-- The stack that a series of calls leaves. -/
def after (limits : ScanLimits) (n : Nesting) (calls : List Call) : Nesting :=
  calls.foldl (fun n c => (n.call limits c).2) n

/-- The depths that the stack has had in the course of the calls. -/
def depths (limits : ScanLimits) (n : Nesting) (calls : List Call) : Set Nat :=
  {depth | ∃ before, before <+: calls ∧ (n.after limits before).depth = depth}

/-- What opens a construct, and with it the closer and the kind of the construct. -/
def openings : List (Char × Char × FrameKind) :=
  [('<', '>', .nonTerminal), ('"', '"', .quote), ('\'', '\'', .quote), ('(', ')', .paren),
    ('[', ']', .bracket), ('{', '}', .action)]

/-- What a call can do to the stack. -/
inductive Moves (limits : ScanLimits) (n : Nesting) : Nesting → Prop where
  | stays : Moves limits n n
  | opens (frame : Frame) (room : n.depth < limits.maxDepth) :
    Moves limits n ⟨frame :: n.frames, max n.deepest (n.depth + 1)⟩
  | closes (frame : Frame) (frames : List Frame) (frames_eq : n.frames = frame :: frames) :
    Moves limits n ⟨frames, n.deepest⟩

variable {limits : ScanLimits} {n n' : Nesting}

/-! ### One call -/

theorem push_eq (limits : ScanLimits) (n : Nesting) (frame : Frame) :
    n.call limits (.push frame) =
      if n.depth < limits.maxDepth then
        (.opened (some frame), ⟨frame :: n.frames, max n.deepest (n.depth + 1)⟩)
      else (.refused (.nestedTooDeep (n.depth + 1) frame.openedAt), n) := by
  by_cases room : n.depth < limits.maxDepth
  · have pushed : n.push limits frame = .ok ⟨frame :: n.frames, max n.deepest (n.depth + 1)⟩ :=
      if_neg (Nat.not_le_of_lt room)
    simp only [call, pushed, if_pos room]
    rfl
  · have refused : n.push limits frame = .error (.nestedTooDeep (n.depth + 1) frame.openedAt) :=
      if_pos (Nat.le_of_not_lt room)
    simp only [call, refused, if_neg room]

theorem lookup_openings (opener : Char) :
    openings.lookup opener =
      (FrameKind.ofOpener? opener).map fun kind => (closerOf opener, kind) := by
  by_cases known : opener ∈ openings.map Prod.fst
  · simp only [openings, List.map_cons, List.map_nil, List.mem_cons, List.not_mem_nil,
      or_false] at known
    rcases known with rfl | rfl | rfl | rfl | rfl | rfl <;> rfl
  · have unknown : FrameKind.ofOpener? opener = none := by
      simp only [openings, List.map_cons, List.map_nil, List.mem_cons, List.not_mem_nil, or_false,
        not_or] at known
      unfold FrameKind.ofOpener?
      split <;> simp_all
    rw [unknown, Option.map_none, List.lookup_eq_none_iff]
    intro entry member
    rw [bne_iff_ne]
    rintro rfl
    exact known (List.mem_map_of_mem member)

/-- To open with a delimiter is to push the frame that belongs to it. -/
theorem openWith_eq (limits : ScanLimits) (n : Nesting) (opener : Char) (p : Position) :
    n.call limits (.openWith opener p) =
      match openings.lookup opener with
      | some (closer, kind) => n.call limits (.push ⟨closer, kind, p⟩)
      | none => (.refused (.unexpected (.char opener) "opening delimiter" p), n) := by
  rw [lookup_openings]
  cases known : FrameKind.ofOpener? opener with
  | some kind => simp only [call, openWith, known, Option.map_some]
  | none => simp only [call, openWith, known, Option.map_none]

theorem closeGroup_eq_of_group {frame : Frame} {frames : List Frame}
    (frames_eq : n.frames = frame :: frames) (group : frame.IsGroup) (found : Char) (p : Position) :
    n.call limits (.closeGroup found p) =
      if frame.closer = found then (.closed frame, ⟨frames, n.deepest⟩)
      else (.refused (.mismatched frame.closer found p), n) := by
  have top : n.top? = some frame := by rw [top?, frames_eq]; rfl
  have grouped : frame.kind.isGroup = true := FrameKind.isGroup_iff.mpr group
  by_cases same : frame.closer = found
  · simp only [call, closeGroup, top, grouped, same, if_true, pop, frames_eq, List.tail_cons]
  · simp only [call, closeGroup, top, grouped, same, if_true, if_false]

theorem closeGroup_eq_of_other (other : ∀ frame, n.frames.head? = some frame → ¬frame.IsGroup)
    (found : Char) (p : Position) :
    n.call limits (.closeGroup found p) =
      (.refused (.conditionFailed ("open group for '" ++ found.toString ++ "'") p), n) := by
  cases top : n.top? with
  | none => simp only [call, closeGroup, top]
  | some frame =>
    have single : ¬frame.kind.isGroup = true := FrameKind.isGroup_iff.not.mpr (other frame top)
    simp only [call, closeGroup, top, if_neg single]

theorem group_or_other (n : Nesting) :
    (∃ frame frames, n.frames = frame :: frames ∧ frame.IsGroup) ∨
      ∀ frame, n.frames.head? = some frame → ¬frame.IsGroup := by
  rw [or_iff_not_imp_right]
  intro grouped
  push Not at grouped
  obtain ⟨frame, top, group⟩ := grouped
  obtain ⟨frames, frames_eq⟩ := List.head?_eq_some_iff.mp top
  exact ⟨frame, frames, frames_eq, group⟩

/-- A group closes just if it is innermost and the delimiter is its closer. -/
theorem closed_iff {frame : Frame} {found : Char} {p : Position} :
    n.call limits (.closeGroup found p) = (.closed frame, n') ↔
      n.frames = frame :: n'.frames ∧ n'.deepest = n.deepest ∧ frame.IsGroup ∧
        frame.closer = found := by
  rcases n.group_or_other with ⟨innermost, frames, frames_eq, group⟩ | other
  · rw [closeGroup_eq_of_group frames_eq group]
    constructor
    · intro closes
      split at closes
      next same =>
        cases closes
        exact ⟨frames_eq, rfl, group, same⟩
      next => cases closes
    · rintro ⟨frames_eq', deepest_eq, -, same⟩
      obtain ⟨frames', deepest'⟩ := n'
      cases frames_eq.symm.trans frames_eq'
      cases deepest_eq
      rw [if_pos same]
  · rw [closeGroup_eq_of_other other]
    refine iff_of_false (fun same => nomatch same) ?_
    rintro ⟨frames_eq, -, group, -⟩
    exact other frame (frames_eq ▸ rfl) group

/-- A group that has another closer refuses the delimiter for good, anything else softly. -/
theorem refused_closing_iff {e : ScanError} {found : Char} {p : Position} :
    n.call limits (.closeGroup found p) = (.refused e, n') ↔ n' = n ∧
      ((∃ frame, n.frames.head? = some frame ∧ frame.IsGroup ∧ frame.closer ≠ found ∧
          e = .mismatched frame.closer found p ∧ e.isSoft = false) ∨
        (∀ frame, n.frames.head? = some frame → ¬frame.IsGroup) ∧
          e = .conditionFailed ("open group for '" ++ found.toString ++ "'") p ∧ e.isSoft = true) := by
  rcases n.group_or_other with ⟨innermost, frames, frames_eq, group⟩ | other
  · have top : n.frames.head? = some innermost := frames_eq ▸ rfl
    rw [closeGroup_eq_of_group frames_eq group]
    constructor
    · intro refused
      split at refused
      next => cases refused
      next different =>
        cases refused
        exact ⟨rfl, .inl ⟨innermost, top, group, different, rfl, rfl⟩⟩
    · rintro ⟨rfl, ⟨frame, top', -, different, rfl, -⟩ | ⟨other, -⟩⟩
      · cases top.symm.trans top'
        rw [if_neg different]
      · exact absurd group (other innermost top)
  · rw [closeGroup_eq_of_other other]
    constructor
    · intro refused
      cases refused
      exact ⟨rfl, .inr ⟨other, rfl, rfl⟩⟩
    · rintro ⟨rfl, ⟨frame, top, group, -⟩ | ⟨-, rfl, -⟩⟩
      · exact absurd group (other frame top)
      · rfl

/-- Every call keeps the stack, opens a construct where there is room or closes the innermost one. -/
theorem moves_call (limits : ScanLimits) (n : Nesting) (c : Call) :
    Moves limits n (n.call limits c).2 := by
  have pushed (frame : Frame) : Moves limits n (n.call limits (.push frame)).2 := by
    rw [push_eq]
    split
    next room => exact .opens frame room
    next => exact .stays
  cases c with
  | openWith opener p =>
    rw [openWith_eq]
    split
    next closer kind _ => exact pushed ⟨closer, kind, p⟩
    next => exact .stays
  | push frame => exact pushed frame
  | pop =>
    cases frames_eq : n.frames with
    | nil =>
      have popped : n.pop = n := by
        obtain ⟨frames, deepest⟩ := n
        cases frames_eq
        rfl
      rw [call, popped]
      exact .stays
    | cons frame frames =>
      have popped : n.pop = ⟨frames, n.deepest⟩ := by rw [pop, frames_eq, List.tail_cons]
      rw [call, popped]
      exact .closes frame frames frames_eq
  | closeGroup found p =>
    rcases n.group_or_other with ⟨frame, frames, frames_eq, group⟩ | other
    · rw [closeGroup_eq_of_group frames_eq group]
      split
      next => exact .closes frame frames frames_eq
      next => exact .stays
    · rw [closeGroup_eq_of_other other]
      exact .stays

/-- A call that is refused leaves the stack as it was. -/
theorem eq_of_refused {c : Call} {e : ScanError} (refused : n.call limits c = (.refused e, n')) :
    n' = n := by
  cases c with
  | openWith opener p =>
    simp only [call] at refused
    split at refused <;> cases refused
    rfl
  | push frame =>
    simp only [call] at refused
    split at refused <;> cases refused
    rfl
  | pop => cases refused
  | closeGroup found p => exact (refused_closing_iff.mp refused).1

namespace Moves

theorem depth_le (moves : Moves limits n n') (within : n.depth ≤ limits.maxDepth) :
    n'.depth ≤ limits.maxDepth := by
  cases moves with
  | stays => exact within
  | opens frame room => exact room
  | closes frame frames frames_eq =>
    rw [depth, frames_eq] at within
    exact Nat.le_of_succ_le within

/-- Only opening a construct can make the stack deeper than it has ever been. -/
theorem deepest_eq (moves : Moves limits n n') (bounded : n.depth ≤ n.deepest) :
    n'.deepest = max n'.depth n.deepest := by
  cases moves with
  | stays => exact (Nat.max_eq_right bounded).symm
  | opens frame room => exact Nat.max_comm n.deepest (n.depth + 1)
  | closes frame frames frames_eq =>
    rw [depth, frames_eq] at bounded
    exact (Nat.max_eq_right (Nat.le_of_succ_le bounded)).symm

/-- What is below the innermost construct stays. -/
theorem tail_suffix (moves : Moves limits n n') : n.frames.tail <:+ n'.frames := by
  cases moves with
  | stays => exact List.tail_suffix n.frames
  | opens frame room => exact (List.tail_suffix n.frames).trans (List.suffix_cons frame n.frames)
  | closes frame frames frames_eq =>
    rw [frames_eq]
    exact List.suffix_rfl

/-- The outermost constructs stay if the stack remains deep enough for them. -/
theorem rtake_eq (moves : Moves limits n n') {k : Nat} (deep : k ≤ n.depth) (deep' : k ≤ n'.depth) :
    n'.frames.rtake k = n.frames.rtake k := by
  cases moves with
  | stays => rfl
  | opens frame room =>
    change k ≤ n.frames.length at deep
    rw [List.rtake, List.rtake, List.length_cons, Nat.succ_sub deep, List.drop_succ_cons]
  | closes frame frames frames_eq =>
    change k ≤ frames.length at deep'
    rw [frames_eq, List.rtake, List.rtake, List.length_cons, Nat.succ_sub deep', List.drop_succ_cons]

end Moves

/-! ### Series of calls -/

theorem after_concat (limits : ScanLimits) (n : Nesting) (calls : List Call) (c : Call) :
    n.after limits (calls ++ [c]) = ((n.after limits calls).call limits c).2 :=
  List.foldl_append

theorem depth_after_le (limits : ScanLimits) (calls : List Call) :
    (after limits {} calls).depth ≤ limits.maxDepth := by
  induction calls using List.reverseRecOn with
  | nil => exact Nat.zero_le _
  | append_singleton calls c ih =>
    rw [after_concat]
    exact (moves_call limits _ c).depth_le ih

theorem depths_concat (limits : ScanLimits) (n : Nesting) (calls : List Call) (c : Call) :
    n.depths limits (calls ++ [c]) =
      insert (n.after limits (calls ++ [c])).depth (n.depths limits calls) := by
  ext depth
  simp only [depths, Set.mem_ofPred_eq, Set.mem_insert_iff, List.prefix_concat_iff, or_and_right,
    exists_or, exists_eq_left]
  rw [eq_comm]

/-- The stack remembers the greatest of its depths. -/
theorem isGreatest_deepest (limits : ScanLimits) (calls : List Call) :
    IsGreatest (depths limits {} calls) (after limits {} calls).deepest := by
  induction calls using List.reverseRecOn with
  | nil =>
    refine ⟨⟨[], List.prefix_rfl, rfl⟩, ?_⟩
    rintro depth ⟨before, front, rfl⟩
    rw [List.prefix_nil.mp front]
    exact Nat.le_refl 0
  | append_singleton calls c ih =>
    have bounded : (after limits {} calls).depth ≤ (after limits {} calls).deepest :=
      ih.2 ⟨calls, List.prefix_rfl, rfl⟩
    have deepest_eq := (moves_call limits _ c).deepest_eq bounded
    rw [← after_concat] at deepest_eq
    rw [depths_concat, deepest_eq]
    exact ih.insert _

theorem rtake_after (limits : ScanLimits) (n : Nesting) (calls : List Call) {k : Nat}
    (deep : ∀ before, before <+: calls → k ≤ (n.after limits before).depth) :
    (n.after limits calls).frames.rtake k = n.frames.rtake k := by
  induction calls using List.reverseRecOn with
  | nil => rfl
  | append_singleton calls c ih =>
    have deep' := deep _ List.prefix_rfl
    rw [after_concat] at deep' ⊢
    rw [(moves_call limits _ c).rtake_eq (deep calls (List.prefix_append _ _)) deep']
    exact ih fun before front => deep before (front.trans (List.prefix_append _ _))

/-! ### The stack -/

/-- **A bounded stack with a high-water mark.** After any calls to a new stack it is within its limit,
and the depth it remembers is the greatest it has had. A frame is pushed just if there is room. Opening
with a delimiter pushes the frame with its closer and kind, if it is one that opens a construct.
Closing a group drops it just if it is innermost and the delimiter is its closer; another group refuses
the delimiter for good, and where no group is innermost the refusal is soft. What is refused changes
nothing. A call changes nothing below the innermost construct, and constructs that lie below it are
the same ones until the stack has been down to them. -/
theorem behaves_as_stack (limits : ScanLimits) (calls : List Call) :
    let n := after limits {} calls
    n.depth ≤ limits.maxDepth ∧
    IsGreatest (depths limits {} calls) n.deepest ∧
    (∀ frame, n.call limits (.push frame) =
      if n.depth < limits.maxDepth then
        (.opened (some frame), ⟨frame :: n.frames, max n.deepest (n.depth + 1)⟩)
      else (.refused (.nestedTooDeep (n.depth + 1) frame.openedAt), n)) ∧
    (∀ opener p, n.call limits (.openWith opener p) =
      match openings.lookup opener with
      | some (closer, kind) => n.call limits (.push ⟨closer, kind, p⟩)
      | none => (.refused (.unexpected (.char opener) "opening delimiter" p), n)) ∧
    n.call limits .pop = (.popped n.frames.head?, ⟨n.frames.tail, n.deepest⟩) ∧
    (∀ found p,
      (∀ frame n', n.call limits (.closeGroup found p) = (.closed frame, n') ↔
        n.frames = frame :: n'.frames ∧ n'.deepest = n.deepest ∧ frame.IsGroup ∧
          frame.closer = found) ∧
      ∀ e n', n.call limits (.closeGroup found p) = (.refused e, n') ↔ n' = n ∧
        ((∃ frame, n.frames.head? = some frame ∧ frame.IsGroup ∧ frame.closer ≠ found ∧
            e = .mismatched frame.closer found p ∧ e.isSoft = false) ∨
          (∀ frame, n.frames.head? = some frame → ¬frame.IsGroup) ∧
            e = .conditionFailed ("open group for '" ++ found.toString ++ "'") p ∧
            e.isSoft = true)) ∧
    (∀ c e n', n.call limits c = (.refused e, n') → n' = n) ∧
    (∀ c, n.frames.tail <:+ (n.call limits c).2.frames) ∧
    ∀ later k, (∀ before, before <+: later → k ≤ (n.after limits before).depth) →
      (n.after limits later).frames.rtake k = n.frames.rtake k := by
  intro n
  refine ⟨depth_after_le limits calls, isGreatest_deepest limits calls, push_eq limits n,
    openWith_eq limits n, rfl, ?_, ?_, ?_, ?_⟩
  · exact fun found p => ⟨fun frame n' => closed_iff, fun e n' => refused_closing_iff⟩
  · exact fun c e n' => eq_of_refused
  · exact fun c => (moves_call limits n c).tail_suffix
  · exact fun later k => rtake_after limits n later

/-- Room for two: behind a parenthesis a group is pushed that waits for a closer no group has. Nothing
more can be opened then, the parenthesis cannot be closed before that group, and it is still the
outermost construct when that group has been closed and a quote opened in its place. -/
theorem behaves_as_stack_of_strange :
    let limits : ScanLimits := { ScanLimits.development with maxDepth := 2 }
    let p : Position := .start
    let calls : List Call := [.openWith '(' p, .push ⟨'x', .paren, p⟩]
    let later : List Call := [.closeGroup 'x' p, .openWith '"' p]
    let n := after limits {} calls
    n.depth = limits.maxDepth ∧
      n.call limits (.openWith '[' p) = (.refused (.nestedTooDeep 3 p), n) ∧
      n.call limits (.closeGroup ')' p) = (.refused (.mismatched 'x' ')' p), n) ∧
      (∀ before, before <+: later → 1 ≤ (n.after limits before).depth) ∧
      (n.after limits later).frames.rtake 1 = [⟨')', .paren, p⟩] ∧
      IsGreatest (depths limits {} (calls ++ later ++ [.pop, .pop])) 2 := by
  intro limits p calls later n
  have outermost : ∀ before, before <+: later → 1 ≤ (n.after limits before).depth := by
    intro before front
    rw [← List.mem_inits] at front
    revert before
    decide
  obtain ⟨-, -, pushes, opens, -, closes, -, -, keeps⟩ := behaves_as_stack limits calls
  obtain ⟨-, refuses⟩ := closes ')' p
  obtain ⟨-, greatest, -⟩ := behaves_as_stack limits (calls ++ later ++ [.pop, .pop])
  refine ⟨rfl, (opens '[' p).trans (pushes _), ?_, outermost, keeps later 1 outermost, greatest⟩
  exact (refuses _ n).mpr ⟨rfl, .inl ⟨⟨'x', .paren, p⟩, rfl, .inl rfl, by decide, rfl, rfl⟩⟩

end Nesting

end GrammarLex
