import GrammarLex.Text.Pending
import GrammarLex.Scan.ScanError

/-!
# Taking characters in

An intake joins a character source with the position of the next character and the lexeme that is
being collected. A character is either collected (the lexeme grows, and is bounded) or skipped (only
the position moves). Loops over characters end because every character takes at least one
delivery off the source: `Intake.pending` counts what is left.
-/
namespace GrammarLex

/-- Characters on their way into tokens. -/
structure Intake where
  source : CharSource
  position : Position := .start
  -- Characters collected since the last clearing.
  lexeme : String := ""
  -- Characters counted against the lexeme limit since the last clearing.
  counted : Nat := 0
  -- Where the token being collected starts.
  tokenStart : Position := .start
  -- A position or a count outside the machine words has been computed.
  overflowed : Bool := false
  deriving Repr

namespace Intake

/-- An action on an intake that may fail; what it changed stays changed. -/
abbrev Action (α : Type) := EStateM ScanError Intake α

def ofSource (source : CharSource) : Intake := { source := source }

def pending (r : Intake) : Nat := r.source.pending

/-- Report a decoding error at the position of the next character. -/
def decodeError (e : DecodeError) (p : Position) : ScanError := .decode e.message p

def moveOver (c : Char) (r : Intake) : Intake :=
  let next := r.position.advance c
  { r with position := next, overflowed := r.overflowed || !decide next.Fits }

def peek : Action (Option Char) := fun r =>
  match r with
  | ⟨source, position, lexeme, counted, tokenStart, overflowed⟩ =>
    match source.peek with
    | .ok next source => .ok next ⟨source, position, lexeme, counted, tokenStart, overflowed⟩
    | .error e source =>
      .error (decodeError e position) ⟨source, position, lexeme, counted, tokenStart, overflowed⟩

def peekIs (expected : Char) : Action Bool := do
  return (← peek) == some expected

/-- Count a consumed character against the lexeme limit. -/
def count (r : Intake) : Intake :=
  let counted := r.counted + 1
  { r with counted := counted, overflowed := r.overflowed || decide (counted > maxWord64) }

@[simp] theorem count_counted (r : Intake) : r.count.counted = r.counted + 1 := rfl

@[simp] theorem count_lexeme (r : Intake) : r.count.lexeme = r.lexeme := rfl

@[simp] theorem count_tokenStart (r : Intake) : r.count.tokenStart = r.tokenStart := rfl

/-- Count a consumed character and collect it, if the lexeme may grow. -/
def collect (limits : ScanLimits) (c : Char) : Action Unit := fun r =>
  let r := r.count
  if r.counted > limits.maxLexeme then .error (.lexemeTooLong r.counted r.tokenStart) r
  else .ok () (moveOver c { r with lexeme := r.lexeme.push c })

/-- Take the next character off the source without collecting it. -/
def take : Action (Option Char) := fun r =>
  match r with
  | ⟨source, position, lexeme, counted, tokenStart, overflowed⟩ =>
    match source.next with
    | .ok next source => .ok next ⟨source, position, lexeme, counted, tokenStart, overflowed⟩
    | .error e source =>
      .error (decodeError e position) ⟨source, position, lexeme, counted, tokenStart, overflowed⟩

/-- Consume and collect one character; `none` at the end of the input. -/
def bump (limits : ScanLimits) : Action (Option Char) := do
  match ← take with
  | none => return none
  | some c =>
    collect limits c
    return some c

/-- Forget the character that was looked at: it counts as consumed. -/
def dropLookahead (r : Intake) : Intake :=
  { r with source := { r.source with lookahead := none } }

def cleared (r : Intake) : Intake :=
  { r with lexeme := "", counted := 0, tokenStart := r.position }

/-- Forget the collected characters; the next token starts here. -/
def clear : Action Unit := modify cleared

/-- Hand over the collected characters; the next token starts here. -/
def takeLexeme : Action String :=
  modifyGet fun r => (r.lexeme, r.cleared)

def markStart (p : Position) : Action Unit := modify fun r => { r with tokenStart := p }

/-! ### Runs of characters -/

theorem peek_nonGrowing : NonGrowing pending peek := by
  intro r
  have bound := CharSource.peek_nonGrowing r.source
  simp only [peek]
  cases result : r.source.peek <;> rw [result] at bound <;> exact bound

theorem take_nonGrowing : NonGrowing pending take := by
  intro r
  have bound := CharSource.next_nonGrowing r.source
  simp only [take]
  cases result : r.source.next <;> rw [result] at bound <;> exact bound

theorem collect_nonGrowing (limits : ScanLimits) (c : Char) :
    NonGrowing pending (collect limits c) := by
  intro r
  simp only [collect]
  split <;> exact Nat.le_refl _

theorem bump_nonGrowing (limits : ScanLimits) : NonGrowing pending (bump limits) := by
  refine .bind take_nonGrowing fun next => ?_
  cases next with
  | none => exact .pure _
  | some c => exact .bind (collect_nonGrowing limits c) fun _ => .pure _

theorem peek_lookahead {r r' : Intake} {next : Option Char} (seen : peek r = .ok next r') :
    r'.source.lookahead = some next := by
  simp only [peek] at seen
  cases result : r.source.peek with
  | error e source => simp [result] at seen
  | ok next' source =>
    simp only [result, EStateM.Result.ok.injEq] at seen
    rw [← seen.2, ← seen.1]
    exact (CharSource.peek_lookahead result).1

theorem take_pending_lt {r r' : Intake} {c : Char} (taken : take r = .ok (some c) r') :
    r'.pending < r.pending := by
  simp only [take] at taken
  cases result : r.source.next with
  | error e source => simp [result] at taken
  | ok next source =>
    simp only [result, EStateM.Result.ok.injEq] at taken
    rw [← taken.2]
    exact CharSource.next_pending_lt (by rw [result, taken.1])

theorem bump_pending_lt {limits : ScanLimits} {r r' : Intake} {c : Char}
    (bumped : bump limits r = .ok (some c) r') : r'.pending < r.pending := by
  obtain ⟨next, r₁, taken, rest⟩ := bind_eq_ok.mp bumped
  cases next with
  | none => simp at rest
  | some c' =>
    obtain ⟨_, r₂, collected, rest⟩ := bind_eq_ok.mp rest
    have bound := (collect_nonGrowing limits c').of_ok collected
    simp only [pure_apply, EStateM.Result.ok.injEq] at rest
    rw [← rest.2]
    exact Nat.lt_of_le_of_lt bound (take_pending_lt taken)

/-- Dropping a character that was looked at leaves less to come than before the look. -/
theorem dropLookahead_pending_lt {r r' : Intake} {c : Char} (seen : peek r = .ok (some c) r') :
    r'.dropLookahead.pending < r.pending := by
  have bound := peek_nonGrowing.of_ok seen
  have kept := peek_lookahead seen
  simp only [pending, CharSource.pending, kept, Option.any_some, Option.isSome_some] at bound
  simp only [dropLookahead, pending, CharSource.pending, Option.any_none]
  exact Nat.lt_of_lt_of_le (Nat.lt_succ_self _) bound

/-- Collect characters while they satisfy a predicate; `count` of them have been collected before.
The result is the new count. -/
def bumpWhileFrom (limits : ScanLimits) (keep : Char → Bool) (count : Nat) (r : Intake) :
    EStateM.Result ScanError Intake Nat :=
  match _seen : peek r with
  | .error e r => .error e r
  | .ok none r => .ok count r
  | .ok (some c) ahead =>
    if keep c then
      match collected : collect limits c ahead.dropLookahead with
      | .error e r => .error e r
      | .ok _ next => bumpWhileFrom limits keep (count + 1) next
    else .ok count ahead
termination_by r.pending
decreasing_by
  exact Nat.lt_of_le_of_lt ((collect_nonGrowing limits c).of_ok collected)
    (dropLookahead_pending_lt _seen)

/-- Collect characters while they satisfy a predicate, and count them. -/
def bumpWhile (limits : ScanLimits) (keep : Char → Bool) : Action Nat :=
  bumpWhileFrom limits keep 0

/-- Collect characters up to, not including, a delimiter or the end of the input. -/
def bumpUntil (limits : ScanLimits) (closer : Char) : Action Nat :=
  bumpWhile limits fun c => c != closer

/-- Pass over characters while they satisfy a predicate; `count` of them have been passed before.
The lexeme does not change. -/
def skipWhileFrom (keep : Char → Bool) (count : Nat) (r : Intake) :
    EStateM.Result ScanError Intake Nat :=
  match seen : peek r with
  | .error e r => .error e r
  | .ok none r => .ok count r
  | .ok (some c) ahead =>
    if keep c then skipWhileFrom keep (count + 1) (ahead.dropLookahead.moveOver c)
    else .ok count ahead
termination_by r.pending
decreasing_by exact dropLookahead_pending_lt seen

/-- Pass over characters while they satisfy a predicate, and count them. -/
def skipWhile (keep : Char → Bool) : Action Nat := skipWhileFrom keep 0

end Intake

end GrammarLex
