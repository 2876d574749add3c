import GrammarLex.Proofs.Text.Contents
import GrammarLex.Proofs.Text.Leads
import GrammarLex.Scan.Intake

/-!
# Taking characters off the contents

What an intake does depends on its source only through what the source holds. `Intake.Stands` says
where an intake stands: what is left of the contents, at which position, and which characters have
been collected since which start. Each operation has one rule that says where it leads from there.
A run of characters is the longest prefix of the contents that satisfies the predicate.
-/
namespace GrammarLex

namespace Intake

/-- The intake stands at a position in front of the given contents, and has collected the given
characters for a token with the given start. -/
structure Stands (r : Intake) (left : Contents) (p : Position) (lexeme : List Char)
    (start : Position) : Prop where
  contents_eq : r.source.contents = left
  position_eq : r.position = p
  lexeme_eq : r.lexeme = String.ofList lexeme
  counted_eq : r.counted = lexeme.length
  start_eq : r.tokenStart = start

theorem stands_ofSource (source : CharSource) :
    (ofSource source).Stands source.contents .start [] .start :=
  ⟨rfl, rfl, rfl, rfl, rfl⟩

variable {limits : ScanLimits} {r : Intake} {left : Contents} {fault : Option DecodeError} {c : Char}
  {chars lexeme : List Char} {p start : Position}

namespace Stands

theorem peek_cons (stands : r.Stands ⟨c :: chars, fault⟩ p lexeme start) :
    ∃ r', peek r = .ok (some c) r' ∧ r'.Stands ⟨c :: chars, fault⟩ p lexeme start ∧
      r'.dropLookahead.Stands ⟨chars, fault⟩ p lexeme start := by
  obtain ⟨contents, position, text, counted, begun⟩ := stands
  obtain ⟨source, looked, kept, dropped⟩ := CharSource.peek_of_cons contents
  refine ⟨{ r with source := source }, ?_, ⟨kept, position, text, counted, begun⟩,
    ⟨dropped, position, text, counted, begun⟩⟩
  simp only [peek, looked]

theorem peek_end (stands : r.Stands ⟨[], none⟩ p lexeme start) :
    ∃ r', peek r = .ok none r' ∧ r'.Stands ⟨[], none⟩ p lexeme start := by
  obtain ⟨contents, position, text, counted, begun⟩ := stands
  obtain ⟨source, looked, kept⟩ := CharSource.peek_of_end contents
  refine ⟨{ r with source := source }, ?_, ⟨kept, position, text, counted, begun⟩⟩
  simp only [peek, looked]

theorem peek_fault {e : DecodeError} (stands : r.Stands ⟨[], some e⟩ p lexeme start) :
    ∃ r', peek r = .error (decodeError e p) r' := by
  obtain ⟨source, looked⟩ := CharSource.peek_of_fault stands.contents_eq
  refine ⟨{ r with source := source }, ?_⟩
  simp only [peek, looked, stands.position_eq]

theorem moveOver (stands : r.Stands left p lexeme start) (c : Char) :
    (r.moveOver c).Stands left (p.advance c) lexeme start := by
  obtain ⟨contents, position, text, counted, begun⟩ := stands
  exact ⟨contents, congrArg (·.advance c) position, text, counted, begun⟩

theorem collect (stands : r.Stands left p lexeme start) (room : lexeme.length < limits.maxLexeme)
    (c : Char) : ∃ r', Intake.collect limits c r = .ok () r' ∧
      r'.Stands left (p.advance c) (lexeme ++ [c]) start := by
  obtain ⟨contents, rfl, text, counted, begun⟩ := stands
  have fits : ¬r.count.counted > limits.maxLexeme := by
    rw [count_counted]
    omega
  refine ⟨_, if_neg fits, contents, rfl, ?_, ?_, begun⟩
  · simp [Intake.moveOver, text]
  · simp [Intake.moveOver, counted]

theorem collect_full (stands : r.Stands left p lexeme start)
    (full : limits.maxLexeme ≤ lexeme.length) (c : Char) :
    ∃ r', Intake.collect limits c r = .error (.lexemeTooLong (lexeme.length + 1) start) r' := by
  have tooMany : r.count.counted > limits.maxLexeme := by
    rw [count_counted, stands.counted_eq]
    omega
  refine ⟨r.count, (if_pos tooMany).trans ?_⟩
  rw [count_counted, count_tokenStart, stands.counted_eq, stands.start_eq]

theorem cleared (stands : r.Stands left p lexeme start) : r.cleared.Stands left p [] p := by
  obtain ⟨contents, rfl, _, _, _⟩ := stands
  exact ⟨contents, rfl, rfl, rfl, rfl⟩

end Stands

/-! ### Single characters -/

variable {failed : ScanError → Prop}

theorem leads_peek {done : Option Char → Intake → Prop} (stands : r.Stands left p lexeme start)
    (looked : ∀ r', (left.chars = [] → left.fault = none) → r'.Stands left p lexeme start →
      done left.chars.head? r')
    (broken : ∀ e, left.chars = [] → left.fault = some e → failed (decodeError e p)) :
    Leads peek r done failed := by
  rcases left with ⟨_ | ⟨c, chars⟩, _ | e⟩
  · obtain ⟨r', result, stands'⟩ := stands.peek_end
    exact .of_ok result (looked r' (fun _ => rfl) stands')
  · obtain ⟨r', result⟩ := stands.peek_fault
    exact .of_error result (broken e rfl rfl)
  · obtain ⟨r', result, stands', _⟩ := stands.peek_cons
    exact .of_ok result (looked r' (fun none => nomatch none) stands')
  · obtain ⟨r', result, stands', _⟩ := stands.peek_cons
    exact .of_ok result (looked r' (fun none => nomatch none) stands')

theorem leads_peek_cons {done : Option Char → Intake → Prop}
    (stands : r.Stands ⟨c :: chars, fault⟩ p lexeme start)
    (looked : ∀ r', r'.Stands ⟨c :: chars, fault⟩ p lexeme start → done (some c) r') :
    Leads peek r done failed := by
  apply leads_peek stands
  · exact fun r' _ stands' => looked r' stands'
  · exact fun e empty => nomatch empty

theorem leads_peekIs {done : Bool → Intake → Prop} (stands : r.Stands left p lexeme start)
    (looked : ∀ r', (left.chars = [] → left.fault = none) → r'.Stands left p lexeme start →
      done (left.chars.head? == some c) r')
    (broken : ∀ e, left.chars = [] → left.fault = some e → failed (decodeError e p)) :
    Leads (peekIs c) r done failed :=
  leads_bind.mpr (leads_peek stands looked broken)

theorem leads_bump {done : Option Char → Intake → Prop}
    (stands : r.Stands ⟨c :: chars, fault⟩ p lexeme start) (room : lexeme.length ≤ limits.maxLexeme)
    (collected : ∀ r', (lexeme ++ [c]).length ≤ limits.maxLexeme →
      r'.Stands ⟨chars, fault⟩ (p.advance c) (lexeme ++ [c]) start → done (some c) r')
    (full : limits.maxLexeme = lexeme.length →
      failed (.lexemeTooLong (limits.maxLexeme + 1) start)) :
    Leads (bump limits) r done failed := by
  obtain ⟨source, taken, contents⟩ := CharSource.next_of_cons stands.contents_eq
  have stands' : ({ r with source := source } : Intake).Stands ⟨chars, fault⟩ p lexeme start :=
    ⟨contents, stands.position_eq, stands.lexeme_eq, stands.counted_eq, stands.start_eq⟩
  have took : take r = .ok (some c) { r with source := source } := by
    simp only [take, taken]
  refine leads_bind.mpr (.of_ok took (leads_bind.mpr ?_))
  -- The character is consumed either way; the limit decides whether it is collected.
  by_cases more : lexeme.length < limits.maxLexeme
  · obtain ⟨r', result, stood⟩ := stands'.collect more c
    refine .of_ok result (collected r' ?_ stood)
    rw [List.length_append]
    exact more
  · have same : limits.maxLexeme = lexeme.length := Nat.le_antisymm (Nat.le_of_not_lt more) room
    obtain ⟨r', result⟩ := stands'.collect_full (Nat.le_of_eq same) c
    exact .of_error result (same ▸ full same)

theorem leads_clear {done : Unit → Intake → Prop} (stands : r.Stands left p lexeme start)
    (cleared : ∀ r', r'.Stands left p [] p → done () r') : Leads clear r done failed :=
  cleared _ stands.cleared

theorem leads_takeLexeme {done : String → Intake → Prop} (stands : r.Stands left p lexeme start)
    (handed : ∀ r', r'.Stands left p [] p → done (String.ofList lexeme) r') :
    Leads takeLexeme r done failed :=
  .of_ok rfl (stands.lexeme_eq ▸ handed _ stands.cleared)

theorem leads_markStart {done : Unit → Intake → Prop} (stands : r.Stands left p lexeme start)
    {q : Position} (marked : ∀ r', r'.Stands left p lexeme q → done () r') :
    Leads (markStart q) r done failed :=
  marked _ ⟨stands.contents_eq, stands.position_eq, stands.lexeme_eq, stands.counted_eq, rfl⟩

/-! ### Runs of characters -/

theorem bumpWhileFrom_of_ok {keep : Char → Bool} {count : Nat} {next : Option Char}
    {ahead : Intake} (looked : peek r = .ok next ahead) (stops : next.all (!keep ·) = true) :
    bumpWhileFrom limits keep count r = .ok count ahead := by
  rw [bumpWhileFrom]
  split
  next same => rw [looked] at same; cases same
  next same => rw [looked] at same; cases same; rfl
  next same =>
    rw [looked] at same
    cases same
    rw [if_neg (by simpa using stops)]

theorem bumpWhileFrom_of_error {keep : Char → Bool} {count : Nat} {e : ScanError}
    {ahead : Intake} (looked : peek r = .error e ahead) :
    bumpWhileFrom limits keep count r = .error e ahead := by
  rw [bumpWhileFrom]
  split
  next same => rw [looked] at same; cases same; rfl
  next same => rw [looked] at same; cases same
  next same => rw [looked] at same; cases same

theorem bumpWhileFrom_of_keep {keep : Char → Bool} {count : Nat} {ahead next : Intake}
    (looked : peek r = .ok (some c) ahead) (keeps : keep c = true)
    (taken : collect limits c ahead.dropLookahead = .ok () next) :
    bumpWhileFrom limits keep count r = bumpWhileFrom limits keep (count + 1) next := by
  rw [bumpWhileFrom]
  split
  next same => rw [looked] at same; cases same
  next same => rw [looked] at same; cases same
  next same =>
    rw [looked] at same
    cases same
    rw [if_pos keeps]
    split
    next refused => rw [taken] at refused; cases refused
    next again => rw [taken] at again; cases again; rfl

theorem bumpWhileFrom_of_full {keep : Char → Bool} {count : Nat} {e : ScanError}
    {ahead last : Intake} (looked : peek r = .ok (some c) ahead) (keeps : keep c = true)
    (refused : collect limits c ahead.dropLookahead = .error e last) :
    bumpWhileFrom limits keep count r = .error e last := by
  rw [bumpWhileFrom]
  split
  next same => rw [looked] at same; cases same
  next same => rw [looked] at same; cases same
  next same =>
    rw [looked] at same
    cases same
    rw [if_pos keeps]
    split
    next again => rw [refused] at again; cases again; rfl
    next taken => rw [refused] at taken; cases taken

private theorem leads_bumpWhileFrom {keep : Char → Bool} {done : Nat → Intake → Prop} (count : Nat)
    (stands : r.Stands ⟨chars, fault⟩ p lexeme start) (room : lexeme.length ≤ limits.maxLexeme)
    (collected : ∀ count r', (lexeme ++ chars.takeWhile keep).length ≤ limits.maxLexeme →
      (chars.dropWhile keep = [] → fault = none) →
      r'.Stands ⟨chars.dropWhile keep, fault⟩ (p.advanceBy (chars.takeWhile keep))
        (lexeme ++ chars.takeWhile keep) start → done count r')
    (full : limits.maxLexeme < (lexeme ++ chars.takeWhile keep).length →
      failed (.lexemeTooLong (limits.maxLexeme + 1) start))
    (broken : ∀ e, (lexeme ++ chars.takeWhile keep).length ≤ limits.maxLexeme →
      chars.dropWhile keep = [] → fault = some e →
      failed (decodeError e (p.advanceBy (chars.takeWhile keep)))) :
    Leads (bumpWhileFrom limits keep count) r done failed := by
  -- What has been collected always fits, so the limit is met at the first character too many.
  induction chars generalizing r p lexeme count with
  | nil =>
    rw [List.takeWhile_nil, List.dropWhile_nil, List.append_nil] at *
    cases fault with
    | none =>
      obtain ⟨r', looked, stands'⟩ := stands.peek_end
      exact .of_ok (bumpWhileFrom_of_ok looked rfl) (collected count r' room (fun _ => rfl) stands')
    | some e =>
      obtain ⟨r', looked⟩ := stands.peek_fault
      exact .of_error (bumpWhileFrom_of_error looked) (broken e room rfl rfl)
  | cons c chars ih =>
    obtain ⟨ahead, looked, stands', dropped⟩ := stands.peek_cons
    by_cases keeps : keep c
    · rw [List.takeWhile_cons_of_pos keeps, List.dropWhile_cons_of_pos keeps,
        Position.advanceBy_cons] at *
      by_cases more : lexeme.length < limits.maxLexeme
      · obtain ⟨next, taken, stood⟩ := dropped.collect more c
        have whole : lexeme ++ [c] ++ chars.takeWhile keep = lexeme ++ c :: chars.takeWhile keep :=
          List.append_cons ..|>.symm
        have room' : (lexeme ++ [c]).length ≤ limits.maxLexeme := by
          rw [List.length_append]
          exact more
        refine .of_eq (bumpWhileFrom_of_keep looked keeps taken)
          (ih (count + 1) stood room' ?_ ?_ ?_)
        · rw [whole]
          exact collected
        · rw [whole]
          exact full
        · rw [whole]
          exact broken
      · obtain ⟨r', refused⟩ := dropped.collect_full (Nat.le_of_not_lt more) c
        have same : lexeme.length = limits.maxLexeme := Nat.le_antisymm room (Nat.le_of_not_lt more)
        refine .of_error (bumpWhileFrom_of_full looked keeps refused) (same ▸ full ?_)
        simp only [List.length_append, List.length_cons]
        omega
    · rw [List.takeWhile_cons_of_neg keeps, List.dropWhile_cons_of_neg keeps, List.append_nil] at *
      refine .of_ok (bumpWhileFrom_of_ok looked ?_) (collected count ahead room ?_ stands')
      · simpa using keeps
      · exact fun none => nomatch none

theorem leads_bumpWhile {keep : Char → Bool} {done : Nat → Intake → Prop}
    (stands : r.Stands ⟨chars, fault⟩ p [] start)
    (collected : ∀ count r', (chars.takeWhile keep).length ≤ limits.maxLexeme →
      (chars.dropWhile keep = [] → fault = none) →
      r'.Stands ⟨chars.dropWhile keep, fault⟩ (p.advanceBy (chars.takeWhile keep))
        (chars.takeWhile keep) start → done count r')
    (full : limits.maxLexeme < (chars.takeWhile keep).length →
      failed (.lexemeTooLong (limits.maxLexeme + 1) start))
    (broken : ∀ e, (chars.takeWhile keep).length ≤ limits.maxLexeme →
      chars.dropWhile keep = [] → fault = some e →
      failed (decodeError e (p.advanceBy (chars.takeWhile keep)))) :
    Leads (bumpWhile limits keep) r done failed :=
  leads_bumpWhileFrom 0 stands (Nat.zero_le _) collected full broken

theorem skipWhileFrom_of_ok {keep : Char → Bool} {count : Nat} {next : Option Char}
    {ahead : Intake} (looked : peek r = .ok next ahead) (stops : next.all (!keep ·) = true) :
    skipWhileFrom keep count r = .ok count ahead := by
  rw [skipWhileFrom]
  split
  next same => rw [looked] at same; cases same
  next same => rw [looked] at same; cases same; rfl
  next same =>
    rw [looked] at same
    cases same
    rw [if_neg (by simpa using stops)]

theorem skipWhileFrom_of_error {keep : Char → Bool} {count : Nat} {e : ScanError}
    {ahead : Intake} (looked : peek r = .error e ahead) :
    skipWhileFrom keep count r = .error e ahead := by
  rw [skipWhileFrom]
  split
  next same => rw [looked] at same; cases same; rfl
  next same => rw [looked] at same; cases same
  next same => rw [looked] at same; cases same

theorem skipWhileFrom_of_keep {keep : Char → Bool} {count : Nat} {ahead : Intake}
    (looked : peek r = .ok (some c) ahead) (keeps : keep c = true) :
    skipWhileFrom keep count r =
      skipWhileFrom keep (count + 1) (ahead.dropLookahead.moveOver c) := by
  rw [skipWhileFrom]
  split
  next same => rw [looked] at same; cases same
  next same => rw [looked] at same; cases same
  next same =>
    rw [looked] at same
    cases same
    rw [if_pos keeps]

private theorem leads_skipWhileFrom {keep : Char → Bool} {done : Nat → Intake → Prop} (count : Nat)
    (stands : r.Stands ⟨chars, fault⟩ p lexeme start)
    (skipped : ∀ count r', (chars.dropWhile keep = [] → fault = none) →
      r'.Stands ⟨chars.dropWhile keep, fault⟩ (p.advanceBy (chars.takeWhile keep)) lexeme start →
      done count r')
    (broken : ∀ e, chars.dropWhile keep = [] → fault = some e →
      failed (decodeError e (p.advanceBy (chars.takeWhile keep)))) :
    Leads (skipWhileFrom keep count) r done failed := by
  -- Nothing is collected, so there is no limit to be met.
  induction chars generalizing r p count with
  | nil =>
    cases fault with
    | none =>
      obtain ⟨r', looked, stands'⟩ := stands.peek_end
      exact .of_ok (skipWhileFrom_of_ok looked rfl) (skipped count r' (fun _ => rfl) stands')
    | some e =>
      obtain ⟨r', looked⟩ := stands.peek_fault
      exact .of_error (skipWhileFrom_of_error looked) (broken e rfl rfl)
  | cons c chars ih =>
    obtain ⟨ahead, looked, stands', dropped⟩ := stands.peek_cons
    by_cases keeps : keep c
    · rw [List.takeWhile_cons_of_pos keeps, List.dropWhile_cons_of_pos keeps,
        Position.advanceBy_cons] at *
      exact .of_eq (skipWhileFrom_of_keep looked keeps)
        (ih (count + 1) (dropped.moveOver c) skipped broken)
    · rw [List.takeWhile_cons_of_neg keeps, List.dropWhile_cons_of_neg keeps] at *
      refine .of_ok (skipWhileFrom_of_ok looked ?_) (skipped count ahead ?_ stands')
      · simpa using keeps
      · exact fun none => nomatch none

theorem leads_skipWhile {keep : Char → Bool} {done : Nat → Intake → Prop}
    (stands : r.Stands ⟨chars, fault⟩ p lexeme start)
    (skipped : ∀ count r', (chars.dropWhile keep = [] → fault = none) →
      r'.Stands ⟨chars.dropWhile keep, fault⟩ (p.advanceBy (chars.takeWhile keep)) lexeme start →
      done count r')
    (broken : ∀ e, chars.dropWhile keep = [] → fault = some e →
      failed (decodeError e (p.advanceBy (chars.takeWhile keep)))) :
    Leads (skipWhile keep) r done failed :=
  leads_skipWhileFrom 0 stands skipped broken

end Intake

end GrammarLex
