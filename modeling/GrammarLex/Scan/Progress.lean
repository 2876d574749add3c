import GrammarLex.Scan.Handlers

/-!
# Every handler makes progress

A handler that emits nothing either consumes a character or moves to a phase of lower rank. The
rank of a phase looks at the character that has been looked at: a phase entered because of that
character ranks below `dispatch`, and the same phase entered in front of anything else ranks above
it, because its handler then only leads back to `dispatch`.
-/
namespace GrammarLex

namespace Intake

def seenChar? (r : Intake) : Option Char := r.source.lookahead.join

theorem peek_seenChar {r r' : Intake} {next : Option Char} (seen : peek r = .ok next r') :
    r'.seenChar? = next := by
  rw [seenChar?, peek_lookahead seen]
  rfl

/-- The end of the input is only seen when no character had been looked at. -/
theorem seenChar_of_peek_none {r r' : Intake} (seen : peek r = .ok none r') :
    r.seenChar? = none := by
  match r with
  | ⟨⟨feed, some (some c), none⟩, _, _, _, _, _⟩ => simp [peek, CharSource.peek] at seen
  | ⟨⟨feed, some (some c), some e⟩, _, _, _, _, _⟩ => simp [peek, CharSource.peek] at seen
  | ⟨⟨feed, some none, failure⟩, _, _, _, _, _⟩ => rfl
  | ⟨⟨feed, none, failure⟩, _, _, _, _, _⟩ => rfl

/-- A character that has been looked at is the one that a further look finds. -/
theorem peek_of_seenChar {r r' : Intake} {c : Char} {next : Option Char}
    (looked : r.seenChar? = some c) (seen : peek r = .ok next r') : next = some c := by
  match r with
  | ⟨⟨feed, some (some d), none⟩, _, _, _, _, _⟩ =>
    simp only [peek, CharSource.peek, EStateM.Result.ok.injEq] at seen
    simp only [seenChar?, Option.join_some, Option.some.injEq] at looked
    rw [← seen.1, looked]
  | ⟨⟨feed, some (some d), some e⟩, _, _, _, _, _⟩ => simp [peek, CharSource.peek] at seen
  | ⟨⟨feed, some none, failure⟩, _, _, _, _, _⟩ => simp [seenChar?] at looked
  | ⟨⟨feed, none, failure⟩, _, _, _, _, _⟩ => simp [seenChar?] at looked

/-- Collecting the character that has been looked at consumes it. -/
theorem bump_pending_lt_of_seenChar {limits : ScanLimits} {r r' : Intake} {c : Char}
    {next : Option Char} (looked : r.seenChar? = some c) (bumped : bump limits r = .ok next r') :
    r'.pending < r.pending := by
  match r with
  | ⟨⟨feed, some (some d), none⟩, _, _, _, _, _⟩ =>
    obtain ⟨next', r₁, taken, rest⟩ := bind_eq_ok.mp bumped
    have found : next' = some d := by
      simp only [take, CharSource.next, EStateM.Result.ok.injEq] at taken
      exact taken.1.symm
    have used := take_pending_lt (by rw [taken, found])
    rw [found] at rest
    obtain ⟨_, r₂, collected, rest⟩ := bind_eq_ok.mp rest
    have bound := (collect_nonGrowing limits d).of_ok collected
    simp only [pure_apply, EStateM.Result.ok.injEq] at rest
    rw [← rest.2]
    exact Nat.lt_of_le_of_lt bound used
  | ⟨⟨feed, some (some d), some e⟩, _, _, _, _, _⟩ =>
    obtain ⟨next', r₁, taken, rest⟩ := bind_eq_ok.mp bumped
    simp [take, CharSource.next] at taken
  | ⟨⟨feed, some none, failure⟩, _, _, _, _, _⟩ => simp [seenChar?] at looked
  | ⟨⟨feed, none, failure⟩, _, _, _, _, _⟩ => simp [seenChar?] at looked

theorem skipWhileFrom_pending_le (keep : Char → Bool) (count : Nat) (r : Intake) :
    (finalState (skipWhileFrom keep count r)).pending ≤ r.pending := by
  fun_induction skipWhileFrom keep count r with
  | case1 _ r e r' seen => simpa [seen] using peek_nonGrowing r
  | case2 _ r r' seen => simpa [seen] using peek_nonGrowing r
  | case3 _ r c ahead seen keeps ih =>
    exact Nat.le_of_lt (Nat.lt_of_le_of_lt ih (dropLookahead_pending_lt seen))
  | case4 _ r c ahead seen stops => simpa [seen] using peek_nonGrowing r

theorem skipWhile_nonGrowing (keep : Char → Bool) : NonGrowing pending (skipWhile keep) :=
  skipWhileFrom_pending_le keep 0

/-- Passing over a character that has been looked at and is to be passed over consumes it. -/
theorem skipWhile_pending_lt {keep : Char → Bool} {r r' : Intake} {c : Char} {count : Nat}
    (looked : r.seenChar? = some c) (keeps : keep c = true)
    (skipped : skipWhile keep r = .ok count r') : r'.pending < r.pending := by
  rw [skipWhile, skipWhileFrom] at skipped
  split at skipped
  · cases skipped
  · rename_i ahead seen
    cases peek_of_seenChar looked seen
  · rename_i d ahead seen
    cases peek_of_seenChar looked seen
    rw [if_pos keeps] at skipped
    have bound := skipWhileFrom_pending_le keep 1 (ahead.dropLookahead.moveOver c)
    rw [skipped] at bound
    exact Nat.lt_of_le_of_lt bound (dropLookahead_pending_lt seen)

end Intake

namespace Scan

def pending (s : Scan) : Nat := s.intake.pending

theorem onIntake_nonGrowing {α : Type} {action : Intake.Action α}
    (bound : NonGrowing Intake.pending action) : NonGrowing pending (onIntake action) := by
  intro s
  have step := bound s.intake
  simp only [onIntake]
  cases result : action s.intake <;> rw [result] at step <;> exact step

theorem onIntake_eq_ok {α : Type} {action : Intake.Action α} {s s' : Scan} {a : α}
    (result : onIntake action s = .ok a s') :
    action s.intake = .ok a s'.intake ∧ s'.nesting = s.nesting := by
  simp only [onIntake] at result
  cases inner : action s.intake with
  | error e intake => simp [inner] at result
  | ok b intake =>
    simp only [inner, EStateM.Result.ok.injEq] at result
    rw [← result.2, ← result.1]
    exact ⟨rfl, rfl⟩

theorem renest_nonGrowing (f : Nesting → Except ScanError Nesting) :
    NonGrowing pending (renest f) := by
  intro s
  simp only [renest]
  cases f s.nesting <;> exact Nat.le_refl _

@[simp] theorem position_apply (s : Scan) : position s = .ok s.intake.position s := rfl

theorem position_nonGrowing : NonGrowing pending position :=
  .bind .get fun _ => .pure _

theorem top_nonGrowing : NonGrowing pending top? :=
  .bind .get fun _ => .pure _

theorem clear_nonGrowing : NonGrowing pending (onIntake Intake.clear) :=
  onIntake_nonGrowing fun _ => Nat.le_refl _

theorem markStart_nonGrowing (p : Position) : NonGrowing pending (onIntake (Intake.markStart p)) :=
  onIntake_nonGrowing fun _ => Nat.le_refl _

theorem peek_nonGrowing : NonGrowing pending (onIntake Intake.peek) :=
  onIntake_nonGrowing Intake.peek_nonGrowing

theorem popFrame_nonGrowing : NonGrowing pending popFrame := fun _ => Nat.le_refl _

variable (limits : ScanLimits)

theorem bump_nonGrowing : NonGrowing pending (onIntake (Intake.bump limits)) :=
  onIntake_nonGrowing (Intake.bump_nonGrowing limits)

def Consumes {α : Type} (action : Action α) : Prop :=
  ∀ s a s', action s = .ok a s' → s'.pending < s.pending

/-- The action consumes something whenever it succeeds without a token. -/
def EmitsOrConsumes (action : Action Outcome) : Prop :=
  ∀ s phase s', action s = .ok (phase, none) s' → s'.pending < s.pending

theorem Consumes.bind_left {α β : Type} {m : Action α} {f : α → Action β} (consumes : Consumes m)
    (bound : ∀ a, NonGrowing pending (f a)) : Consumes (m >>= f) := by
  intro s b s' result
  obtain ⟨a, t, first, second⟩ := bind_eq_ok.mp result
  exact Nat.lt_of_le_of_lt ((bound a).of_ok second) (consumes s a t first)

theorem Consumes.bind_right {α β : Type} {m : Action α} {f : α → Action β}
    (bound : NonGrowing pending m) (consumes : ∀ a, Consumes (f a)) : Consumes (m >>= f) := by
  intro s b s' result
  obtain ⟨a, t, first, second⟩ := bind_eq_ok.mp result
  exact Nat.lt_of_lt_of_le (consumes a t b s' second) (bound.of_ok first)

theorem EmitsOrConsumes.bind {α : Type} {m : Action α} {f : α → Action Outcome} (bound : NonGrowing pending m)
    (rest : ∀ a, EmitsOrConsumes (f a)) : EmitsOrConsumes (m >>= f) := by
  intro s phase s' result
  obtain ⟨a, t, first, second⟩ := bind_eq_ok.mp result
  exact Nat.lt_of_lt_of_le (rest a t phase s' second) (bound.of_ok first)

theorem expect_consumes (c : Char) (words : String) : Consumes (expect limits c words) := by
  refine .bind_right position_nonGrowing fun here => ?_
  intro s a s' result
  obtain ⟨next, t, seen, second⟩ := bind_eq_ok.mp result
  have bound := peek_nonGrowing.of_ok seen
  by_cases same : next = some c
  · rw [if_pos same] at second
    obtain ⟨bumped, u, bump, finish⟩ := bind_eq_ok.mp second
    have looked := Intake.peek_seenChar (onIntake_eq_ok seen).1
    have used := Intake.bump_pending_lt_of_seenChar (looked.trans same) (onIntake_eq_ok bump).1
    simp only [pure_apply, EStateM.Result.ok.injEq] at finish
    rw [← finish.2]
    exact Nat.lt_of_lt_of_le used bound
  · rw [if_neg same] at second
    simp at second

theorem expectAny_consumes (words : String) : Consumes (expectAny limits words) := by
  refine .bind_right position_nonGrowing fun here => ?_
  intro s a s' result
  obtain ⟨next, t, bump, second⟩ := bind_eq_ok.mp result
  cases next with
  | none => simp at second
  | some c =>
    simp only [pure_apply, EStateM.Result.ok.injEq] at second
    rw [← second.2]
    exact Intake.bump_pending_lt (onIntake_eq_ok bump).1

/-- The rank of a phase in front of what the intake has looked at. -/
def rank (acceptReturn : Bool) (phase : Phase) (r : Intake) : Nat :=
  match phase with
  | .dispatch => 2
  | .scanEnclosed | .closeEnclosure | .actionClose => 3
  | .whitespace => if r.seenChar?.any (isSeparator acceptReturn) then 0 else 3
  | .closeGroup => if r.seenChar?.isSome then 1 else 3
  | .bareTerminal => if r.seenChar?.isSome then 0 else 3
  | _ => 0

/-- What is left to do before a token, an error or the end: characters first, phases second. -/
def toDo (acceptReturn : Bool) (phase : Phase) (r : Intake) : Nat :=
  4 * r.pending + rank acceptReturn phase r

theorem rank_le (acceptReturn : Bool) (phase : Phase) (r : Intake) :
    rank acceptReturn phase r ≤ 3 := by
  cases phase <;> simp only [rank] <;> first | omega | (split <;> omega)

theorem toDo_lt_of_pending_lt {acceptReturn : Bool} {phase phase' : Phase} {r r' : Intake}
    (used : r'.pending < r.pending) :
    toDo acceptReturn phase' r' < toDo acceptReturn phase r := by
  have := rank_le acceptReturn phase' r'
  simp only [toDo]
  omega

theorem toDo_lt_of_rank_lt {acceptReturn : Bool} {phase phase' : Phase} {r r' : Intake}
    (bound : r'.pending ≤ r.pending)
    (lower : rank acceptReturn phase' r' < rank acceptReturn phase r) :
    toDo acceptReturn phase' r' < toDo acceptReturn phase r := by
  simp only [toDo]
  omega

/-- A phase selected by the character just looked at ranks below `dispatch`. -/
theorem rank_ofLookahead_lt {acceptReturn : Bool} {c : Char} {r : Intake}
    (looked : r.seenChar? = some c) :
    rank acceptReturn (Phase.ofLookahead acceptReturn c) r < 2 := by
  by_cases separates : isSeparator acceptReturn c
  · unfold Phase.ofLookahead
    split <;> simp [rank, looked, separates]
  · unfold Phase.ofLookahead
    split <;> simp [rank, looked, separates]

theorem dispatch_toDo {acceptReturn : Bool} {s s' : Scan} {phase : Phase}
    (result : dispatch acceptReturn s = .ok (phase, none) s') :
    toDo acceptReturn phase s'.intake < toDo acceptReturn .dispatch s.intake := by
  obtain ⟨_, s₁, cleared, result⟩ := bind_eq_ok.mp result
  obtain ⟨next, s₂, seen, result⟩ := bind_eq_ok.mp result
  have bound := Nat.le_trans (peek_nonGrowing.of_ok seen) (clear_nonGrowing.of_ok cleared)
  cases next with
  | none =>
    obtain ⟨_, _, _, result⟩ := bind_eq_ok.mp result
    simp at result
  | some c =>
    simp only [pure_apply, EStateM.Result.ok.injEq, Prod.mk.injEq] at result
    obtain ⟨⟨rfl, _⟩, rfl⟩ := result
    exact toDo_lt_of_rank_lt bound
      (rank_ofLookahead_lt (Intake.peek_seenChar (onIntake_eq_ok seen).1))

theorem whitespace_toDo {acceptReturn : Bool} {s s' : Scan} {phase : Phase}
    (result : whitespace acceptReturn s = .ok (phase, none) s') :
    toDo acceptReturn phase s'.intake < toDo acceptReturn .whitespace s.intake := by
  obtain ⟨count, s₁, skipped, result⟩ := bind_eq_ok.mp result
  obtain ⟨_, s₂, cleared, result⟩ := bind_eq_ok.mp result
  simp only [pure_apply, EStateM.Result.ok.injEq, Prod.mk.injEq] at result
  obtain ⟨⟨rfl, _⟩, rfl⟩ := result
  have after := clear_nonGrowing.of_ok cleared
  have bound := (onIntake_nonGrowing (Intake.skipWhile_nonGrowing _)).of_ok skipped
  cases looked : s.intake.seenChar? with
  | none => exact toDo_lt_of_rank_lt (Nat.le_trans after bound) (by simp [rank, looked])
  | some c =>
    cases keeps : isSeparator acceptReturn c with
    | false => exact toDo_lt_of_rank_lt (Nat.le_trans after bound) (by simp [rank, looked, keeps])
    | true =>
      have used := Intake.skipWhile_pending_lt looked keeps (onIntake_eq_ok skipped).1
      exact toDo_lt_of_pending_lt (Nat.lt_of_le_of_lt after used)

theorem openEnclosure_consumes : Consumes (openEnclosure limits) := by
  refine .bind_right position_nonGrowing fun start =>
    .bind_left (expectAny_consumes limits _) fun opener => ?_
  refine .bind (renest_nonGrowing _) fun _ => .bind clear_nonGrowing fun _ => ?_
  exact .bind (markStart_nonGrowing _) fun _ => .pure _

theorem actionOpen_consumes : Consumes (actionOpen limits) := by
  refine .bind_right position_nonGrowing fun start =>
    .bind_left (expect_consumes limits _ _) fun _ => ?_
  exact .bind (renest_nonGrowing _) fun _ => .bind clear_nonGrowing fun _ => .pure _

theorem scanEnclosed_toDo {acceptReturn : Bool} {s s' : Scan} {phase : Phase}
    (result : scanEnclosed limits s = .ok (phase, none) s') :
    toDo acceptReturn phase s'.intake < toDo acceptReturn .scanEnclosed s.intake := by
  obtain ⟨frame, s₁, top, result⟩ := bind_eq_ok.mp result
  have bound := top_nonGrowing.of_ok top
  cases frame with
  | none =>
    simp only [pure_apply, EStateM.Result.ok.injEq, Prod.mk.injEq] at result
    obtain ⟨⟨rfl, _⟩, rfl⟩ := result
    exact toDo_lt_of_rank_lt bound (by simp [rank])
  | some frame =>
    obtain ⟨_, s₂, _, result⟩ := bind_eq_ok.mp result
    obtain ⟨token, s₃, _, result⟩ := bind_eq_ok.mp result
    simp at result

theorem closeInnermost_nonGrowing : NonGrowing pending (closeInnermost limits) := by
  refine .bind top_nonGrowing fun frame => ?_
  cases frame with
  | none => exact .pure _
  | some frame =>
    refine .bind popFrame_nonGrowing fun _ => .bind peek_nonGrowing fun next => ?_
    split
    · exact .bind (bump_nonGrowing limits) fun _ => .pure _
    · exact .pure _

theorem closeEnclosure_toDo {acceptReturn : Bool} {s s' : Scan} {phase : Phase}
    (result : closeEnclosure limits s = .ok (phase, none) s') :
    toDo acceptReturn phase s'.intake < toDo acceptReturn .closeEnclosure s.intake := by
  obtain ⟨_, s₁, closed, result⟩ := bind_eq_ok.mp result
  obtain ⟨_, s₂, cleared, result⟩ := bind_eq_ok.mp result
  simp only [pure_apply, EStateM.Result.ok.injEq, Prod.mk.injEq] at result
  obtain ⟨⟨rfl, _⟩, rfl⟩ := result
  exact toDo_lt_of_rank_lt (Nat.le_trans (clear_nonGrowing.of_ok cleared)
    ((closeInnermost_nonGrowing limits).of_ok closed)) (by simp [rank])

theorem closeGroup_toDo {acceptReturn : Bool} {s s' : Scan} {phase : Phase}
    (result : closeGroup limits s = .ok (phase, none) s') :
    toDo acceptReturn phase s'.intake < toDo acceptReturn .closeGroup s.intake := by
  obtain ⟨here, _, place, result⟩ := bind_eq_ok.mp result
  rw [position_apply, EStateM.Result.ok.injEq] at place
  rw [← place.2] at result
  obtain ⟨next, s₁, seen, result⟩ := bind_eq_ok.mp result
  have bound := peek_nonGrowing.of_ok seen
  have intake := (onIntake_eq_ok seen).1
  cases next with
  | none =>
    simp only [pure_apply, EStateM.Result.ok.injEq, Prod.mk.injEq] at result
    obtain ⟨⟨rfl, _⟩, rfl⟩ := result
    exact toDo_lt_of_rank_lt bound (by simp [rank, Intake.seenChar_of_peek_none intake])
  | some closer =>
    obtain ⟨s₂, s₃, got, result⟩ := bind_eq_ok.mp result
    rw [get_apply, EStateM.Result.ok.injEq] at got
    rw [← got.2] at result
    cases closed : s₂.nesting.closeGroup closer here with
    | ok pair =>
      simp only [closed] at result
      obtain ⟨_, _, _, result⟩ := bind_eq_ok.mp result
      obtain ⟨_, _, _, result⟩ := bind_eq_ok.mp result
      obtain ⟨_, _, _, result⟩ := bind_eq_ok.mp result
      simp at result
    | error e =>
      simp only [closed] at result
      split at result
      · simp only [pure_apply, EStateM.Result.ok.injEq, Prod.mk.injEq] at result
        obtain ⟨⟨rfl, _⟩, rfl⟩ := result
        refine toDo_lt_of_rank_lt bound ?_
        simp only [rank, Intake.peek_seenChar intake, Option.isSome_some, if_true]
        split <;> omega
      · simp at result

theorem actionArgs_emitsOrConsumes (acceptReturn : Bool) :
    EmitsOrConsumes (actionArgs limits acceptReturn) := by
  refine .bind (onIntake_nonGrowing (Intake.skipWhile_nonGrowing _)) fun _ =>
    .bind clear_nonGrowing fun _ => ?_
  intro s phase s' result
  obtain ⟨next, s₁, seen, result⟩ := bind_eq_ok.mp result
  have bound := peek_nonGrowing.of_ok seen
  have looked := Intake.peek_seenChar (onIntake_eq_ok seen).1
  split at result
  · obtain ⟨_, _, _, result⟩ := bind_eq_ok.mp result
    simp at result
  · obtain ⟨_, s₂, bumped, result⟩ := bind_eq_ok.mp result
    obtain ⟨_, s₃, cleared, result⟩ := bind_eq_ok.mp result
    simp only [pure_apply, EStateM.Result.ok.injEq] at result
    have used := Intake.bump_pending_lt_of_seenChar looked (onIntake_eq_ok bumped).1
    have after := clear_nonGrowing.of_ok cleared
    rw [← result.2]
    exact Nat.lt_of_le_of_lt after (Nat.lt_of_lt_of_le used bound)
  · obtain ⟨_, s₂, _, result⟩ := bind_eq_ok.mp result
    obtain ⟨token, s₃, _, result⟩ := bind_eq_ok.mp result
    simp at result

theorem actionName_emitsOrConsumes (acceptReturn : Bool) :
    EmitsOrConsumes (actionName limits acceptReturn) := by
  intro s phase s' result
  obtain ⟨_, _, _, result⟩ := bind_eq_ok.mp result
  obtain ⟨_, _, _, result⟩ := bind_eq_ok.mp result
  obtain ⟨_, _, _, result⟩ := bind_eq_ok.mp result
  obtain ⟨here, _, _, result⟩ := bind_eq_ok.mp result
  obtain ⟨next, _, _, result⟩ := bind_eq_ok.mp result
  split at result
  · obtain ⟨_, _, _, result⟩ := bind_eq_ok.mp result
    obtain ⟨lexeme, _, _, result⟩ := bind_eq_ok.mp result
    split at result
    · simp at result
    · obtain ⟨_, _, _, result⟩ := bind_eq_ok.mp result
      obtain ⟨_, _, _, result⟩ := bind_eq_ok.mp result
      simp at result
  · simp at result

theorem closingBrace_nonGrowing : NonGrowing pending (closingBrace limits) := by
  refine .bind peek_nonGrowing fun next => ?_
  split
  · exact .bind (bump_nonGrowing limits) fun _ => .pure _
  · exact .pure _
  · exact .bind position_nonGrowing fun _ => .throw _

theorem actionClose_toDo {acceptReturn : Bool} {s s' : Scan} {phase : Phase}
    (result : actionClose limits acceptReturn s = .ok (phase, none) s') :
    toDo acceptReturn phase s'.intake < toDo acceptReturn .actionClose s.intake := by
  obtain ⟨_, s₁, skipped, result⟩ := bind_eq_ok.mp result
  obtain ⟨_, s₂, closed, result⟩ := bind_eq_ok.mp result
  obtain ⟨_, s₃, popped, result⟩ := bind_eq_ok.mp result
  obtain ⟨_, s₄, cleared, result⟩ := bind_eq_ok.mp result
  simp only [pure_apply, EStateM.Result.ok.injEq, Prod.mk.injEq] at result
  obtain ⟨⟨rfl, _⟩, rfl⟩ := result
  refine toDo_lt_of_rank_lt ?_ (by simp [rank])
  calc s₄.pending ≤ s₃.pending := clear_nonGrowing.of_ok cleared
    _ ≤ s₂.pending := popFrame_nonGrowing.of_ok popped
    _ ≤ s₁.pending := (closingBrace_nonGrowing limits).of_ok closed
    _ ≤ s.pending := (onIntake_nonGrowing (Intake.skipWhile_nonGrowing _)).of_ok skipped

theorem bareTerminal_toDo {acceptReturn : Bool} {s s' : Scan} {phase : Phase}
    (result : bareTerminal limits s = .ok (phase, none) s') :
    toDo acceptReturn phase s'.intake < toDo acceptReturn .bareTerminal s.intake := by
  obtain ⟨here, _, place, result⟩ := bind_eq_ok.mp result
  rw [position_apply, EStateM.Result.ok.injEq] at place
  rw [← place.2] at result
  obtain ⟨next, s₁, seen, result⟩ := bind_eq_ok.mp result
  cases next with
  | none =>
    simp only [pure_apply, EStateM.Result.ok.injEq, Prod.mk.injEq] at result
    obtain ⟨⟨rfl, _⟩, rfl⟩ := result
    have unseen := Intake.seenChar_of_peek_none (onIntake_eq_ok seen).1
    exact toDo_lt_of_rank_lt (peek_nonGrowing.of_ok seen) (by simp [rank, unseen])
  | some c =>
    dsimp only at result
    split at result
    · obtain ⟨_, _, _, result⟩ := bind_eq_ok.mp result
      obtain ⟨_, _, _, result⟩ := bind_eq_ok.mp result
      simp at result
    · split at result
      · obtain ⟨_, _, _, result⟩ := bind_eq_ok.mp result
        obtain ⟨_, _, _, result⟩ := bind_eq_ok.mp result
        simp at result
      · simp at result

/-- Every step that neither emits nor fails leaves less to do, until the scanner is finished. -/
theorem handler_toDo {acceptReturn : Bool} {phase next : Phase} {s s' : Scan}
    (result : handler limits acceptReturn phase s = .ok (next, none) s')
    (unfinished : next ≠ .finished) :
    toDo acceptReturn next s'.intake < toDo acceptReturn phase s.intake := by
  cases phase with
  | dispatch => exact dispatch_toDo result
  | whitespace => exact whitespace_toDo result
  | scanEnclosed => exact scanEnclosed_toDo limits result
  | closeEnclosure => exact closeEnclosure_toDo limits result
  | closeGroup => exact closeGroup_toDo limits result
  | actionClose => exact actionClose_toDo limits result
  | bareTerminal => exact bareTerminal_toDo limits result
  | openEnclosure => exact toDo_lt_of_pending_lt (openEnclosure_consumes limits s _ s' result)
  | actionOpen => exact toDo_lt_of_pending_lt (actionOpen_consumes limits s _ s' result)
  | actionArgs =>
    exact toDo_lt_of_pending_lt (actionArgs_emitsOrConsumes limits _ s next s' result)
  | actionName =>
    exact toDo_lt_of_pending_lt (actionName_emitsOrConsumes limits _ s next s' result)
  | endOfRule =>
    obtain ⟨_, _, _, result⟩ := bind_eq_ok.mp result
    obtain ⟨again, _, _, result⟩ := bind_eq_ok.mp result
    split at result
    · obtain ⟨_, _, _, result⟩ := bind_eq_ok.mp result
      obtain ⟨_, _, _, result⟩ := bind_eq_ok.mp result
      simp at result
    · obtain ⟨_, _, _, result⟩ := bind_eq_ok.mp result
      simp at result
  | productionRuleOp =>
    obtain ⟨_, _, _, result⟩ := bind_eq_ok.mp result
    obtain ⟨_, _, _, result⟩ := bind_eq_ok.mp result
    obtain ⟨_, _, _, result⟩ := bind_eq_ok.mp result
    obtain ⟨_, _, _, result⟩ := bind_eq_ok.mp result
    simp at result
  | sequence =>
    obtain ⟨_, _, _, result⟩ := bind_eq_ok.mp result
    obtain ⟨_, _, _, result⟩ := bind_eq_ok.mp result
    obtain ⟨_, _, _, result⟩ := bind_eq_ok.mp result
    simp at result
  | openGroup =>
    obtain ⟨_, _, _, result⟩ := bind_eq_ok.mp result
    obtain ⟨_, _, _, result⟩ := bind_eq_ok.mp result
    obtain ⟨_, _, _, result⟩ := bind_eq_ok.mp result
    obtain ⟨_, _, _, result⟩ := bind_eq_ok.mp result
    obtain ⟨_, _, _, result⟩ := bind_eq_ok.mp result
    simp at result
  | or | assign | and =>
    obtain ⟨_, _, _, result⟩ := bind_eq_ok.mp result
    obtain ⟨_, _, _, result⟩ := bind_eq_ok.mp result
    simp at result
  | finished =>
    simp only [handler, pure_apply, EStateM.Result.ok.injEq, Prod.mk.injEq] at result
    exact absurd result.1.1.symm unfinished

end Scan

end GrammarLex
