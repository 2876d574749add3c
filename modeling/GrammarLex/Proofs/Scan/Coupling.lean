import GrammarLex.Proofs.Scan.Intake
import GrammarLex.Proofs.Text.InStep
import GrammarLex.Scan.Handlers

/-!
# Coupled sources

A handler is run on two intakes that differ in nothing but their sources. Which source may stand in
for that of an intake is up to a `Coupling`: it is kept by looking at the next character, by passing
over and collecting a character that has been looked at, and by starting another token. Nothing else is
asked of it, because handlers consume a character only after they have looked at it. The rules of this
module follow the operations that handlers are made of; each says that the operation stays in step.
-/
namespace GrammarLex

namespace CharSource

/-- The character has been looked at and is still to be consumed. -/
structure Shows (s : CharSource) (c : Char) : Prop where
  lookahead_eq : s.lookahead = some (some c)
  failure_eq : s.failure = none

/-- Forget what has been looked at. -/
def dropped (s : CharSource) : CharSource := { s with lookahead := none }

variable {s s' : CharSource} {c : Char}

theorem shows_of_peek (looked : peek s = .ok (some c) s') : s'.Shows c :=
  ⟨(peek_lookahead looked).1, (peek_lookahead looked).2⟩

theorem Shows.peek_eq (shows : s.Shows c) : peek s = .ok (some c) s := by
  obtain ⟨feed, lookahead, failure⟩ := s
  obtain ⟨rfl, rfl⟩ := shows
  rfl

theorem Shows.next_eq (shows : s.Shows c) : next s = .ok (some c) s.dropped := by
  obtain ⟨feed, lookahead, failure⟩ := s
  obtain ⟨rfl, rfl⟩ := shows
  rfl

/-- A character that is looked at is the first of the contents. -/
theorem contents_of_peek (looked : peek s = .ok (some c) s') :
    s.contents = s'.contents ∧ s.contents = s'.dropped.contents.cons c := by
  rcases holds : s.contents with ⟨_ | ⟨d, chars⟩, fault⟩
  · cases fault with
    | none =>
      obtain ⟨_, ended, _⟩ := peek_of_end holds
      cases looked.symm.trans ended
    | some e =>
      obtain ⟨_, broken⟩ := peek_of_fault holds
      cases looked.symm.trans broken
  · obtain ⟨_, found, kept, dropped⟩ := peek_of_cons holds
    cases looked.symm.trans found
    exact ⟨kept.symm, by rw [CharSource.dropped, dropped]; rfl⟩

/-- A look that ends the input leaves nothing to come. -/
theorem contents_of_peek_end (looked : peek s = .ok none s') : s'.contents = ⟨[], none⟩ := by
  obtain ⟨lookahead, failure⟩ := peek_lookahead looked
  obtain ⟨feed, _, _⟩ := s'
  cases lookahead
  cases failure
  rfl

end CharSource

namespace Intake

/-- The character has been looked at and is still to be consumed. -/
def Shows (r : Intake) (c : Char) : Prop := r.source.Shows c

variable {limits : ScanLimits} {r r' : Intake} {c : Char} {e : ScanError}

theorem collect_eq_ok (stored : collect limits c r = .ok () r') :
    r' = moveOver c { r.count with lexeme := r.lexeme.push c } := by
  simp only [collect] at stored
  split at stored
  next => cases stored
  next => exact (EStateM.Result.ok.inj stored).2.symm

theorem collect_eq_error (refused : collect limits c r = .error e r') : r' = r.count := by
  simp only [collect] at refused
  split at refused
  next => exact (EStateM.Result.error.inj refused).2.symm
  next => cases refused

end Intake

/-- Sources of which one may stand in for that of an intake. -/
structure Coupling where
  -- The source agrees with the one of the intake on what comes next.
  joined : Intake → CharSource → Prop
  -- What stays true of them once one of the sources has failed.
  kept : Intake → CharSource → Prop
  -- How the second source alone may fail in front of a position.
  parted : Position → DecodeError → Prop
  keeps : ∀ {r t}, joined r t → kept r t
  shows : ∀ {r t c}, joined r t → r.Shows c → t.Shows c
  look : ∀ {r t}, joined r t → InStep CharSource.peek r.source t
    (fun _ s' t' => joined { r with source := s' } t')
    (fun _ s' t' => kept { r with source := s' } t') (parted r.position)
  passed : ∀ {r t c}, joined r t → r.Shows c → joined (r.dropLookahead.moveOver c) t.dropped
  stored : ∀ {limits r r' t c}, joined r t → r.Shows c →
    Intake.collect limits c r.dropLookahead = .ok () r' → joined r' t.dropped
  refused : ∀ {limits r r' t c e}, joined r t → r.Shows c →
    Intake.collect limits c r.dropLookahead = .error e r' → kept r' t.dropped
  cleared : ∀ {r t}, joined r t → joined r.cleared t
  marked : ∀ {r t} p, joined r t → joined { r with tokenStart := p } t

/-- A coupling in which nothing of the intake matters but its source and its position. -/
structure SourceCoupling where
  -- The sources in front of a position agree on what comes next.
  joined : Position → CharSource → CharSource → Prop
  kept : CharSource → CharSource → Prop
  parted : Position → DecodeError → Prop
  keeps : ∀ {p s t}, joined p s t → kept s t
  shows : ∀ {p s t c}, joined p s t → s.Shows c → t.Shows c
  look : ∀ {p s t}, joined p s t → InStep CharSource.peek s t
    (fun next s' t' => joined p s' t' ∧
      ∀ c, next = some c → joined (p.advance c) s'.dropped t'.dropped)
    (fun _ s' t' => kept s' t') (parted p)

namespace SourceCoupling

variable (κ : SourceCoupling) {p : Position} {s t : CharSource} {c : Char}

/-- A character that has been looked at can be dropped from both sources. -/
theorem joined_dropped (joined : κ.joined p s t) (shows : s.Shows c) :
    κ.joined (p.advance c) s.dropped t.dropped := by
  have left := shows.peek_eq
  have right := (κ.shows joined shows).peek_eq
  cases κ.look joined with
  | done left' right' holds =>
    rw [left] at left'
    rw [right] at right'
    cases left'
    cases right'
    exact holds.2 c rfl
  | failed left' => exact nomatch left.symm.trans left'
  | parted right' => exact nomatch right.symm.trans right'

def onIntakes : Coupling where
  joined r := κ.joined r.position r.source
  kept r := κ.kept r.source
  parted := κ.parted
  keeps := κ.keeps
  shows := κ.shows
  look joined := (κ.look joined).mono And.left
  passed joined shows := κ.joined_dropped joined shows
  stored joined shows stored := by
    rw [Intake.collect_eq_ok stored]
    exact κ.joined_dropped joined shows
  refused joined shows refused := by
    rw [Intake.collect_eq_error refused]
    exact κ.keeps (κ.joined_dropped joined shows)
  cleared := id
  marked _ := id

end SourceCoupling

/-- Something that stays true of a source when it is looked at and when a character is dropped. -/
structure CharSource.Stable (Holds : CharSource → Prop) : Prop where
  look : ∀ {s}, Holds s → Holds (finalState (peek s))
  dropped : ∀ {s}, Holds s → Holds s.dropped

theorem CharSource.Stable.true : Stable fun _ => True := ⟨fun _ => trivial, fun _ => trivial⟩

/-- A source coupled with itself, of which something is true that stays true. -/
def SourceCoupling.holding {Holds : CharSource → Prop} (stable : CharSource.Stable Holds) :
    SourceCoupling where
  joined _ s t := t = s ∧ Holds s
  kept s t := t = s ∧ Holds s
  parted _ _ := False
  keeps := id
  shows := by
    rintro p s t c ⟨rfl, -⟩ shows
    exact shows
  look := by
    rintro p s t ⟨rfl, holds⟩
    have holds' := stable.look holds
    cases looked : CharSource.peek t <;> rw [looked] at holds'
    · exact .done looked looked ⟨⟨rfl, holds'⟩, fun _ _ => ⟨rfl, stable.dropped holds'⟩⟩
    · exact .failed looked looked ⟨rfl, holds'⟩

/-- Errors that a scan may end with. A soft error stays within it, and the buffer refuses no token
behind the end marker. -/
def ScanError.Surfaces (e : ScanError) : Prop :=
  e.isSoft = false ∧ ∀ found p, e ≠ .unexpected found "no token after end of stream" p

namespace Coupling

variable (κ : Coupling)

/-- Intakes that differ in coupled sources only. -/
structure Together (r q : Intake) : Prop where
  same : q = { r with source := q.source }
  joined : κ.joined r q.source

/-- Intakes that differ in their sources only, which have been coupled before. -/
structure Alike (r q : Intake) : Prop where
  same : q = { r with source := q.source }
  kept : κ.kept r q.source

/-- The second source alone has failed. -/
def Parts (e : ScanError) : Prop := ∃ p d, κ.parted p d ∧ e = Intake.decodeError d p

/-- An action on two intakes stays in step. -/
def Runs {α : Type} (action : Intake.Action α) (r q : Intake) (done : α → Intake → Intake → Prop) :
    Prop :=
  InStep action r q done (fun e r' q' => e.Surfaces ∧ κ.Alike r' q') κ.Parts

/-- An action on two scans stays in step. -/
def Steps {α : Type} (action : Scan.Action α) (s t : Scan) (done : α → Scan → Scan → Prop) : Prop :=
  InStep action s t done
    (fun e s' t' => e.Surfaces ∧ t'.nesting = s'.nesting ∧ κ.Alike s'.intake t'.intake) κ.Parts

end Coupling

namespace Intake

variable {limits : ScanLimits} {r : Intake} {c : Char} {s : CharSource}

theorem peek_of_ok {next : Option Char} (looked : r.source.peek = .ok next s) :
    peek r = .ok next { r with source := s } := by
  simp only [peek, looked]

theorem peek_of_error {e : DecodeError} (looked : r.source.peek = .error e s) :
    peek r = .error (decodeError e r.position) { r with source := s } := by
  simp only [peek, looked]

theorem Shows.peek_eq (shows : r.Shows c) : peek r = .ok (some c) r :=
  peek_of_ok (CharSource.Shows.peek_eq shows)

theorem Shows.take_eq (shows : r.Shows c) : take r = .ok (some c) r.dropLookahead := by
  simp only [take, CharSource.Shows.next_eq shows]
  rfl

theorem surfaces_decodeError (e : DecodeError) (p : Position) : (decodeError e p).Surfaces := by
  refine ⟨rfl, ?_⟩
  intro found p same
  cases same

theorem surfaces_lexemeTooLong (length : Nat) (p : Position) :
    (ScanError.lexemeTooLong length p).Surfaces := by
  refine ⟨rfl, ?_⟩
  intro found p same
  cases same

end Intake

namespace Coupling

variable {κ : Coupling} {limits : ScanLimits} {r q : Intake} {c : Char}

namespace Together

theorem position_eq (together : κ.Together r q) : q.position = r.position := by
  rw [together.same]

theorem alike (together : κ.Together r q) : κ.Alike r q :=
  ⟨together.same, κ.keeps together.joined⟩

theorem shows (together : κ.Together r q) (shows : r.Shows c) : q.Shows c :=
  κ.shows together.joined shows

theorem cleared (together : κ.Together r q) : κ.Together r.cleared q.cleared := by
  refine ⟨?_, κ.cleared together.joined⟩
  rw [together.same]
  rfl

theorem markStart (together : κ.Together r q) (start : Position) :
    κ.Together { r with tokenStart := start } { q with tokenStart := start } := by
  refine ⟨?_, κ.marked start together.joined⟩
  rw [together.same]

/-- Passing over a character that has been looked at. -/
theorem passed (together : κ.Together r q) (shows : r.Shows c) :
    κ.Together (r.dropLookahead.moveOver c) (q.dropLookahead.moveOver c) := by
  refine ⟨?_, κ.passed together.joined shows⟩
  rw [together.same]
  rfl

end Together

/-! ### Single characters -/

theorem runs_peek {done : Option Char → Intake → Intake → Prop} (together : κ.Together r q)
    (looked : ∀ next r' q', κ.Together r' q' → (∀ c, next = some c → r'.Shows c) →
      done next r' q') : κ.Runs Intake.peek r q done := by
  obtain ⟨b, rfl⟩ : ∃ b, q = { r with source := b } := ⟨_, together.same⟩
  refine (κ.look together.joined).follow_lift (fun b => { r with source := b }) ?_ ?_ ?_
  · intro b next s t left right holds
    refine .done (Intake.peek_of_ok left) (Intake.peek_of_ok right) (looked next _ _ ⟨rfl, holds⟩ ?_)
    rintro c rfl
    exact CharSource.shows_of_peek left
  · intro b e s t left right holds
    exact .failed (Intake.peek_of_error left) (Intake.peek_of_error right)
      ⟨Intake.surfaces_decodeError e r.position, rfl, holds⟩
  · intro e t right holds
    exact ⟨_, _, Intake.peek_of_error right, r.position, e, holds, rfl⟩

theorem runs_peekIs {done : Bool → Intake → Intake → Prop} (together : κ.Together r q)
    (looked : ∀ found r' q', κ.Together r' q' → (found = true → r'.Shows c) → done found r' q') :
    κ.Runs (Intake.peekIs c) r q done := by
  apply InStep.bind
  apply runs_peek together
  intro next r' q' together' shows
  exact .pure (looked _ r' q' together' fun found => shows c (by simpa using found))

/-- A character that has been looked at is dropped and collected, unless it is one too many. -/
private theorem dropCollect_alike (limits : ScanLimits) (together : κ.Together r q)
    (shows : r.Shows c) :
    (∃ r' q', Intake.collect limits c r.dropLookahead = .ok () r' ∧
      Intake.collect limits c q.dropLookahead = .ok () q' ∧ κ.Together r' q') ∨
    ∃ e r' q', Intake.collect limits c r.dropLookahead = .error e r' ∧
      Intake.collect limits c q.dropLookahead = .error e q' ∧ e.Surfaces ∧ κ.Alike r' q' := by
  have joined := together.joined
  obtain ⟨source, rfl⟩ : ∃ source, q = { r with source := source } := ⟨_, together.same⟩
  by_cases full : r.counted + 1 > limits.maxLexeme
  · exact .inr ⟨_, _, _, if_pos full, if_pos full, Intake.surfaces_lexemeTooLong _ _, rfl,
      κ.refused joined shows (if_pos full)⟩
  · exact .inl ⟨_, _, if_neg full, if_neg full, rfl, κ.stored joined shows (if_neg full)⟩

theorem runs_bump {done : Option Char → Intake → Intake → Prop} (together : κ.Together r q)
    (shows : r.Shows c) (collected : ∀ r' q', κ.Together r' q' → done (some c) r' q') :
    κ.Runs (Intake.bump limits) r q done := by
  refine .bind (.done shows.take_eq (together.shows shows).take_eq (.bind ?_))
  rcases dropCollect_alike limits together shows with
    ⟨r', q', left, right, together'⟩ | ⟨e, r', q', left, right, holds⟩
  · exact .done left right (.pure (collected r' q' together'))
  · exact .failed left right holds

theorem runs_takeLexeme {done : String → Intake → Intake → Prop} (together : κ.Together r q)
    (handed : κ.Together r.cleared q.cleared → done r.lexeme r.cleared q.cleared) :
    κ.Runs Intake.takeLexeme r q done := by
  have lexeme_eq : q.lexeme = r.lexeme := by rw [together.same]
  exact .done rfl (lexeme_eq ▸ rfl) (handed together.cleared)

/-! ### Runs of characters -/

private theorem stops_or_keeps (keep : Char → Bool) (next : Option Char) :
    next.all (!keep ·) = true ∨ ∃ c, next = some c ∧ keep c = true := by
  cases next with
  | none => exact .inl rfl
  | some c => cases keeps : keep c <;> simp [keeps]

private theorem runs_look (together : κ.Together r q) :
    κ.Runs Intake.peek r q fun next r' q' =>
      κ.Together r' q' ∧ ∀ c, next = some c → r'.Shows c :=
  runs_peek together fun _ _ _ together' shows => ⟨together', shows⟩

private theorem runs_bumpWhileFrom {r q : Intake} {keep : Char → Bool}
    {done : Nat → Intake → Intake → Prop} (count : Nat) (together : κ.Together r q)
    (collected : ∀ count r' q', κ.Together r' q' → done count r' q') :
    κ.Runs (Intake.bumpWhileFrom limits keep count) r q done := by
  refine (runs_look together).follow ?_ ?_ ?_
  · intro q next r' q' left right holds
    obtain ⟨together', shows⟩ := holds
    rcases stops_or_keeps keep next with stops | ⟨c, rfl, keeps⟩
    · exact .done (Intake.bumpWhileFrom_of_ok left stops) (Intake.bumpWhileFrom_of_ok right stops)
        (collected count _ _ together')
    · have used := Intake.dropLookahead_pending_lt left
      -- The character is dropped from both sources and collected, and the run goes on behind it.
      rcases dropCollect_alike limits together' (shows c rfl) with
        ⟨r'', q'', left', right', together''⟩ | ⟨e, r'', q'', left', right', holds⟩
      · have fewer : r''.pending < r.pending :=
          Nat.lt_of_le_of_lt ((Intake.collect_nonGrowing limits c).of_ok left') used
        exact .of_eq (Intake.bumpWhileFrom_of_keep left keeps left')
          (Intake.bumpWhileFrom_of_keep right keeps right')
          (runs_bumpWhileFrom (count + 1) together'' collected)
      · exact .failed (Intake.bumpWhileFrom_of_full left keeps left')
          (Intake.bumpWhileFrom_of_full right keeps right') holds
  · intro q e r' q' left right holds
    exact .failed (Intake.bumpWhileFrom_of_error left) (Intake.bumpWhileFrom_of_error right) holds
  · intro e q' right
    exact ⟨q', Intake.bumpWhileFrom_of_error right⟩
termination_by r.pending

theorem runs_bumpWhile {keep : Char → Bool} {done : Nat → Intake → Intake → Prop}
    (together : κ.Together r q) (collected : ∀ count r' q', κ.Together r' q' → done count r' q') :
    κ.Runs (Intake.bumpWhile limits keep) r q done :=
  runs_bumpWhileFrom 0 together collected

private theorem runs_skipWhileFrom {r q : Intake} {keep : Char → Bool}
    {done : Nat → Intake → Intake → Prop} (count : Nat) (together : κ.Together r q)
    (skipped : ∀ count r' q', κ.Together r' q' → done count r' q') :
    κ.Runs (Intake.skipWhileFrom keep count) r q done := by
  refine (runs_look together).follow ?_ ?_ ?_
  · intro q next r' q' left right holds
    obtain ⟨together', shows⟩ := holds
    rcases stops_or_keeps keep next with stops | ⟨c, rfl, keeps⟩
    · exact .done (Intake.skipWhileFrom_of_ok left stops) (Intake.skipWhileFrom_of_ok right stops)
        (skipped count _ _ together')
    · have used : (r'.dropLookahead.moveOver c).pending < r.pending :=
        Intake.dropLookahead_pending_lt left
      exact .of_eq (Intake.skipWhileFrom_of_keep left keeps)
        (Intake.skipWhileFrom_of_keep right keeps)
        (runs_skipWhileFrom (count + 1) (together'.passed (shows c rfl)) skipped)
  · intro q e r' q' left right holds
    exact .failed (Intake.skipWhileFrom_of_error left) (Intake.skipWhileFrom_of_error right) holds
  · intro e q' right
    exact ⟨q', Intake.skipWhileFrom_of_error right⟩
termination_by r.pending

theorem runs_skipWhile {keep : Char → Bool} {done : Nat → Intake → Intake → Prop}
    (together : κ.Together r q) (skipped : ∀ count r' q', κ.Together r' q' → done count r' q') :
    κ.Runs (Intake.skipWhile keep) r q done :=
  runs_skipWhileFrom 0 together skipped

end Coupling

end GrammarLex
