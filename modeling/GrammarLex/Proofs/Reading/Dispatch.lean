import GrammarLex.Proofs.Reading.Actions
import GrammarLex.Proofs.Reading.Constructs

/-!
# A machine follows the reading of its text

Between two constructs the next character selects both the handler and the construct to be read, so
a machine that starts in front of a text follows the reading of the text.
-/
namespace GrammarLex

open Machine

variable {limits : ScanLimits} {acceptReturn : Bool} {fault : Option DecodeError} {place : Place}
  {c : Char} {chars rest : List Char} {r : Intake} {nesting : Nesting}

private theorem completes_construct (other : isSeparator acceptReturn c = false)
    (stands : r.Stands ⟨c :: rest, fault⟩ place.position [] place.position)
    (groups : Groups nesting.frames place.closers) :
    Completes limits acceptReturn fault (.ofLookahead acceptReturn c) nesting r
      (place.construct acceptReturn c rest) := by
  -- Phases and constructs are selected by the same characters.
  unfold Place.construct
  split
  · exact completes_exclamation stands groups
  · exact completes_productionRule stands groups
  · exact completes_single stands groups nofun rfl
  · exact completes_single stands groups nofun rfl
  · exact completes_single stands groups nofun rfl
  · exact completes_dots stands groups
  · exact completes_enclosed (.inl rfl) stands groups
  · exact completes_enclosed (.inr (.inl rfl)) stands groups
  · exact completes_enclosed (.inr (.inr rfl)) stands groups
  · exact completes_action stands groups
  · exact completes_groupOpener (.inl rfl) stands groups
  · exact completes_groupOpener (.inr rfl) stands groups
  · exact completes_groupEnd (.inl rfl) stands groups
  · exact completes_groupEnd (.inr rfl) stands groups
  next =>
    have plain : Phase.ofLookahead acceptReturn c = .bareTerminal := by
      unfold Phase.ofLookahead
      split <;> first | contradiction | skip
      rw [other]
      rfl
    rw [plain]
    exact completes_word stands groups

private theorem ofLookahead_unfinished : Phase.ofLookahead acceptReturn c ≠ .finished := by
  intro finished
  unfold Phase.ofLookahead at finished
  split at finished <;> try cases finished
  split at finished <;> cases finished

private theorem resumes_of_cons {reading : Reading} (next : place.rest = c :: rest)
    (selected : ∀ {r : Intake} {nesting : Nesting},
      r.Stands ⟨c :: rest, fault⟩ place.position [] place.position →
      Groups nesting.frames place.closers →
      Yields limits ⟨.ofLookahead acceptReturn c, nesting, acceptReturn⟩ r
        (reading.Follows limits fault)) : Resumes limits acceptReturn fault place reading := by
  intro r nesting lexeme start stands groups
  rw [next] at stands
  apply yields_of_handler
  apply Scan.leads_bind_onIntake
  apply Intake.leads_clear stands
  intro r₁ stands₁
  apply Scan.leads_bind_onIntake
  apply Intake.leads_peek_cons stands₁
  intro r₂ stands₂
  exact continues_silent ofLookahead_unfinished (selected stands₂ groups)

private theorem resumes_of_end (next : place.rest = []) :
    Resumes limits acceptReturn fault place
      ⟨[⟨.ofPosition "" .endOfStream place.position, [], 0⟩], none⟩ := by
  intro r nesting lexeme start stands groups
  rw [next] at stands
  apply yields_of_handler
  apply Scan.leads_bind_onIntake
  apply Intake.leads_clear stands
  intro r₁ stands₁
  apply Scan.leads_bind_onIntake
  apply Intake.leads_peek stands₁
  · intro r₂ whole stands₂
    apply leads_bind.mpr
    apply Scan.leads_position stands₂
    have fits : Piece.Fits limits ⟨.ofPosition "" .endOfStream place.position, [], 0⟩ :=
      ⟨Nat.zero_le _, Nat.zero_le _, Nat.zero_le _⟩
    exact Reading.Follows.token fits (.ended (whole rfl))
  · exact fun e _ found => .stopped (.broken found)

private theorem yields_whitespace {reading : Reading}
    (stands : r.Stands ⟨place.rest, fault⟩ place.position [] place.position)
    (groups : Groups nesting.frames place.closers)
    (resumes : Resumes limits acceptReturn fault (place.skip (isSeparator acceptReturn)) reading) :
    Yields limits ⟨.whitespace, nesting, acceptReturn⟩ r (reading.Follows limits fault) := by
  apply yields_of_handler
  apply Scan.leads_bind_onIntake
  apply Intake.leads_skipWhile stands
  · intro _ r₁ _ stands₁
    apply Scan.leads_bind_onIntake
    apply Intake.leads_clear stands₁
    intro r₂ stands₂
    exact continues_silent (by decide) (resumes stands₂ groups)
  · exact fun e _ found => .stopped (.broken found)

/-- A machine between two constructs follows the reading of the rest of its text. -/
theorem resumes_read (place : Place) :
    Resumes limits acceptReturn fault place (place.read acceptReturn) := by
  -- White space and constructs alike leave a shorter text.
  induction size : place.rest.length using Nat.strongRecOn generalizing place with
  | ind size ih =>
    subst size
    cases next : place.rest with
    | nil =>
      have same : place.skip (isSeparator acceptReturn) = place :=
        Place.skip_of_stops _ fun c found => nomatch (congrArg List.head? next).symm.trans found
      rw [Place.read_of_end (same.symm ▸ next), same]
      exact resumes_of_end next
    | cons c rest =>
      apply resumes_of_cons next
      intro r nesting stands groups
      by_cases separates : isSeparator acceptReturn c
      · -- The machine passes over white space in a phase of its own, the reading does not.
        rw [Phase.ofLookahead_of_separator separates, ← Place.read_skip]
        rw [← next] at stands
        refine yields_whitespace stands groups (ih _ ?_ _ rfl)
        change (place.rest.dropWhile _).length < _
        rw [next, List.dropWhile_cons_of_pos separates]
        exact Nat.lt_succ_of_le (List.dropWhile_suffix _).length_le
      · have other : isSeparator acceptReturn c = false := Bool.eq_false_iff.mpr separates
        have same : place.skip (isSeparator acceptReturn) = place := by
          refine Place.skip_of_stops _ fun d found => ?_
          rw [next] at found
          cases found
          exact other
        rw [Place.read_of_cons (same.symm ▸ next), same]
        apply completes_construct other stands groups (Place.read acceptReturn)
        intro behind taken
        refine ih _ ?_ _ rfl
        rw [next]
        exact Nat.lt_succ_of_le (Place.construct_reaches taken).length_le

/-- A machine at the start of a source follows the reading of what the source holds. -/
theorem yields_read (limits : ScanLimits) (acceptReturn : Bool) (source : CharSource) :
    Yields limits (.initial acceptReturn) (.ofSource source)
      ((Place.read acceptReturn ⟨source.contents.chars, .start, []⟩).Follows limits
        source.contents.fault) :=
  resumes_read _ (Intake.stands_ofSource source) .nil

end GrammarLex
