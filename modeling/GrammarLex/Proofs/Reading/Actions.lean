import GrammarLex.Proofs.Reading.Follows

/-!
# Handlers follow actions

An action is scanned by four phases. The phase of the arguments repeats itself, once for each
argument, as the reading of the arguments does.
-/
namespace GrammarLex

open Machine

variable {limits : ScanLimits} {acceptReturn : Bool} {fault : Option DecodeError} {place : Place}
  {c : Char} {chars rest : List Char} {r : Intake} {frame : Frame} {frames : List Frame}
  {deepest : Nat} {failed : ScanError → Prop}

/-! ### The end of an action -/

/-- The brace is taken if it is there; the end of the text will do as well. -/
private theorem leads_closingBrace {nesting : Nesting} {p start : Position}
    {done : Unit → Scan → Prop} (stands : r.Stands ⟨chars, fault⟩ p [] start)
    (missing : ∀ r', chars = [] → r'.Stands ⟨[], fault⟩ p [] start → done () ⟨r', nesting⟩)
    (found : ∀ rest r', chars = '\x7d' :: rest →
      r'.Stands ⟨rest, fault⟩ (p.advance '\x7d') ['\x7d'] start → done () ⟨r', nesting⟩)
    (refused : ∀ d rest, chars = d :: rest → d ≠ '\x7d' →
      failed (.unexpected (.char d) "'\x7d'" p))
    (full : limits.maxLexeme = 0 → failed (.lexemeTooLong (limits.maxLexeme + 1) start))
    (broken : ∀ e, chars = [] → fault = some e → failed (Intake.decodeError e p)) :
    Leads (Scan.closingBrace limits) ⟨r, nesting⟩ done failed := by
  apply Scan.leads_bind_onIntake
  refine Intake.leads_peek stands ?_ broken
  intro r₁ _ stands₁
  -- At the end of the text the brace may be missing.
  rcases chars with _ | ⟨d, chars⟩
  · exact missing r₁ rfl stands₁
  · by_cases brace : d = '\x7d'
    · subst brace
      apply Scan.leads_bind_onIntake
      refine Intake.leads_bump stands₁ (Nat.zero_le _) ?_ full
      intro r₂ _ stands₂
      exact found chars r₂ rfl stands₂
    · simp only [List.head?_cons]
      exact leads_bind.mpr (Scan.leads_position stands₁ (refused d chars rfl brace))

private theorem completes_actionEnd
    (stands : r.Stands ⟨place.rest, fault⟩ place.position [] place.position)
    (groups : Groups frames place.closers) :
    Completes limits acceptReturn fault .actionClose ⟨frame :: frames, deepest⟩ r
      (place.actionEnd acceptReturn) := by
  intro behind resumes
  have closed : Groups (Nesting.pop ⟨frame :: frames, deepest⟩).frames place.closers := groups
  apply yields_of_handler
  apply Scan.leads_bind_onIntake
  apply Intake.leads_skipWhile stands
  · intro _ r₁ _ stands₁
    apply leads_bind.mpr
    apply leads_closingBrace stands₁
    · intro r₂ ended stands₂
      have none : (place.skip (isSeparator acceptReturn)).rest = [] := ended
      simp only [Place.actionEnd, none] at resumes ⊢
      apply leads_bind.mpr
      apply Scan.leads_popFrame.mpr
      apply Scan.leads_bind_onIntake
      apply Intake.leads_clear stands₂
      intro r₃ stands₃
      rw [← none] at stands₃
      exact continues_silent (by decide) (resumes _ rfl stands₃ closed)
    · intro rest r₂ found stands₂
      have brace : (place.skip (isSeparator acceptReturn)).rest = '\x7d' :: rest := found
      simp only [Place.actionEnd, brace, if_true] at resumes ⊢
      apply leads_bind.mpr
      apply Scan.leads_popFrame.mpr
      apply Scan.leads_bind_onIntake
      apply Intake.leads_clear stands₂
      intro r₃ stands₃
      exact continues_silent (by decide) (resumes _ rfl stands₃ closed)
    · intro d rest found other
      have next : (place.skip (isSeparator acceptReturn)).rest = d :: rest := found
      simp only [Place.actionEnd, next, if_neg other] at resumes ⊢
      exact .stopped .refused
    · exact fun none => .stopped (.noRoom none)
    · exact fun e _ found => .stopped (.broken found)
  · exact fun e _ found => .stopped (.broken found)

/-! ### Arguments -/

private theorem leads_actionArgs {nesting : Nesting} {here : Place}
    {done : Scan.Outcome → Scan → Prop}
    (skipped : place.skip (Place.isArgumentSeparator acceptReturn) = here)
    (stands : r.Stands ⟨place.rest, fault⟩ place.position [] place.position)
    (ended : here.rest = [] → failed (.unexpected .endOfInput "')'" here.position))
    (closed : ∀ rest r', here.rest = ')' :: rest →
      r'.Stands ⟨rest, fault⟩ (here.position.advance ')') [] (here.position.advance ')') →
      done (.actionClose, none) ⟨r', nesting⟩)
    (collected : ∀ c rest r', here.rest = c :: rest → c ≠ ')' →
      (c :: rest.takeWhile (Place.isArgumentChar acceptReturn)).length ≤ limits.maxLexeme →
      r'.Stands ⟨rest.dropWhile (Place.isArgumentChar acceptReturn), fault⟩
        (here.position.advanceBy (c :: rest.takeWhile (Place.isArgumentChar acceptReturn))) []
        (here.position.advanceBy (c :: rest.takeWhile (Place.isArgumentChar acceptReturn))) →
      done (.actionArgs, some (.ofPosition
        (String.ofList (c :: rest.takeWhile (Place.isArgumentChar acceptReturn))) .actionArg
        here.position)) ⟨r', nesting⟩)
    (full : limits.maxLexeme = 0 → failed (.lexemeTooLong (limits.maxLexeme + 1) here.position))
    (tooLong : ∀ c rest, here.rest = c :: rest → c ≠ ')' →
      limits.maxLexeme < (c :: rest.takeWhile (Place.isArgumentChar acceptReturn)).length →
      failed (.lexemeTooLong (limits.maxLexeme + 1) here.position))
    (broken : ∀ e p, fault = some e → failed (Intake.decodeError e p)) :
    Leads (Scan.actionArgs limits acceptReturn) ⟨r, nesting⟩ done failed := by
  have starts : ∀ c rest, here.rest = c :: rest → c ≠ ')' →
      Place.isArgumentChar acceptReturn c = true := by
    intro c rest next other
    rw [← skipped] at next
    exact Place.isArgumentChar_of_next _ next other
  apply Scan.leads_bind_onIntake
  apply Intake.leads_skipWhile stands
  · intro _ r₁ _ stands₁
    have stood : r₁.Stands ⟨here.rest, fault⟩ here.position [] place.position := skipped ▸ stands₁
    apply Scan.leads_bind_onIntake
    apply Intake.leads_clear stood
    intro r₂ stands₂
    apply Scan.leads_bind_onIntake
    apply Intake.leads_peek stands₂
    · intro r₃ _ stands₃
      obtain ⟨chars, position, closers⟩ := here
      rcases chars with _ | ⟨c, rest⟩
      · exact leads_bind.mpr (Scan.leads_position stands₃ (ended rfl))
      · by_cases round : c = ')'
        · subst round
          apply Scan.leads_bind_onIntake
          refine Intake.leads_bump stands₃ (Nat.zero_le _) ?_ full
          intro r₄ _ stands₄
          apply Scan.leads_bind_onIntake
          apply Intake.leads_clear stands₄
          exact fun r₅ stands₅ => closed rest r₅ rfl stands₅
        · have starts := starts c rest rfl round
          have whole : (c :: rest).takeWhile (Place.isArgumentChar acceptReturn) =
            c :: rest.takeWhile (Place.isArgumentChar acceptReturn) :=
              List.takeWhile_cons_of_pos starts
          have left : (c :: rest).dropWhile (Place.isArgumentChar acceptReturn) =
            rest.dropWhile (Place.isArgumentChar acceptReturn) := List.dropWhile_cons_of_pos starts
          simp only [List.head?_cons]
          apply Scan.leads_bind_onIntake
          apply Intake.leads_bumpWhile stands₃
          · intro _ r₄ room _ stands₄
            have room' := whole ▸ room
            have stands' : r₄.Stands ⟨rest.dropWhile (Place.isArgumentChar acceptReturn), fault⟩
                (position.advanceBy (c :: rest.takeWhile (Place.isArgumentChar acceptReturn)))
                (c :: rest.takeWhile (Place.isArgumentChar acceptReturn)) position :=
              left ▸ whole ▸ stands₄
            apply leads_bind.mpr
            apply Scan.leads_emit stands'
            exact fun r₅ stands₅ => collected c rest r₅ rfl round room' stands₅
          · exact fun long => tooLong c rest rfl round (whole ▸ long)
          · exact fun e _ _ => broken e _
    · exact fun e _ => broken e _
  · exact fun e _ => broken e _

private theorem completes_arguments (shallow : place.closers.length + 1 ≤ limits.maxDepth)
    (stands : r.Stands ⟨place.rest, fault⟩ place.position [] place.position)
    (groups : Groups frames place.closers) :
    Completes limits acceptReturn fault .actionArgs ⟨frame :: frames, deepest⟩ r
      (place.arguments acceptReturn) := by
  -- Each argument is one turn of the phase.
  fun_induction Place.arguments acceptReturn place generalizing r with
  | case1 place here =>
    rename_i found
    intro behind resumes
    apply yields_of_handler
    apply leads_actionArgs rfl stands
    · exact fun _ => .stopped .refused
    · intro rest r' next
      cases found.symm.trans next
    · intro c rest r' next
      cases found.symm.trans next
    · exact fun none => .stopped (.noRoom none)
    · intro c rest next
      cases found.symm.trans next
    · exact fun e p broken => .stopped (.broken broken)
  | case2 place here rest =>
    rename_i found
    intro behind resumes
    apply yields_of_handler
    apply leads_actionArgs rfl stands
    · intro next
      cases found.symm.trans next
    · intro rest r' next stands'
      cases found.symm.trans next
      have ends : Completes limits acceptReturn fault .actionClose ⟨frame :: frames, deepest⟩ r'
          ((here.behind ')' rest).actionEnd acceptReturn) := completes_actionEnd stands' groups
      exact continues_silent (by decide) (ends behind resumes)
    · intro c rest r' next other
      cases found.symm.trans next
      exact absurd rfl other
    · exact fun none => .stopped (.noRoom none)
    · intro c rest next other
      cases found.symm.trans next
      exact absurd rfl other
    · exact fun e p broken => .stopped (.broken broken)
  | case3 place here c rest found other argument next =>
    rename_i ih
    intro behind resumes
    rw [Construct.followedBy_cons]
    apply yields_of_handler
    apply leads_actionArgs rfl stands
    · intro next
      cases found.symm.trans next
    · intro rest r' next
      cases found.symm.trans next
      exact absurd rfl other
    · intro d rest' r' same _ room stands'
      cases found.symm.trans same
      exact continues_token (Piece.fits_of_lexeme room shallow) rfl
        (ih shallow stands' groups behind resumes)
    · exact fun none => .stopped (.noRoom none)
    · intro d rest' same _ long
      cases found.symm.trans same
      exact .stopped (.tooLong long)
    · exact fun e p broken => .stopped (.broken broken)

/-! ### Names -/

theorem length_trimEnd_le (text : String) : (Unicode.trimEnd text).length ≤ text.length := by
  unfold Unicode.trimEnd
  rw [String.length_ofList, List.length_reverse, ← String.length_toList, ← text.toList.length_reverse]
  exact (List.dropWhile_suffix _).length_le

private theorem leads_actionName {nesting : Nesting} {here there : Place}
    {done : Scan.Outcome → Scan → Prop} (skipped : place.skip (isSeparator acceptReturn) = here)
    (passed : here.skip Place.isNameChar = there)
    (stands : r.Stands ⟨place.rest, fault⟩ place.position [] place.position)
    (named : ∀ rest r', there.rest = '(' :: rest →
      (Unicode.trimEnd (String.ofList (here.rest.takeWhile Place.isNameChar))).isEmpty = false →
      (here.rest.takeWhile Place.isNameChar).length ≤ limits.maxLexeme →
      r'.Stands ⟨rest, fault⟩ (there.position.advance '(') [] (there.position.advance '(') →
      done (.actionArgs, some (.ofPosition
        (Unicode.trimEnd (String.ofList (here.rest.takeWhile Place.isNameChar))) .action
        here.position)) ⟨r', nesting⟩)
    (nameless : ∀ rest, there.rest = '(' :: rest →
      (Unicode.trimEnd (String.ofList (here.rest.takeWhile Place.isNameChar))).isEmpty = true →
      failed (.unexpected (.char '(') "action name" there.position))
    (refused : there.rest.head? ≠ some '(' →
      failed (.unexpected (.ofNext there.rest.head?) "'('" there.position))
    (full : ∀ p, limits.maxLexeme = 0 → failed (.lexemeTooLong (limits.maxLexeme + 1) p))
    (tooLong : limits.maxLexeme < (here.rest.takeWhile Place.isNameChar).length →
      failed (.lexemeTooLong (limits.maxLexeme + 1) here.position))
    (broken : ∀ e p, fault = some e → failed (Intake.decodeError e p)) :
    Leads (Scan.actionName limits acceptReturn) ⟨r, nesting⟩ done failed := by
  apply Scan.leads_bind_onIntake
  apply Intake.leads_skipWhile stands
  · intro _ r₁ _ stands₁
    have stood : r₁.Stands ⟨here.rest, fault⟩ here.position [] place.position := skipped ▸ stands₁
    apply Scan.leads_bind_onIntake
    apply Intake.leads_clear stood
    intro r₂ stands₂
    apply Scan.leads_bind_onIntake
    refine Intake.leads_bumpWhile stands₂ ?_ tooLong ?_
    · intro _ r₃ room _ stands₃
      have stood : r₃.Stands ⟨there.rest, fault⟩ there.position
          (here.rest.takeWhile Place.isNameChar) here.position := passed ▸ stands₃
      apply leads_bind.mpr
      apply Scan.leads_position stood
      apply Scan.leads_bind_onIntake
      apply Intake.leads_peek stood
      · intro r₄ _ stands₄
        obtain ⟨chars, position, closers⟩ := there
        by_cases round : chars.head? = some '('
        · obtain ⟨rest, rfl⟩ := List.head?_eq_some_iff.mp round
          apply leads_bind.mpr
          apply leads_get.mpr
          simp only [stands₄.start_eq]
          apply Scan.leads_bind_onIntake
          apply Intake.leads_takeLexeme stands₄
          intro r₅ stands₅
          -- The name may be nothing but white space.
          cases empty : (Unicode.trimEnd
              (String.ofList (here.rest.takeWhile Place.isNameChar))).isEmpty with
          | true => exact nameless rest rfl empty
          | false =>
            apply Scan.leads_bind_onIntake
            refine Intake.leads_bump stands₅ (Nat.zero_le _) ?_ fun none => full _ none
            intro r₆ _ stands₆
            apply Scan.leads_bind_onIntake
            apply Intake.leads_clear stands₆
            exact fun r₇ stands₇ => named rest r₇ rfl empty room stands₇
        · simp only
          exact refused round
      · exact fun e _ => broken e _
    · exact fun e _ _ => broken e _
  · exact fun e _ => broken e _

/-- A limit met by the name, or by the action as a whole, stops the machine in front of the action. -/
private theorem action_stops {e : ScanError} {behind : Place → Reading}
    (exceeds : e.exceedsLimit = true)
    (meets : ∀ token reading, (Reading.cons ⟨token,
      ((place.behind '\x7b' rest).skip (isSeparator acceptReturn)).rest.takeWhile Place.isNameChar,
      place.closers.length + 1⟩ reading).Stops limits fault e) :
    ((place.action acceptReturn rest).followedBy behind).Stops limits fault e := by
  simp only [Place.action]
  split
  · split
    · exact .unread exceeds
    · rw [Construct.followedBy_cons]
      exact meets _ _
  · exact .unread exceeds

private theorem completes_actionName (shallow : place.closers.length + 1 ≤ limits.maxDepth)
    (stands : r.Stands ⟨rest, fault⟩ (place.position.advance '\x7b') []
      (place.position.advance '\x7b'))
    (groups : Groups frames place.closers) :
    Completes limits acceptReturn fault .actionName ⟨frame :: frames, deepest⟩ r
      (place.action acceptReturn rest) := by
  intro behind resumes
  have stood : r.Stands ⟨(place.behind '\x7b' rest).rest, fault⟩
      (place.behind '\x7b' rest).position [] (place.behind '\x7b' rest).position := stands
  apply yields_of_handler
  apply leads_actionName rfl rfl stood
  · intro inner r₁ left named room stands₁
    simp only [Place.action, left, named, Bool.false_eq_true, if_false,
      Construct.followedBy_cons] at resumes ⊢
    have short := Nat.le_trans (length_trimEnd_le _)
      (Nat.le_trans (Nat.le_of_eq String.length_ofList) room)
    have arguments : Completes limits acceptReturn fault .actionArgs ⟨frame :: frames, deepest⟩ r₁
        (((((place.behind '\x7b' rest).skip (isSeparator acceptReturn)).skip
          Place.isNameChar).behind '(' inner).arguments acceptReturn) :=
      completes_arguments shallow stands₁ groups
    exact continues_token ⟨short, room, shallow⟩ rfl (arguments behind resumes)
  · intro inner left nameless
    simp only [Place.action, left, nameless]
    exact .stopped .refused
  · intro other
    simp only [Place.action]
    split
    next left => rw [left] at other; exact absurd rfl other
    next => exact .stopped .refused
  · exact fun _ none => .stopped (.noRoom none)
  · exact fun long => .stopped (action_stops rfl fun _ _ => .tooLong long)
  · exact fun e p found => .stopped (.broken found)

/-- The handlers of an action follow it. -/
theorem completes_action {nesting : Nesting}
    (stands : r.Stands ⟨'\x7b' :: rest, fault⟩ place.position [] place.position)
    (groups : Groups nesting.frames place.closers) :
    Completes limits acceptReturn fault .actionOpen nesting r (place.action acceptReturn rest) := by
  intro behind resumes
  apply yields_of_handler
  apply leads_bind.mpr
  apply Scan.leads_position stands
  apply leads_bind.mpr
  apply Scan.leads_expect_cons stands
  · intro r₁ _ stands₁
    apply leads_bind.mpr
    apply Scan.leads_open rfl
    · intro shallow deepest
      rw [Nesting.depth, groups.length_eq] at shallow
      apply Scan.leads_bind_onIntake
      apply Intake.leads_clear stands₁
      intro r₂ stands₂
      exact continues_silent (by decide) (completes_actionName shallow stands₂ groups behind resumes)
    · intro deep
      rw [Nesting.depth, groups.length_eq] at deep
      exact .stopped (action_stops rfl fun _ _ => .tooDeep deep)
  · exact fun none => .stopped (.noRoom none)

end GrammarLex
