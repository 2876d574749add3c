import GrammarLex.Proofs.Scan.Intake
import GrammarLex.Scan.Handlers

/-!
# Where handlers lead

The rules of the intake carry over to scans, on which handlers work: the open constructs stay as they
are unless a handler opens or drops one. Handlers that are shared by several constructs have a rule
of their own.
-/
namespace GrammarLex.Scan

variable {α : Type} {limits : ScanLimits} {r : Intake} {nesting : Nesting} {fault : Option DecodeError}
  {c : Char} {chars lexeme : List Char} {p start : Position} {failed : ScanError → Prop}

theorem leads_onIntake {action : Intake.Action α} {done : α → Scan → Prop}
    (leads : Leads action r (fun a r' => done a ⟨r', nesting⟩) failed) :
    Leads (onIntake action) ⟨r, nesting⟩ done failed := by
  unfold Leads at leads ⊢
  simp only [onIntake]
  cases result : action r <;> rw [result] at leads <;> exact leads

/-- A handler goes on from where the intake leads. -/
theorem leads_bind_onIntake {β : Type} {action : Intake.Action α} {f : α → Scan.Action β}
    {done : β → Scan → Prop}
    (leads : Leads action r (fun a r' => Leads (f a) ⟨r', nesting⟩ done failed) failed) :
    Leads (onIntake action >>= f) ⟨r, nesting⟩ done failed :=
  leads_bind.mpr (leads_onIntake leads)

@[simp] theorem leads_top {done : Option Frame → Scan → Prop} :
    Leads top? ⟨r, nesting⟩ done failed ↔ done nesting.top? ⟨r, nesting⟩ := Iff.rfl

@[simp] theorem leads_popFrame {done : Unit → Scan → Prop} :
    Leads popFrame ⟨r, nesting⟩ done failed ↔ done () ⟨r, nesting.pop⟩ := Iff.rfl

theorem leads_position {done : Position → Scan → Prop}
    (stands : r.Stands ⟨chars, fault⟩ p lexeme start) (holds : done p ⟨r, nesting⟩) :
    Leads position ⟨r, nesting⟩ done failed := by
  change done r.position _
  rw [stands.position_eq]
  exact holds

theorem leads_emit {kind : TokenKind} {done : Token → Scan → Prop}
    (stands : r.Stands ⟨chars, fault⟩ p lexeme start)
    (emitted : ∀ r', r'.Stands ⟨chars, fault⟩ p [] p →
      done (.ofPosition (String.ofList lexeme) kind start) ⟨r', nesting⟩) :
    Leads (emit kind) ⟨r, nesting⟩ done failed := by
  apply leads_bind.mpr
  apply leads_get.mpr
  apply leads_bind_onIntake
  apply Intake.leads_takeLexeme stands
  intro r' stands'
  change done (.ofPosition _ kind r.tokenStart) _
  rw [stands.start_eq]
  exact emitted r' stands'

/-- The expected character is collected. -/
theorem leads_expect_found {words : String} {done : Unit → Scan → Prop}
    (stands : r.Stands ⟨c :: chars, fault⟩ p lexeme start) (room : lexeme.length ≤ limits.maxLexeme)
    (collected : ∀ r', (lexeme ++ [c]).length ≤ limits.maxLexeme →
      r'.Stands ⟨chars, fault⟩ (p.advance c) (lexeme ++ [c]) start → done () ⟨r', nesting⟩)
    (full : limits.maxLexeme = lexeme.length →
      failed (.lexemeTooLong (limits.maxLexeme + 1) start)) :
    Leads (expect limits c words) ⟨r, nesting⟩ done failed := by
  apply leads_bind.mpr
  apply leads_position stands
  apply leads_bind_onIntake
  apply Intake.leads_peek_cons stands
  intro r' stands'
  rw [if_pos rfl]
  apply leads_bind_onIntake
  exact Intake.leads_bump stands' room collected full

/-- What is there instead of the expected character is refused. -/
theorem leads_expect_other {words : String} {done : Unit → Scan → Prop}
    (stands : r.Stands ⟨chars, fault⟩ p lexeme start) (other : chars.head? ≠ some c)
    (refused : (chars = [] → fault = none) →
      failed (.unexpected (.ofNext chars.head?) words p))
    (broken : ∀ e, chars = [] → fault = some e → failed (Intake.decodeError e p)) :
    Leads (expect limits c words) ⟨r, nesting⟩ done failed := by
  apply leads_bind.mpr
  apply leads_position stands
  apply leads_bind_onIntake
  refine Intake.leads_peek stands ?_ broken
  intro r' whole _
  rw [if_neg other]
  exact refused whole

/-- The expected character is collected, or what is there instead is refused. -/
theorem leads_expect {words : String} {done : Unit → Scan → Prop}
    (stands : r.Stands ⟨chars, fault⟩ p lexeme start) (room : lexeme.length ≤ limits.maxLexeme)
    (collected : ∀ rest r', chars = c :: rest → (lexeme ++ [c]).length ≤ limits.maxLexeme →
      r'.Stands ⟨rest, fault⟩ (p.advance c) (lexeme ++ [c]) start → done () ⟨r', nesting⟩)
    (refused : chars.head? ≠ some c → (chars = [] → fault = none) →
      failed (.unexpected (.ofNext chars.head?) words p))
    (full : limits.maxLexeme = lexeme.length →
      failed (.lexemeTooLong (limits.maxLexeme + 1) start))
    (broken : ∀ e, chars = [] → fault = some e → failed (Intake.decodeError e p)) :
    Leads (expect limits c words) ⟨r, nesting⟩ done failed := by
  by_cases found : chars.head? = some c
  · obtain ⟨rest, rfl⟩ := List.head?_eq_some_iff.mp found
    exact leads_expect_found stands room (fun r' => collected rest r' rfl) full
  · exact leads_expect_other stands found (refused found) broken

theorem leads_expect_cons {words : String} {done : Unit → Scan → Prop}
    (stands : r.Stands ⟨c :: chars, fault⟩ p [] start)
    (collected : ∀ r', [c].length ≤ limits.maxLexeme →
      r'.Stands ⟨chars, fault⟩ (p.advance c) [c] start → done () ⟨r', nesting⟩)
    (full : limits.maxLexeme = 0 → failed (.lexemeTooLong (limits.maxLexeme + 1) start)) :
    Leads (expect limits c words) ⟨r, nesting⟩ done failed :=
  leads_expect_found stands (Nat.zero_le _) collected full

/-- The next character, whatever it is, is collected. -/
theorem leads_expectAny {words : String} {done : Char → Scan → Prop}
    (stands : r.Stands ⟨c :: chars, fault⟩ p [] start)
    (collected : ∀ r', [c].length ≤ limits.maxLexeme →
      r'.Stands ⟨chars, fault⟩ (p.advance c) [c] start → done c ⟨r', nesting⟩)
    (full : limits.maxLexeme = 0 → failed (.lexemeTooLong (limits.maxLexeme + 1) start)) :
    Leads (expectAny limits words) ⟨r, nesting⟩ done failed := by
  apply leads_bind.mpr
  apply leads_position stands
  apply leads_bind_onIntake
  exact Intake.leads_bump stands (Nat.zero_le _) collected full

/-- A construct is opened, unless too many are open. -/
theorem leads_open {opener : Char} {kind : FrameKind} {q : Position} {done : Unit → Scan → Prop}
    (known : FrameKind.ofOpener? opener = some kind)
    (opened : nesting.depth + 1 ≤ limits.maxDepth → ∀ deepest,
      done () ⟨r, ⟨⟨closerOf opener, kind, q⟩ :: nesting.frames, deepest⟩⟩)
    (tooDeep : limits.maxDepth < nesting.depth + 1 →
      failed (.nestedTooDeep (nesting.depth + 1) q)) :
    Leads (renest (·.openWith limits opener q)) ⟨r, nesting⟩ done failed := by
  unfold Leads
  simp only [renest, Nesting.openWith, known, Nesting.push]
  by_cases room : nesting.depth ≥ limits.maxDepth
  · rw [if_pos room]
    exact tooDeep (Nat.lt_succ_of_le room)
  · rw [if_neg room]
    exact opened (Nat.lt_of_not_le room) _

/-- The closer of the innermost construct is taken if it is there. -/
theorem leads_closeInnermost {frame : Frame} {frames : List Frame} {deepest : Nat}
    {done : Unit → Scan → Prop} (stands : r.Stands ⟨chars, fault⟩ p [] start)
    (closes : ∀ d, chars.head? = some d → d = frame.closer)
    (closed : ∀ r' lexeme, r'.Stands ⟨chars.drop 1, fault⟩ (p.advanceBy (chars.take 1)) lexeme start →
      done () ⟨r', ⟨frames, deepest⟩⟩)
    (full : limits.maxLexeme = 0 → failed (.lexemeTooLong (limits.maxLexeme + 1) start))
    (broken : ∀ e, chars = [] → fault = some e → failed (Intake.decodeError e p)) :
    Leads (closeInnermost limits) ⟨r, ⟨frame :: frames, deepest⟩⟩ done failed := by
  apply leads_bind.mpr
  apply leads_top.mpr
  apply leads_bind.mpr
  apply leads_popFrame.mpr
  apply leads_bind_onIntake
  refine Intake.leads_peek stands ?_ broken
  intro r' _ stands'
  rcases chars with _ | ⟨d, chars⟩
  · exact closed r' [] stands'
  · have found : (d :: chars).head? = some frame.closer := congrArg some (closes d rfl)
    rw [if_pos found]
    apply leads_bind_onIntake
    refine Intake.leads_bump stands' (Nat.zero_le _) ?_ full
    intro r'' _ stands''
    exact closed r'' [d] stands''

end GrammarLex.Scan
