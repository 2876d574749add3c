import GrammarLex.Proofs.Scan.Walk

/-!
# What handlers do in front of something else

A handler looks at no more than one character behind what it takes. So it takes the same characters
and leads to the same place if something else follows that starts with the same character, and
also if white space follows, provided that it would not have taken white space as well.
-/
namespace GrammarLex

/-- What may follow behind a stride instead of what follows there. -/
inductive Stride.Replaces (acceptReturn : Bool) (phase : Phase) (stride : Stride)
    (rest' : List Char) : Prop
  | same (head_eq : rest'.head? = stride.rest.head?)
  -- The handlers left out take white space, or take it at the end of the text.
  | space {c : Char} (took : stride.used ≠ []) (head_eq : rest'.head? = some c)
      (separates : isSeparator acceptReturn c = true)
      (other : phase ≠ .whitespace ∧ phase ≠ .scanEnclosed)
      (braced : phase = .actionClose → stride.counted ≠ 0)

/-- A handler does the same in front of another rest. -/
def Stride.Repeats (handler : List Char → Stride) (chars rest' : List Char) : Prop :=
  handler ((handler chars).used ++ rest') = { handler chars with rest := rest' }

namespace Stride

variable {acceptReturn : Bool} {phase : Phase} {stride : Stride} {handler : List Char → Stride}
  {chars front rest rest' : List Char} {keep : Char → Bool} {c : Char} {landing : Landing}

@[simp] theorem facing_none : facing none stride = stride := facing_of_whole fun _ => rfl

theorem Repeats.of_eq (stride_eq : handler chars = stride)
    (again : handler (stride.used ++ rest') = { stride with rest := rest' }) :
    Repeats handler chars rest' := by
  subst stride_eq
  exact again

/-- In front of what it leaves a handler does what it has done. -/
theorem Repeats.of_whole (whole : (handler chars).used ++ (handler chars).rest = chars)
    (same : rest' = (handler chars).rest) : Repeats handler chars rest' := by
  rw [Repeats, same, whole]

/-- What is not kept stops a run of characters, and so does the character that has stopped it. -/
theorem takeWhile_append (halts : ∀ {c}, rest'.head? = some c → keep c = true →
    (chars.dropWhile keep).head? = some c) :
    (chars.takeWhile keep ++ rest').takeWhile keep = chars.takeWhile keep ∧
      (chars.takeWhile keep ++ rest').dropWhile keep = rest' := by
  have kept : ∀ c ∈ chars.takeWhile keep, keep c = true := fun c => List.mem_takeWhile_imp
  have stops : rest'.takeWhile keep = [] ∧ rest'.dropWhile keep = rest' := by
    cases rest' with
    | nil => exact ⟨rfl, rfl⟩
    | cons c rest' =>
      have lost : ¬ keep c = true := by
        intro keeps
        have head := halts rfl keeps
        have none := List.head?_dropWhile_not keep chars
        rw [head] at none
        simp [keeps] at none
      exact ⟨List.takeWhile_cons_of_neg lost, List.dropWhile_cons_of_neg lost⟩
  rw [List.takeWhile_append_of_pos kept, List.dropWhile_append_of_pos kept, stops.1, stops.2]
  simp

theorem takeWhile_append_of_head (head_eq : rest'.head? = (chars.dropWhile keep).head?) :
    (chars.takeWhile keep ++ rest').takeWhile keep = chars.takeWhile keep ∧
      (chars.takeWhile keep ++ rest').dropWhile keep = rest' :=
  takeWhile_append fun head _ => head_eq.symm.trans head

namespace Replaces

/-- What would not take white space stops where it has stopped. -/
theorem halts (replaces : stride.Replaces acceptReturn phase rest')
    (stops : isSeparator acceptReturn c = true → keep c = false) (head : rest'.head? = some c)
    (keeps : keep c = true) : stride.rest.head? = some c := by
  cases replaces with
  | same head_eq => rw [← head_eq, head]
  | @space c' took head_eq separates =>
    obtain rfl : c' = c := Option.some.inj (head_eq.symm.trans head)
    cases (stops separates).symm.trans keeps

theorem head_ne (replaces : stride.Replaces acceptReturn phase rest')
    (other : stride.rest.head? ≠ some c) (stops : isSeparator acceptReturn c = false) :
    rest'.head? ≠ some c := by
  intro head
  have keeps : (· == c) c = true := beq_self_eq_true c
  refine other (replaces.halts ?_ head keeps)
  intro separates
  cases stops.symm.trans separates

theorem head_eq (replaces : stride.Replaces acceptReturn phase rest') (untaken : stride.used = []) :
    rest'.head? = stride.rest.head? := by
  cases replaces with
  | same head_eq => exact head_eq
  | space took => exact absurd untaken took

theorem eq_cons (replaces : stride.Replaces acceptReturn phase rest') (untaken : stride.used = [])
    (left : stride.rest = c :: rest) : ∃ rest'', rest' = c :: rest'' := by
  have head_eq := replaces.head_eq untaken
  rw [left] at head_eq
  exact List.head?_eq_some_iff.mp head_eq

theorem eq_nil (replaces : stride.Replaces acceptReturn phase rest') (untaken : stride.used = [])
    (left : stride.rest = []) : rest' = [] := by
  have head_eq := replaces.head_eq untaken
  rw [left] at head_eq
  exact List.head?_eq_none_iff.mp head_eq

end Replaces

end Stride

section

open Stride

variable {acceptReturn : Bool} {phase : Phase} {top : Option (FrameKind × Char)}
  {chars rest rest' : List Char} {c : Char} {landing : Landing}

private theorem isSeparator_bang : isSeparator acceptReturn '!' = false := by
  simp [isSeparator]

private theorem isSeparator_dot : isSeparator acceptReturn '.' = false := by
  simp [isSeparator]

private theorem exclamation_repeats (replaces :
    (Phase.stride acceptReturn none top .endOfRule (c :: rest)).Replaces acceptReturn phase rest') :
    Repeats (Phase.stride acceptReturn none top .endOfRule) (c :: rest) rest' := by
  have stride_eq (rest : List Char) (other : rest.head? ≠ some '!') :
      Phase.stride acceptReturn none top .endOfRule (c :: rest) = token .not [c] rest := by
    rw [← @facing_none (token .not [c] rest), ← exclamation_of_other other]
    rfl
  by_cases double : rest.head? = some '!'
  · obtain ⟨rest, rfl⟩ := List.head?_eq_some_iff.mp double
    rfl
  · rw [stride_eq rest double] at replaces
    exact .of_eq (stride_eq rest double) (stride_eq rest' (replaces.head_ne double isSeparator_bang))

private theorem productionRule_repeats
    (lands : (Phase.stride acceptReturn none top .productionRuleOp (c :: rest)).landing = .ok landing) :
    Repeats (Phase.stride acceptReturn none top .productionRuleOp) (c :: rest) rest' := by
  change (productionRule none c rest).landing = .ok landing at lands
  by_cases second : rest.head? = some ':'
  · obtain ⟨rest, rfl⟩ := List.head?_eq_some_iff.mp second
    by_cases third : rest.head? = some '='
    · obtain ⟨rest, rfl⟩ := List.head?_eq_some_iff.mp third
      rfl
    · rw [productionRule_of_ne_equals third, facing_none] at lands
      cases lands
  · rw [productionRule_of_ne_colon second, facing_none] at lands
    cases lands

private theorem dots_repeats (replaces :
    (Phase.stride acceptReturn none top .sequence (c :: rest)).Replaces acceptReturn phase rest') :
    Repeats (Phase.stride acceptReturn none top .sequence) (c :: rest) rest' := by
  have single_eq (rest : List Char) (other : rest.head? ≠ some '.') :
      Phase.stride acceptReturn none top .sequence (c :: rest) = token .sequence [c] rest := by
    rw [← @facing_none (token .sequence [c] rest), ← dots_of_other other]
    rfl
  have double_eq (rest : List Char) (other : rest.head? ≠ some '.') :
      Phase.stride acceptReturn none top .sequence (c :: '.' :: rest) =
        token .sequence [c, '.'] rest := by
    rw [← @facing_none (token .sequence [c, '.'] rest), ← dots_of_dot other]
    rfl
  by_cases second : rest.head? = some '.'
  · obtain ⟨rest, rfl⟩ := List.head?_eq_some_iff.mp second
    by_cases third : rest.head? = some '.'
    · obtain ⟨rest, rfl⟩ := List.head?_eq_some_iff.mp third
      rfl
    · rw [double_eq rest third] at replaces
      exact .of_eq (double_eq rest third) (double_eq rest' (replaces.head_ne third isSeparator_dot))
  · rw [single_eq rest second] at replaces
    exact .of_eq (single_eq rest second) (single_eq rest' (replaces.head_ne second isSeparator_dot))

private theorem word_repeats (replaces :
    (Phase.stride acceptReturn none top .bareTerminal (c :: rest)).Replaces acceptReturn phase rest')
    (lands : (Phase.stride acceptReturn none top .bareTerminal (c :: rest)).landing = .ok landing) :
    Repeats (Phase.stride acceptReturn none top .bareTerminal) (c :: rest) rest' := by
  by_cases alphanumeric : Unicode.isAlphanumeric c = true
  · have stride_eq (rest : List Char) : Phase.stride acceptReturn none top .bareTerminal (c :: rest) =
        token .terminalSymbol (c :: rest.takeWhile Unicode.isAlphanumeric)
          (rest.dropWhile Unicode.isAlphanumeric) := by
      change word none c rest = _
      rw [word, if_pos alphanumeric, facing_none]
    rw [stride_eq] at replaces
    obtain ⟨taken, left⟩ := takeWhile_append (replaces.halts not_isAlphanumeric_of_separator)
    apply Repeats.of_eq (stride_eq rest)
    refine (stride_eq (rest.takeWhile Unicode.isAlphanumeric ++ rest')).trans ?_
    rw [taken, left]
    rfl
  · change (word none c rest).landing = _ at lands
    by_cases unseen : (Unicode.isBlank c || Unicode.isControl c) = true
    · rw [word, if_neg alphanumeric, if_pos unseen] at lands
      cases lands
    · have stride_eq (rest : List Char) :
          Phase.stride acceptReturn none top .bareTerminal (c :: rest) =
            token .terminalSymbol [c] rest := by
        change word none c rest = _
        rw [word, if_neg alphanumeric, if_neg unseen]
      exact .of_eq (stride_eq rest) (stride_eq rest')

private theorem groupEnd_repeats (replaces :
    (Phase.stride acceptReturn none top .closeGroup (c :: rest)).Replaces acceptReturn phase rest')
    (lands : (Phase.stride acceptReturn none top .closeGroup (c :: rest)).landing = .ok landing) :
    Repeats (Phase.stride acceptReturn none top .closeGroup) (c :: rest) rest' := by
  have plain (same : ∀ rest, Phase.stride acceptReturn none top .closeGroup (c :: rest) =
      still .bareTerminal (c :: rest)) :
      Repeats (Phase.stride acceptReturn none top .closeGroup) (c :: rest) rest' := by
    rw [same] at replaces
    obtain ⟨rest'', rfl⟩ := replaces.eq_cons rfl rfl
    exact .of_eq (same rest) (same rest'')
  cases top with
  | none => exact plain fun _ => rfl
  | some top =>
    obtain ⟨kind, closer⟩ := top
    by_cases group : kind.isGroup = true
    · by_cases closes : closer = c
      · have stride_eq (rest : List Char) :
            Phase.stride acceptReturn none (some (kind, closer)) .closeGroup (c :: rest) =
              { token (if kind = .bracket then .bracketRight else .parenRight) [c] rest with
                landing := .ok ⟨.dispatch,
                  some (if kind = .bracket then .bracketRight else .parenRight, [c]), .closes⟩ } := by
          change groupEnd (some (kind, closer)) c rest = _
          simp only [groupEnd, group, closes, if_true]
        exact .of_eq (stride_eq rest) (stride_eq rest')
      · change (groupEnd (some (kind, closer)) c rest).landing = _ at lands
        simp only [groupEnd, group, if_true, if_neg closes] at lands
        cases lands
    · apply plain
      intro rest
      change groupEnd (some (kind, closer)) c rest = _
      simp only [groupEnd, if_neg group]

private theorem enclosureEnd_repeats {kind : FrameKind} {closer : Char}
    (replaces : (Phase.stride acceptReturn none (some (kind, closer)) .closeEnclosure
      chars).Replaces acceptReturn phase rest') :
    Repeats (Phase.stride acceptReturn none (some (kind, closer)) .closeEnclosure) chars rest' := by
  cases chars with
  | nil =>
    obtain rfl := replaces.eq_nil rfl rfl
    rfl
  | cons c rest =>
    by_cases closes : c = closer
    · have stride_eq (rest : List Char) :
          Phase.stride acceptReturn none (some (kind, closer)) .closeEnclosure (c :: rest) =
            { body := [c], rest, counted := 1, landing := .ok ⟨.dispatch, none, .closes⟩ } := by
        change enclosureEnd none closer (c :: rest) = _
        rw [enclosureEnd, if_pos closes]
      exact .of_eq (stride_eq rest) (stride_eq rest')
    · have stride_eq (rest : List Char) :
          Phase.stride acceptReturn none (some (kind, closer)) .closeEnclosure (c :: rest) =
            { rest := c :: rest, landing := .ok ⟨.dispatch, none, .closes⟩ } := by
        change enclosureEnd none closer (c :: rest) = _
        rw [enclosureEnd, if_neg closes]
      rw [stride_eq] at replaces
      obtain ⟨rest'', rfl⟩ := replaces.eq_cons rfl rfl
      exact .of_eq (stride_eq rest) (stride_eq rest'')

/-! ### Actions -/

/-- A handler that passes characters first does the same if it does so behind them. -/
private theorem separated_repeats {keep : Char → Bool} {handler : List Char → List Char → Stride}
    {taken : List Char} (behind : chars.dropWhile keep = taken ++ rest) (took : taken ≠ [])
    (used_eq : (handler (chars.takeWhile keep) (taken ++ rest)).used = chars.takeWhile keep ++ taken)
    (again : handler (chars.takeWhile keep) (taken ++ rest') =
      { handler (chars.takeWhile keep) (taken ++ rest) with rest := rest' }) :
    Repeats (fun chars => handler (chars.takeWhile keep) (chars.dropWhile keep)) chars rest' := by
  have head_eq : (taken ++ rest').head? = (chars.dropWhile keep).head? := by
    obtain ⟨c, taken, rfl⟩ := List.exists_cons_of_ne_nil took
    rw [behind]
    rfl
  obtain ⟨passed, left⟩ := takeWhile_append_of_head head_eq
  unfold Repeats
  dsimp only
  rw [behind, used_eq, List.append_assoc, passed, left]
  exact again

private theorem actionName_repeats
    (lands : (Phase.stride acceptReturn none top .actionName chars).landing = .ok landing) :
    Repeats (Phase.stride acceptReturn none top .actionName) chars rest' := by
  change (named none (chars.takeWhile (isSeparator acceptReturn))
    (chars.dropWhile (isSeparator acceptReturn))).landing = _ at lands
  generalize behind_eq : chars.dropWhile (isSeparator acceptReturn) = behind at lands
  by_cases round : (behind.dropWhile Place.isNameChar).head? = some '('
  · obtain ⟨rest, left⟩ := List.head?_eq_some_iff.mp round
    by_cases unnamed : (behind.takeWhile Place.isNameChar).rdropWhile Unicode.isBlank = []
    · simp only [named, left, unnamed, if_true] at lands
      cases lands
    · have whole : behind = (behind.takeWhile Place.isNameChar ++ ['(']) ++ rest := by
        rw [List.append_assoc, List.singleton_append, ← left, List.takeWhile_append_dropWhile]
      have named_eq (front rest : List Char) :
          named none front ((behind.takeWhile Place.isNameChar ++ ['(']) ++ rest) =
            { front, body := behind.takeWhile Place.isNameChar ++ ['('], rest
              counted := (behind.takeWhile Place.isNameChar).length
              landing := .ok { next := .actionArgs
                               token := some (.action,
                                 (behind.takeWhile Place.isNameChar).rdropWhile Unicode.isBlank) } } := by
        have head_eq : ('(' :: rest).head? = (behind.dropWhile Place.isNameChar).head? := by
          rw [left]
          rfl
        obtain ⟨name, left'⟩ := takeWhile_append_of_head head_eq
        rw [List.append_assoc, List.singleton_append]
        simp only [named, name, left', if_neg unnamed]
      change Repeats (fun chars => named none (chars.takeWhile (isSeparator acceptReturn))
        (chars.dropWhile (isSeparator acceptReturn))) chars rest'
      refine separated_repeats (behind_eq.trans whole) (by simp) ?_ ?_
      · rw [named_eq]
        rfl
      · rw [named_eq, named_eq]
  · rw [named_of_other round, facing_none] at lands
    cases lands

private theorem actionArgs_repeats (replaces :
    (Phase.stride acceptReturn none top .actionArgs chars).Replaces acceptReturn phase rest')
    (lands : (Phase.stride acceptReturn none top .actionArgs chars).landing = .ok landing) :
    Repeats (Phase.stride acceptReturn none top .actionArgs) chars rest' := by
  change (argued acceptReturn none (chars.takeWhile (Place.isArgumentSeparator acceptReturn))
    (chars.dropWhile (Place.isArgumentSeparator acceptReturn))).landing = _ at lands
  change (argued acceptReturn none (chars.takeWhile (Place.isArgumentSeparator acceptReturn))
    (chars.dropWhile (Place.isArgumentSeparator acceptReturn))).Replaces _ _ _ at replaces
  change Repeats (fun chars =>
    argued acceptReturn none (chars.takeWhile (Place.isArgumentSeparator acceptReturn))
      (chars.dropWhile (Place.isArgumentSeparator acceptReturn))) chars rest'
  cases behind : chars.dropWhile (Place.isArgumentSeparator acceptReturn) with
  | nil =>
    rw [behind, argued, facing_none] at lands
    cases lands
  | cons c rest =>
    rw [behind] at replaces
    by_cases round : c = ')'
    · subst round
      have whole : chars.dropWhile (Place.isArgumentSeparator acceptReturn) = [')'] ++ rest := behind
      refine separated_repeats whole (by simp) ?_ ?_
      · rfl
      · rfl
    · have next : (({ rest := chars } : Place).skip
          (Place.isArgumentSeparator acceptReturn)).rest = c :: rest := behind
      have kept : Place.isArgumentChar acceptReturn c = true :=
        Place.isArgumentChar_of_next _ next round
      have whole : chars.dropWhile (Place.isArgumentSeparator acceptReturn) =
          (c :: rest).takeWhile (Place.isArgumentChar acceptReturn) ++
            (c :: rest).dropWhile (Place.isArgumentChar acceptReturn) := by
        rw [behind, List.takeWhile_append_dropWhile]
      have head_eq : (c :: rest).takeWhile (Place.isArgumentChar acceptReturn) =
          c :: rest.takeWhile (Place.isArgumentChar acceptReturn) := List.takeWhile_cons_of_pos kept
      rw [argued_of_other round, facing_none] at replaces
      -- White space ends an argument just as what stood there before did.
      obtain ⟨argument, left⟩ := takeWhile_append (replaces.halts (by
        intro separates
        simp [Place.isArgumentChar, separates]))
      refine separated_repeats whole (by simp [head_eq]) ?_ ?_
      · rw [List.takeWhile_append_dropWhile, argued_of_other round, facing_none]
        rfl
      · rw [List.takeWhile_append_dropWhile, argued_of_other round, facing_none]
        rw [head_eq, List.cons_append] at argument left ⊢
        rw [argued_of_other round, facing_none, argument, left]

private theorem actionEnd_repeats (replaces :
    (Phase.stride acceptReturn none top .actionClose chars).Replaces acceptReturn .actionClose rest')
    (lands : (Phase.stride acceptReturn none top .actionClose chars).landing = .ok landing) :
    Repeats (Phase.stride acceptReturn none top .actionClose) chars rest' := by
  change (braced none (chars.takeWhile (isSeparator acceptReturn))
    (chars.dropWhile (isSeparator acceptReturn))).landing = _ at lands
  change (braced none (chars.takeWhile (isSeparator acceptReturn))
    (chars.dropWhile (isSeparator acceptReturn))).Replaces _ _ _ at replaces
  change Repeats (fun chars => braced none (chars.takeWhile (isSeparator acceptReturn))
    (chars.dropWhile (isSeparator acceptReturn))) chars rest'
  cases behind : chars.dropWhile (isSeparator acceptReturn) with
  | nil =>
    cases replaces with
    | same head_eq =>
      apply Repeats.of_whole (Phase.stride_whole acceptReturn none none .actionClose chars)
      rw [behind, braced, facing_none] at head_eq
      change rest' = (braced none (chars.takeWhile _) (chars.dropWhile _)).rest
      rw [behind, braced, facing_none]
      exact List.head?_eq_none_iff.mp head_eq
    | space _ _ _ _ counts =>
      rw [behind, braced, facing_none] at counts
      exact absurd rfl (counts rfl)
  | cons c rest =>
    by_cases brace : c = '\x7d'
    · have braced_eq (spaces rest : List Char) : braced none spaces ([c] ++ rest) =
          { body := spaces ++ [c], rest, counted := 1, landing := .ok ⟨.dispatch, none, .closes⟩ } := by
        rw [List.singleton_append, braced, if_pos brace]
      have whole : chars.dropWhile (isSeparator acceptReturn) = [c] ++ rest := behind
      refine separated_repeats whole (by simp) ?_ ?_
      · rw [braced_eq]
        rfl
      · rw [braced_eq, braced_eq]
    · rw [behind, braced, if_neg brace] at lands
      cases lands

/-! ### Every handler -/

private theorem untaken_repeats {phase : Phase}
    (replaces : (phase.stride acceptReturn none top []).Replaces acceptReturn phase rest')
    (stride_eq : phase.stride acceptReturn none top [] = still .dispatch []) :
    Repeats (phase.stride acceptReturn none top) [] rest' := by
  rw [stride_eq] at replaces
  obtain rfl := replaces.eq_nil rfl rfl
  apply Repeats.of_whole (Phase.stride_whole acceptReturn none top phase [])
  rw [stride_eq]
  rfl

private theorem whitespace_repeats
    (head_eq : rest'.head? = (Phase.stride acceptReturn none top .whitespace chars).rest.head?) :
    Repeats (Phase.stride acceptReturn none top .whitespace) chars rest' := by
  have stride_eq (chars : List Char) : Phase.stride acceptReturn none top .whitespace chars =
      { body := chars.takeWhile (isSeparator acceptReturn)
        rest := chars.dropWhile (isSeparator acceptReturn), landing := .ok { next := .dispatch } } :=
    facing_none
  rw [stride_eq] at head_eq
  obtain ⟨spaces, left⟩ := takeWhile_append_of_head head_eq
  apply Repeats.of_eq (stride_eq chars)
  refine (stride_eq (chars.takeWhile (isSeparator acceptReturn) ++ rest')).trans ?_
  rw [spaces, left]

private theorem enclosed_repeats {kind : FrameKind} {closer : Char} (head_eq : rest'.head? =
    (Phase.stride acceptReturn none (some (kind, closer)) .scanEnclosed chars).rest.head?) :
    Repeats (Phase.stride acceptReturn none (some (kind, closer)) .scanEnclosed) chars rest' := by
  have stride_eq (chars : List Char) :
      Phase.stride acceptReturn none (some (kind, closer)) .scanEnclosed chars =
        { body := chars.takeWhile (· != closer), rest := chars.dropWhile (· != closer)
          counted := (chars.takeWhile (· != closer)).length
          landing := .ok { next := .closeEnclosure
                           token := some (if kind = .nonTerminal then .nonTerminalSymbol else
                             .terminalSymbol, chars.takeWhile (· != closer)) } } := facing_none
  rw [stride_eq] at head_eq
  obtain ⟨body, left⟩ := takeWhile_append_of_head head_eq
  apply Repeats.of_eq (stride_eq chars)
  refine (stride_eq (chars.takeWhile (· != closer) ++ rest')).trans ?_
  rw [body, left]

/-- A handler that succeeds does the same in front of what may replace what it leaves. -/
theorem Phase.stride_repeats
    (replaces : (phase.stride acceptReturn none top chars).Replaces acceptReturn phase rest')
    (lands : (phase.stride acceptReturn none top chars).landing = .ok landing) :
    Repeats (phase.stride acceptReturn none top) chars rest' := by
  cases phase with
  | dispatch =>
    cases chars with
    | nil =>
      obtain rfl := replaces.eq_nil rfl rfl
      rfl
    | cons c rest =>
      obtain ⟨rest'', rfl⟩ := replaces.eq_cons rfl rfl
      rfl
  | whitespace =>
    cases replaces with
    | same head_eq => exact whitespace_repeats head_eq
    | space _ _ _ other => exact absurd rfl other.1
  | scanEnclosed =>
    cases replaces with
    | same head_eq =>
      cases top with
      | none => rfl
      | some top => exact enclosed_repeats head_eq
    | space _ _ _ other => exact absurd rfl other.2
  | closeEnclosure =>
    cases top with
    | none => rfl
    | some top => exact enclosureEnd_repeats replaces
  | actionName => exact actionName_repeats lands
  | actionArgs => exact actionArgs_repeats replaces lands
  | actionClose => exact actionEnd_repeats replaces lands
  | finished => rfl
  | endOfRule =>
    cases chars with
    | nil => exact untaken_repeats replaces rfl
    | cons c rest => exact exclamation_repeats replaces
  | productionRuleOp =>
    cases chars with
    | nil => exact untaken_repeats replaces rfl
    | cons c rest => exact productionRule_repeats lands
  | sequence =>
    cases chars with
    | nil => exact untaken_repeats replaces rfl
    | cons c rest => exact dots_repeats replaces
  | closeGroup =>
    cases chars with
    | nil => exact untaken_repeats replaces rfl
    | cons c rest => exact groupEnd_repeats replaces lands
  | bareTerminal =>
    cases chars with
    | nil => exact untaken_repeats replaces rfl
    | cons c rest => exact word_repeats replaces lands
  | or | assign | and | openEnclosure | openGroup | actionOpen =>
    cases chars with
    | nil => exact untaken_repeats replaces rfl
    | cons c rest => rfl

/-! ### What is taken -/

/-- A character that selects the handler for white space is white space. -/
theorem isSeparator_of_lookahead (selects : Phase.ofLookahead acceptReturn c = .whitespace) :
    isSeparator acceptReturn c = true := by
  unfold Phase.ofLookahead at selects
  split at selects <;> first | cases selects | skip
  split at selects
  next separates => exact separates
  next => cases selects

/-- A handler that leads to where a construct may follow has taken something, except for those that
may end with the text. -/
theorem Phase.stride_used_ne_nil
    (lands : (phase.stride acceptReturn none top chars).landing = .ok landing)
    (leads : landing.next = .dispatch ∨ landing.next = .actionClose)
    (other : phase ≠ .closeEnclosure ∧ phase ≠ .actionClose)
    (topped : phase = .scanEnclosed → top ≠ none)
    (shown : phase.isSelected = true → ∃ c rest, chars = c :: rest ∧
      (phase = .whitespace → isSeparator acceptReturn c = true)) :
    (phase.stride acceptReturn none top chars).used ≠ [] := by
  cases phase with
  | closeEnclosure => exact absurd rfl other.1
  | actionClose => exact absurd rfl other.2
  | dispatch =>
    cases chars with
    | nil =>
      cases lands
      simp at leads
    | cons c rest =>
      cases lands
      have selected := Phase.isSelected_ofLookahead acceptReturn c
      change ofLookahead acceptReturn c = _ ∨ ofLookahead acceptReturn c = _ at leads
      rcases leads with leads | leads <;> rw [leads] at selected <;> cases selected
  | whitespace =>
    obtain ⟨c, rest, rfl, separates⟩ := shown rfl
    simp [Phase.stride, Stride.whitespace, Stride.used, separates rfl]
  | scanEnclosed =>
    cases top with
    | none => exact absurd rfl (topped rfl)
    | some top =>
      simp only [Phase.stride, Stride.enclosed, facing_none] at lands
      cases lands
      simp at leads
  | actionName =>
    simp only [Phase.stride, Stride.actionName, Stride.named] at lands
    split at lands
    · split at lands
      · cases lands
      · cases lands
        simp at leads
    · rw [facing_none] at lands
      cases lands
  | actionArgs =>
    simp only [Phase.stride, Stride.actionArgs, Stride.argued] at lands ⊢
    split at lands
    next => cases lands
    next => simp [Stride.used]
    next =>
      rw [facing_none] at lands
      cases lands
      simp at leads
  | finished =>
    cases lands
    simp at leads
  | closeGroup =>
    obtain ⟨c, rest, rfl, -⟩ := shown rfl
    simp only [Phase.stride, Stride.groupEnd] at lands ⊢
    split at lands
    · cases lands
      simp at leads
    · split at lands
      next group =>
        split at lands
        next closes => simp [group, closes, Stride.used, Stride.token]
        next => cases lands
      next =>
        cases lands
        simp at leads
  | endOfRule =>
    obtain ⟨c, rest, rfl, -⟩ := shown rfl
    simp only [Phase.stride, Stride.exclamation]
    split <;> simp [Stride.used, Stride.token]
  | productionRuleOp =>
    obtain ⟨c, rest, rfl, -⟩ := shown rfl
    simp only [Phase.stride, Stride.productionRule]
    split <;> simp [Stride.used, Stride.token, Stride.refused]
  | sequence =>
    obtain ⟨c, rest, rfl, -⟩ := shown rfl
    simp only [Phase.stride, Stride.dots]
    split <;> simp [Stride.used, Stride.token]
  | bareTerminal =>
    obtain ⟨c, rest, rfl, -⟩ := shown rfl
    simp only [Phase.stride, Stride.word] at lands ⊢
    split at lands
    next alphanumeric => simp [alphanumeric, Stride.used, Stride.token]
    next plain =>
      split at lands
      next => cases lands
      next seen => simp [plain, seen, Stride.used, Stride.token]
  | or | assign | and | openEnclosure | actionOpen | openGroup =>
    obtain ⟨c, rest, rfl, -⟩ := shown rfl
    simp [Phase.stride, Stride.used, Stride.token, Stride.opening, Stride.groupOpener]

end

/-! ### Spots -/

namespace Spot

variable {limits : ScanLimits} {acceptReturn : Bool} {s s' : Spot} {rest' : List Char}
  {token : Option Token}

/-- The same spot in front of another text. -/
def before (s : Spot) (chars : List Char) : Spot := { s with left := ⟨chars, none⟩ }

theorem stride_before (whole : s.left.fault = none) {landing : Landing}
    (lands : (s.stride acceptReturn).landing = .ok landing)
    (replaces : (s.stride acceptReturn).Replaces acceptReturn s.phase rest') :
    (s.before ((s.stride acceptReturn).used ++ rest')).stride acceptReturn =
      { s.stride acceptReturn with rest := rest' } := by
  obtain ⟨phase, frames, ⟨chars, fault⟩, p⟩ := s
  obtain rfl : fault = none := whole
  exact Phase.stride_repeats replaces lands

theorem next_before (whole : s.left.fault = none)
    (next_eq : s.next limits acceptReturn = .ok (token, s'))
    (replaces : (s.stride acceptReturn).Replaces acceptReturn s.phase rest') :
    (s.before ((s.stride acceptReturn).used ++ rest')).next limits acceptReturn =
      .ok (token, s'.before rest') := by
  obtain ⟨landing, frames, room, lands, turned, rfl, rfl⟩ := take_eq_ok next_eq
  rw [next, stride_before whole lands replaces]
  exact take_of_landing room lands turned

/-- A handler that leads to where a construct may follow has taken something, except for those that
may end with the text. -/
theorem used_ne_nil (agrees : s.Agrees acceptReturn) (whole : s.left.fault = none)
    (next_eq : s.next limits acceptReturn = .ok (token, s'))
    (leads : s'.phase = .dispatch ∨ s'.phase = .actionClose)
    (other : s.phase ≠ .closeEnclosure ∧ s.phase ≠ .actionClose) :
    (s.stride acceptReturn).used ≠ [] := by
  obtain ⟨landing, frames', -, lands, -, -, rfl⟩ := take_eq_ok next_eq
  obtain ⟨phase, frames, ⟨chars, fault⟩, p⟩ := s
  obtain rfl : fault = none := whole
  refine Phase.stride_used_ne_nil lands leads other ?_ ?_
  · rintro rfl
    obtain ⟨frame, groups, rfl, -⟩ := agrees.nests
    exact nofun
  · intro selects
    obtain ⟨c, rest, rfl, selected⟩ := agrees.shown selects
    refine ⟨c, rest, rfl, ?_⟩
    rintro rfl
    rcases selected with selected | ⟨other, -⟩
    · exact isSeparator_of_lookahead selected
    · cases other

end Spot

end GrammarLex
