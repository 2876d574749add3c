import GrammarLex.Proofs.Scan.Insertion
import GrammarLex.Proofs.Session.Likeness

/-!
# White space between tokens does not matter

Wherever the next construct is about to be selected, white space may be inserted: the tokens in front
stay as they are, and those behind are the same tokens further on. In front of the insertion every
handler does what it has done, since none that ends a token takes white space; behind it both
sessions go over the same text.
-/
namespace GrammarLex

variable {limits : ScanLimits} {acceptReturn : Bool} {s s' : Spot} {token : Option Token}
  {tokens : List Token} {chars a w b : List Char} {source : CharSource} {m : Machine} {r : Intake}

/-! ### White space in front of a construct -/

namespace Spot

/-- The spot behind the white space that is next. -/
def skipped (acceptReturn : Bool) (s : Spot) : Spot :=
  { s with
    left := ⟨s.left.chars.dropWhile (isSeparator acceptReturn), s.left.fault⟩
    position := s.position.advanceBy (s.left.chars.takeWhile (isSeparator acceptReturn)) }

theorem Agrees.before (agrees : s.Agrees acceptReturn)
    (head_eq : s.phase.isSelected = true → chars.head? = s.left.chars.head?) :
    (s.before chars).Agrees acceptReturn := by
  refine ⟨agrees.nests, ?_⟩
  intro selects
  obtain ⟨c, rest, front, selected⟩ := agrees.shown selects
  obtain ⟨rest', rfl⟩ : ∃ rest', chars = c :: rest' := by
    apply List.head?_eq_some_iff.mp
    rw [head_eq selects, front, List.head?_cons]
  exact ⟨c, rest', rfl, selected⟩

theorem next_of_whitespace (phase : s.phase = .whitespace) (whole : s.left.fault = none) :
    s.next limits acceptReturn =
      .ok (none, { s.skipped acceptReturn with phase := .dispatch }) := by
  obtain ⟨_, frames, ⟨chars, fault⟩, p⟩ := s
  obtain rfl : _ = Phase.whitespace := phase
  obtain rfl : fault = none := whole
  have stride_eq : (Spot.mk .whitespace frames ⟨chars, none⟩ p).stride acceptReturn =
      { body := chars.takeWhile (isSeparator acceptReturn)
        rest := chars.dropWhile (isSeparator acceptReturn), landing := .ok { next := .dispatch } } :=
    Stride.facing_none
  rw [next, stride_eq]
  exact take_of_silent (Nat.zero_le _) rfl rfl

/-- White space between two constructs is passed over. -/
theorem Walk.skips (agrees : s.Agrees acceptReturn) (phase : s.phase = .dispatch)
    (whole : s.left.fault = none) : Walk limits acceptReturn s [] (s.skipped acceptReturn) := by
  obtain ⟨_, frames, ⟨chars, fault⟩, p⟩ := s
  obtain rfl : _ = Phase.dispatch := phase
  obtain rfl : fault = none := whole
  by_cases front : ∃ c rest, chars = c :: rest ∧ isSeparator acceptReturn c = true
  · obtain ⟨c, rest, rfl, separates⟩ := front
    have selected : (Spot.mk .dispatch frames ⟨c :: rest, none⟩ p).next limits acceptReturn =
        .ok (none, ⟨.whitespace, frames, ⟨c :: rest, none⟩, p⟩) := by
      rw [← Phase.ofLookahead_of_separator separates]
      exact take_still _ _
    have agrees' : Agrees acceptReturn ⟨.whitespace, frames, ⟨c :: rest, none⟩, p⟩ :=
      ⟨agrees.nests, fun _ => ⟨c, rest, rfl, .inl (Phase.ofLookahead_of_separator separates)⟩⟩
    exact .step agrees selected (.step agrees' (next_of_whitespace rfl rfl) .refl)
  · have stops : chars.takeWhile (isSeparator acceptReturn) = [] ∧
        chars.dropWhile (isSeparator acceptReturn) = chars := by
      cases chars with
      | nil => exact ⟨rfl, rfl⟩
      | cons c rest =>
        have other : ¬ isSeparator acceptReturn c = true := fun separates =>
          front ⟨c, rest, rfl, separates⟩
        exact ⟨List.takeWhile_cons_of_neg other, List.dropWhile_cons_of_neg other⟩
    have same : skipped acceptReturn ⟨.dispatch, frames, ⟨chars, none⟩, p⟩ =
        ⟨.dispatch, frames, ⟨chars, none⟩, p⟩ := by
      simp only [skipped, stops, Position.advanceBy_nil]
    rw [same]
    exact .refl

/-! ### In front of the insertion -/

/-- A spot on the way to the insertion, and how the other session gets there. At the insertion the
other session is in front of what is inserted or has passed it. -/
structure Inserts (limits : ScanLimits) (acceptReturn : Bool) (origin : Spot) (w b : List Char)
    (tokens : List Token) (s : Spot) : Prop where
  whole : s.left.fault = none
  front : ∀ u, u ≠ [] → s.left.chars = u ++ b →
    Walk limits acceptReturn origin tokens (s.before (u ++ (w ++ b)))
  here : s.left.chars = b → s.phase = .dispatch →
    Walk limits acceptReturn origin tokens ((s.before (w ++ b)).skipped acceptReturn)
  -- The end of the text stands for a brace, and white space may come before it.
  cut : s.left.chars = b → b = [] → s.phase = .actionClose →
    Walk limits acceptReturn origin tokens (s.before (w ++ b))
  -- Behind an enclosed text stands its closer, or nothing.
  closer : s.phase = .closeEnclosure → s.left.chars = [] ∨
    ∃ kind closer, s.top = some (kind, closer) ∧ s.left.chars.head? = some closer

namespace Inserts

variable {origin : Spot}

/-- What is inserted may follow where something has been taken. -/
private theorem replaces {phase : Phase} {stride : Stride}
    (spaces : ∀ c ∈ w, isSeparator acceptReturn c = true) (took : stride.used ≠ [])
    (arrived : stride.rest = b) (other : phase ≠ .whitespace ∧ phase ≠ .scanEnclosed)
    (braced : phase = .actionClose → stride.counted ≠ 0) :
    stride.Replaces acceptReturn phase (w ++ b) := by
  cases w with
  | nil => exact .same (by rw [arrived]; rfl)
  | cons c w => exact .space took rfl (spaces c List.mem_cons_self) other braced

/-- A handler that leaves something in front of the insertion, or has taken something there, does the
same in the other session. -/
private theorem passes {u : List Char} (agrees : s.Agrees acceptReturn)
    (inserts : Inserts limits acceptReturn origin w b tokens s)
    (next_eq : s.next limits acceptReturn = .ok (token, s')) (left : s'.left.chars = u ++ b)
    (took : (s.stride acceptReturn).used ++ u ≠ [])
    (replaces : (s.stride acceptReturn).Replaces acceptReturn s.phase (u ++ (w ++ b))) :
    Walk limits acceptReturn origin (tokens ++ token.toList) (s'.before (u ++ (w ++ b))) := by
  obtain ⟨-, covers, -⟩ := next_covers next_eq
  rw [left, ← List.append_assoc] at covers
  have front := inserts.front _ took covers.symm
  rw [List.append_assoc] at front
  have head_eq : ((s.stride acceptReturn).used ++ (u ++ (w ++ b))).head? = s.left.chars.head? := by
    rw [← covers, ← List.append_assoc, List.head?_append_of_ne_nil _ took,
      List.head?_append_of_ne_nil _ took]
  exact front.trans (.one (agrees.before fun _ => head_eq) (next_before inserts.whole next_eq replaces))

/-- A handler that ends at the insertion, having taken something, ends there in the other session. -/
private theorem arrives (spaces : ∀ c ∈ w, isSeparator acceptReturn c = true)
    (agrees : s.Agrees acceptReturn) (inserts : Inserts limits acceptReturn origin w b tokens s)
    (next_eq : s.next limits acceptReturn = .ok (token, s')) (arrived : s'.left.chars = b)
    (took : (s.stride acceptReturn).used ≠ [])
    (other : s.phase ≠ .whitespace ∧ s.phase ≠ .scanEnclosed)
    (braced : s.phase = .actionClose → (s.stride acceptReturn).counted ≠ 0) :
    Walk limits acceptReturn origin (tokens ++ token.toList) (s'.before (w ++ b)) := by
  obtain ⟨left_eq, -, -⟩ := next_covers next_eq
  have rest_eq : (s.stride acceptReturn).rest = b := by rw [← arrived, left_eq]
  have replaced := replaces spaces took rest_eq other braced
  exact passes (u := []) agrees inserts next_eq arrived (by simpa using took) replaced

/-- The action whose brace is missing ends behind what is inserted as well. -/
private theorem next_of_braceless (phase : s.phase = .actionClose) (whole : s.left.fault = none)
    (spaces : ∀ c ∈ s.left.chars, isSeparator acceptReturn c = true) :
    s.next limits acceptReturn =
      .ok (none, ⟨.dispatch, s.frames.tail, ⟨[], none⟩, s.position.advanceBy s.left.chars⟩) := by
  obtain ⟨_, frames, ⟨chars, fault⟩, p⟩ := s
  obtain rfl : _ = Phase.actionClose := phase
  obtain rfl : fault = none := whole
  have stride_eq : (Spot.mk .actionClose frames ⟨chars, none⟩ p).stride acceptReturn =
      { body := chars, rest := [], landing := .ok { next := .dispatch, turn := .closes } } := by
    change Stride.braced none (chars.takeWhile (isSeparator acceptReturn))
      (chars.dropWhile (isSeparator acceptReturn)) = _
    rw [List.dropWhile_eq_nil_iff.mpr spaces, List.takeWhile_eq_self_iff.mpr spaces, Stride.braced,
      Stride.facing_none]
  rw [next, stride_eq]
  exact take_of_silent (Nat.zero_le _) rfl rfl

/-- Behind an enclosed text stands its closer, or nothing. -/
private theorem closer_of_enclosed (agrees : s.Agrees acceptReturn) (phase : s.phase = .scanEnclosed)
    (whole : s.left.fault = none) (next_eq : s.next limits acceptReturn = .ok (token, s')) :
    s'.left.chars = [] ∨
      ∃ kind closer, s'.top = some (kind, closer) ∧ s'.left.chars.head? = some closer := by
  obtain ⟨_, frames, ⟨chars, fault⟩, p⟩ := s
  obtain rfl : _ = Phase.scanEnclosed := phase
  obtain rfl : fault = none := whole
  obtain ⟨frame, groups, rfl, -⟩ := agrees.nests
  obtain ⟨landing, frames, -, lands, turned, -, rfl⟩ := take_eq_ok next_eq
  have stride_eq : (Spot.mk .scanEnclosed (frame :: groups) ⟨chars, none⟩ p).stride acceptReturn =
      Stride.enclosed none frame.kind frame.closer chars := rfl
  rw [stride_eq, Stride.enclosed, Stride.facing_none] at lands
  cases lands
  cases turned
  have left_eq : (Stride.enclosed none frame.kind frame.closer chars).rest =
      chars.dropWhile (· != frame.closer) := Stride.facing_rest
  rw [stride_eq, left_eq]
  have stops := List.head?_dropWhile_not (· != frame.closer) chars
  cases left : chars.dropWhile (· != frame.closer) with
  | nil => exact .inl rfl
  | cons c rest =>
    rw [left] at stops
    obtain rfl : c = frame.closer := by simpa using stops
    exact .inr ⟨frame.kind, frame.closer, rfl, rfl⟩

private theorem used_of_closer {kind : FrameKind} {closer : Char} (phase : s.phase = .closeEnclosure)
    (top_eq : s.top = some (kind, closer)) (head_eq : s.left.chars.head? = some closer) :
    (s.stride acceptReturn).used ≠ [] := by
  obtain ⟨rest, front⟩ := List.head?_eq_some_iff.mp head_eq
  rw [stride, phase, top_eq, front]
  simp [Phase.stride, Stride.enclosureEnd, Stride.used]

/-- The brace of an action is taken, or there is nothing but white space up to the end of the text. -/
private theorem braced_cases (phase : s.phase = .actionClose) (whole : s.left.fault = none)
    (next_eq : s.next limits acceptReturn = .ok (token, s')) :
    ((s.stride acceptReturn).used ≠ [] ∧ (s.stride acceptReturn).counted ≠ 0) ∨
      ∀ c ∈ s.left.chars, isSeparator acceptReturn c = true := by
  obtain ⟨landing, -, -, lands, -⟩ := take_eq_ok next_eq
  have stride_eq : s.stride acceptReturn =
      Stride.braced none (s.left.chars.takeWhile (isSeparator acceptReturn))
        (s.left.chars.dropWhile (isSeparator acceptReturn)) := by
    rw [stride, phase, whole]
    rfl
  rw [stride_eq] at lands ⊢
  cases left : s.left.chars.dropWhile (isSeparator acceptReturn) with
  | nil => exact .inr (List.dropWhile_eq_nil_iff.mp left)
  | cons c rest =>
    rw [left, Stride.braced] at lands
    rw [Stride.braced]
    split at lands
    next brace => simp [brace, Stride.used]
    next => cases lands

/-- Inserted white space is passed over together with what is in front of it. -/
private theorem here_of_whitespace (agrees : s.Agrees acceptReturn)
    (inserts : Inserts limits acceptReturn origin w b tokens s)
    (next_eq : s.next limits acceptReturn = .ok (token, s')) (phase : s.phase = .whitespace)
    (arrived : s'.left.chars = b) :
    Walk limits acceptReturn origin (tokens ++ token.toList)
      ((s'.before (w ++ b)).skipped acceptReturn) := by
  have took := used_ne_nil agrees inserts.whole next_eq
  cases (next_of_whitespace phase inserts.whole).symm.trans next_eq
  have spaces_eq : (s.stride acceptReturn).used =
      s.left.chars.takeWhile (isSeparator acceptReturn) := by
    rw [stride, phase]
    simp [Phase.stride, Stride.whitespace, Stride.used]
  have notNil : s.left.chars.takeWhile (isSeparator acceptReturn) ≠ [] := by
    rw [← spaces_eq]
    exact took (.inl rfl) (by rw [phase]; decide)
  have covers : s.left.chars.takeWhile (isSeparator acceptReturn) ++ b = s.left.chars := by
    rw [← arrived]
    exact List.takeWhile_append_dropWhile
  have blank : ∀ c ∈ s.left.chars.takeWhile (isSeparator acceptReturn),
      isSeparator acceptReturn c = true := fun c => List.mem_takeWhile_imp
  have agrees' : (s.before (s.left.chars.takeWhile (isSeparator acceptReturn) ++ (w ++ b))).Agrees
      acceptReturn := by
    apply agrees.before
    intro _
    have head_eq := congrArg List.head? covers
    rw [List.head?_append_of_ne_nil _ notNil] at head_eq ⊢
    exact head_eq
  have passed : Walk limits acceptReturn _ _ _ := .one agrees' (next_of_whitespace phase rfl)
  simp only [skipped, before, List.dropWhile_append_of_pos blank,
    List.takeWhile_append_of_pos blank, Position.advanceBy_append] at passed
  exact (inserts.front _ notNil covers.symm).trans passed

/-- White space inserted behind an action without a brace is taken for white space in front of it. -/
private theorem here_of_braceless (spaces : ∀ c ∈ w, isSeparator acceptReturn c = true)
    (agrees : s.Agrees acceptReturn) (inserts : Inserts limits acceptReturn origin w b tokens s)
    (next_eq : s.next limits acceptReturn = .ok (token, s')) (phase : s.phase = .actionClose)
    (blank : ∀ c ∈ s.left.chars, isSeparator acceptReturn c = true) (arrived : s'.left.chars = b) :
    Walk limits acceptReturn origin (tokens ++ token.toList)
      ((s'.before (w ++ b)).skipped acceptReturn) := by
  cases (next_of_braceless phase inserts.whole blank).symm.trans next_eq
  obtain rfl : [] = b := arrived
  have walk : Walk limits acceptReturn origin tokens (s.before (s.left.chars ++ (w ++ []))) := by
    by_cases nothing : s.left.chars = []
    · rw [nothing, List.nil_append]
      exact inserts.cut nothing rfl phase
    · exact inserts.front _ nothing (List.append_nil _).symm
  rw [List.append_nil] at walk ⊢
  have blank' : ∀ c ∈ (s.before (s.left.chars ++ w)).left.chars, isSeparator acceptReturn c = true := by
    intro c member
    rcases List.mem_append.mp member with member | member
    · exact blank c member
    · exact spaces c member
  have agrees' : (s.before (s.left.chars ++ w)).Agrees acceptReturn := by
    apply agrees.before
    intro selects
    rw [phase] at selects
    cases selects
  have ended : Walk limits acceptReturn _ _ _ :=
    .one agrees' (next_of_braceless phase rfl blank')
  have same : skipped acceptReturn (before ⟨.dispatch, s.frames.tail, ⟨[], none⟩,
      s.position.advanceBy s.left.chars⟩ w) =
        ⟨.dispatch, s.frames.tail, ⟨[], none⟩, s.position.advanceBy (s.left.chars ++ w)⟩ := by
    simp only [skipped, before, List.dropWhile_eq_nil_iff.mpr spaces,
      List.takeWhile_eq_self_iff.mpr spaces, Position.advanceBy_append]
  rw [same]
  exact walk.trans ended

private theorem here_of_next (spaces : ∀ c ∈ w, isSeparator acceptReturn c = true)
    (agrees : s.Agrees acceptReturn) (agrees' : s'.Agrees acceptReturn)
    (inserts : Inserts limits acceptReturn origin w b tokens s)
    (next_eq : s.next limits acceptReturn = .ok (token, s'))
    (uncut : b = [] → s.phase = .closeEnclosure → s.left.chars ≠ [])
    (enclosing : s.phase = .scanEnclosed → s'.phase = .closeEnclosure)
    (arrived : s'.left.chars = b) (between : s'.phase = .dispatch) :
    Walk limits acceptReturn origin (tokens ++ token.toList)
      ((s'.before (w ++ b)).skipped acceptReturn) := by
  have skips (walk : Walk limits acceptReturn origin (tokens ++ token.toList) (s'.before (w ++ b))) :
      Walk limits acceptReturn origin (tokens ++ token.toList)
        ((s'.before (w ++ b)).skipped acceptReturn) := by
    have agrees'' : (s'.before (w ++ b)).Agrees acceptReturn := by
      apply agrees'.before
      intro selects
      rw [between] at selects
      cases selects
    simpa using walk.trans (.skips agrees'' between rfl)
  have unenclosed : s.phase ≠ .scanEnclosed := by
    intro enclosed
    cases between.symm.trans (enclosing enclosed)
  -- Three handlers may end here without having taken anything that is not white space.
  by_cases blank : s.phase = .whitespace
  · exact here_of_whitespace agrees inserts next_eq blank arrived
  by_cases action : s.phase = .actionClose
  · rcases braced_cases action inserts.whole next_eq with ⟨took, braced⟩ | blanks
    · have passed := arrives spaces agrees inserts next_eq arrived took ⟨blank, unenclosed⟩
      exact skips (passed fun _ => braced)
    · exact here_of_braceless spaces agrees inserts next_eq action blanks arrived
  have took : (s.stride acceptReturn).used ≠ [] := by
    by_cases enclosure : s.phase = .closeEnclosure
    · rcases inserts.closer enclosure with ended | ⟨kind, closer, top_eq, head_eq⟩
      · obtain ⟨-, covers, -⟩ := next_covers next_eq
        rw [ended, arrived] at covers
        exact absurd ended (uncut (List.append_eq_nil_iff.mp covers).2 enclosure)
      · exact used_of_closer enclosure top_eq head_eq
    · exact used_ne_nil agrees inserts.whole next_eq (.inl between) ⟨enclosure, action⟩
  have passed := arrives spaces agrees inserts next_eq arrived took ⟨blank, unenclosed⟩
  exact skips (passed fun same => absurd same action)

theorem step (spaces : ∀ c ∈ w, isSeparator acceptReturn c = true) (agrees : s.Agrees acceptReturn)
    (agrees' : s'.Agrees acceptReturn)
    (inserts : Inserts limits acceptReturn origin w b tokens s)
    (next_eq : s.next limits acceptReturn = .ok (token, s'))
    (uncut : b = [] → s.phase = .closeEnclosure → s.left.chars ≠ [])
    (closing : s'.phase = .closeEnclosure → s.phase = .scanEnclosed)
    (ending : s'.phase = .actionClose → s.phase = .actionArgs)
    (enclosing : s.phase = .scanEnclosed → s'.phase = .closeEnclosure) :
    Inserts limits acceptReturn origin w b (tokens ++ token.toList) s' := by
  obtain ⟨left_eq, -, -⟩ := next_covers next_eq
  constructor
  · rw [left_eq]
    exact inserts.whole
  · intro u notNil left
    apply passes agrees inserts next_eq left (by simp [notNil])
    apply Stride.Replaces.same
    have rest_eq : (s.stride acceptReturn).rest = u ++ b := by rw [← left, left_eq]
    rw [rest_eq, List.head?_append_of_ne_nil _ notNil, List.head?_append_of_ne_nil _ notNil]
  · exact here_of_next spaces agrees agrees' inserts next_eq uncut enclosing
  · intro arrived ended between
    have phase := ending between
    have took : (s.stride acceptReturn).used ≠ [] := by
      apply used_ne_nil agrees inserts.whole next_eq (.inr between)
      rw [phase]
      decide
    apply arrives spaces agrees inserts next_eq arrived took
    · rw [phase]
      decide
    · intro same
      cases phase.symm.trans same
  · exact fun closes => closer_of_enclosed agrees (closing closes) inserts.whole next_eq

end Inserts

end Spot

/-- The text ends in a quoted or angle-bracketed text that is not closed. -/
def Machine.CutOff (limits : ScanLimits) (acceptReturn : Bool) (source : CharSource) : Prop :=
  ∃ tokens m r, Emits limits acceptReturn source tokens m r ∧ m.phase = .closeEnclosure ∧
    r.source.contents.chars = []

/-- Where a machine gets to with one text, another one gets to with the insertion. -/
theorem Machine.Emits.inserts (spaces : ∀ c ∈ w, isSeparator acceptReturn c = true)
    (text : source.contents = ⟨a ++ b, none⟩) (uncut : b = [] → ¬ CutOff limits acceptReturn source)
    (emits : Emits limits acceptReturn source tokens m r) :
    ∃ s, Spot.Walk limits acceptReturn { left := ⟨a ++ b, none⟩ } tokens s ∧ m.At acceptReturn r s ∧
      Spot.Inserts limits acceptReturn { left := ⟨a ++ (w ++ b), none⟩ } w b tokens s := by
  -- On the steps; the handler in front says where each one comes from.
  induction emits with
  | fresh =>
    have here := at_initial acceptReturn source
    rw [text] at here
    refine ⟨_, .refl, here, rfl, ?_, ?_, nofun, nofun⟩
    · intro u notNil left
      obtain rfl := List.append_cancel_right left
      exact .refl
    · intro left _
      obtain rfl : a = [] := List.append_left_eq_self.mp left
      have agrees : Spot.Agrees acceptReturn { left := ⟨w ++ b, none⟩ } := ⟨nofun, nofun⟩
      exact .skips agrees rfl rfl
  | step before stepped ih =>
    obtain ⟨s, walk, here, inserts⟩ := ih
    obtain ⟨s', next_eq, here'⟩ := here.next_of_ok stepped
    obtain ⟨move, -⟩ := here.agrees.moves stepped
    refine ⟨s', walk.trans (.one here.spot_agrees next_eq), here', ?_⟩
    rw [here.phase_eq, here'.phase_eq] at move
    apply inserts.step spaces here.spot_agrees here'.spot_agrees next_eq
    · intro nothing phase ended
      refine uncut nothing ⟨_, _, _, before, here.phase_eq.trans phase, ?_⟩
      rw [here.contents_eq, ended]
    · intro phase
      rw [phase] at move
      exact move.of_closeEnclosure
    · intro phase
      rw [phase] at move
      exact move.of_actionClose
    · intro phase
      rw [phase] at move
      exact move.next_of_scanEnclosed

/-! ### Behind the insertion -/

/-- A place behind `a`, and where it is when `w` is inserted there. -/
def Position.Shifted (a w b : List Char) (p p' : Position) : Prop :=
  ∃ x, x <+: b ∧ p = start.advanceBy (a ++ x) ∧ p' = start.advanceBy (a ++ w ++ x)

/-- The same token further on. -/
structure Token.Shifted (a w b : List Char) (token token' : Token) : Prop where
  kind_eq : token'.kind = token.kind
  lexeme_eq : token'.lexeme = token.lexeme
  placed : ∃ p p', Position.Shifted a w b p p' ∧ (token.line, token.column) = (p.line, p.column) ∧
    (token'.line, token'.column) = (p'.line, p'.column)

/-- The same error further on. -/
structure ScanError.Shifted (a w b : List Char) (e e' : ScanError) : Prop where
  moved_eq : e' = e.moved id e'.position
  placed : Position.Shifted a w b e.position e'.position

/-- What stands behind an insertion is spelled as before. -/
def Writing.behind (a w b : List Char) : Writing where
  spell c := [c]
  places rest p p' := ∃ x, b = x ++ rest ∧ p = Position.start.advanceBy (a ++ x) ∧
    p' = Position.start.advanceBy (a ++ w ++ x)
  advance := by
    rintro used rest p p' ⟨x, rfl, rfl, rfl⟩
    refine ⟨x ++ used, by simp, ?_, ?_⟩
    · rw [← Position.advanceBy_append, List.append_assoc]
    · rw [List.flatMap_singleton', ← Position.advanceBy_append, List.append_assoc]

namespace Writing

theorem text_behind (chars : List Char) : (behind a w b).text chars = chars :=
  List.flatMap_singleton' chars

theorem found_behind : (behind a w b).found = id := by
  funext found
  cases found <;> rfl

end Writing

theorem Token.Like.shifted {token token' : Token} (like : token.Like (.behind a w b) token') :
    token.Shifted a w b token' := by
  obtain ⟨kind_eq, lexeme_eq, rest, p, p', ⟨x, whole, places⟩, here, here'⟩ := like
  rw [Writing.text_behind] at lexeme_eq
  exact ⟨kind_eq, String.toList_inj.mp lexeme_eq, p, p', ⟨x, ⟨rest, whole.symm⟩, places⟩, here, here'⟩

theorem ScanError.Like.shifted {e e' : ScanError} (like : e.Like (.behind a w b) e') :
    e.Shifted a w b e' := by
  obtain ⟨moved_eq, rest, x, whole, places⟩ := like
  rw [Writing.found_behind] at moved_eq
  exact ⟨moved_eq, x, ⟨rest, whole.symm⟩, places⟩

/-- Two sessions in front of the same text make the same strides. -/
theorem Spot.stride_behind (like : s.Like (.behind a w b) s') :
    (s.stride acceptReturn).Like (.behind a w b) (s'.stride acceptReturn) := by
  have stride_eq : s'.stride acceptReturn = s.stride acceptReturn := by
    rw [stride, stride, like.phase_eq, like.left_eq, top_like like, Writing.text_behind]
  rw [stride_eq]
  refine ⟨?_, ?_, ?_, ?_, fun _ => rfl⟩
  · rw [Writing.text_behind]
  · rw [Writing.text_behind]
  · rw [Writing.text_behind]
  · cases (s.stride acceptReturn).landing with
    | error obstacle =>
      cases obstacle <;> simp [Writing.landing, Writing.obstacle, Writing.found_behind]
    | ok landing =>
      obtain ⟨next, token, turn⟩ := landing
      simp [Writing.landing, Writing.text_behind]

/-- Behind the insertion both sessions are in front of the same text. -/
theorem Spot.like_behind (spaces : ∀ c ∈ w, isSeparator acceptReturn c = true)
    (groups : OnlyGroups s.frames) (whole : s.left = ⟨b, none⟩)
    (position_eq : s.position = Position.start.advanceBy a) :
    (s.skipped acceptReturn).Like (.behind a w b) ((s.before (w ++ b)).skipped acceptReturn) := by
  refine ⟨rfl, ?_, ?_, b.takeWhile (isSeparator acceptReturn), ?_, ?_, ?_⟩
  · apply List.forall₂_same.mpr
    intro frame member
    refine ⟨rfl, rfl, ?_⟩
    intro other
    cases (groups frame member).symm.trans other
  · simp only [skipped, before, whole, Writing.text_behind, List.dropWhile_append_of_pos spaces]
  · rw [skipped, whole]
    exact List.takeWhile_append_dropWhile.symm
  · rw [skipped, whole, position_eq, ← Position.advanceBy_append]
  · simp only [skipped, before, position_eq, List.takeWhile_append_of_pos spaces]
    rw [← Position.advanceBy_append, List.append_assoc]

namespace Session

/-- White space between two constructs changes neither the tokens nor the outcome; what comes behind
it is shifted. -/
theorem space_between (limits : ScanLimits) (preferences : LexicalPreferences) (a w b : String)
    (spaces : ∀ c ∈ w.toList, isSeparator preferences.acceptCarriageReturn c = true)
    {before : List Token} {m : Machine} {r : Intake}
    (emits : Machine.Emits limits preferences.acceptCarriageReturn { feed := .ofText (a ++ b) }
      before m r)
    (between : m.phase = .dispatch) (ahead : r.source.contents.chars = b.toList)
    (room : before.length ≤ limits.maxTokens)
    (uncut : b = "" →
      ¬ Machine.CutOff limits preferences.acceptCarriageReturn { feed := .ofText (a ++ b) }) :
    let ran := (start preferences { feed := .ofText (a ++ b) }).drain limits
    let ran' := (start preferences { feed := .ofText (a ++ w ++ b) }).drain limits
    ∃ later later', ran.tokens.toList = before ++ later ∧ ran'.tokens.toList = before ++ later' ∧
      List.Forall₂ (Token.Shifted a.toList w.toList b.toList) later later' ∧
      Option.Rel (ScanError.Shifted a.toList w.toList b.toList) ran.failure ran'.failure := by
  have text : ({ feed := .ofText (a ++ b) } : CharSource).contents = ⟨a.toList ++ b.toList, none⟩ := by
    change (Feed.ofText (a ++ b)).contents = _
    rw [Feed.contents_ofText, String.toList_append]
  have text' : ({ feed := .ofText (a ++ w ++ b) } : CharSource).contents =
      ⟨a.toList ++ (w.toList ++ b.toList), none⟩ := by
    change (Feed.ofText (a ++ w ++ b)).contents = _
    rw [Feed.contents_ofText, String.toList_append, String.toList_append, List.append_assoc]
  -- Both sessions walk to the text behind the white space.
  obtain ⟨s, walk, here, inserts⟩ := emits.inserts spaces text (by simpa using uncut)
  have phase : s.phase = .dispatch := here.phase_eq.symm.trans between
  have left_eq : s.left = ⟨b.toList, none⟩ := by
    have whole := inserts.whole
    rw [here.contents_eq] at ahead
    generalize s.left = left at ahead whole
    cases left
    rw [Contents.mk.injEq]
    exact ⟨ahead, whole⟩
  have walk' := inserts.here (by rw [left_eq]) phase
  have behind := walk.trans (.skips here.spot_agrees phase inserts.whole)
  rw [List.append_nil] at behind
  have position_eq : s.position = Position.start.advanceBy a.toList := by
    obtain ⟨used, whole, position_eq⟩ := walk.reaches
    rw [left_eq] at whole
    rw [position_eq, ← List.append_cancel_right whole]
  have groups : OnlyGroups s.frames := by
    have nests := here.spot_agrees.nests
    rw [phase] at nests
    exact nests
  -- From there on they get the same.
  have unmarked := emits.unmarked (by rw [between]; decide)
  have brings := drain_brings limits preferences { feed := .ofText (a ++ b) }
  have brings' := drain_brings limits preferences { feed := .ofText (a ++ w ++ b) }
  rw [text] at brings
  rw [text'] at brings'
  obtain ⟨later, tokens_eq, brings⟩ := behind.brings brings unmarked (by omega)
  obtain ⟨later', tokens_eq', brings'⟩ := walk'.brings brings' unmarked (by omega)
  have proper := behind.proper nofun
  have keeps : (Writing.behind a.toList w.toList b.toList).KeepsLength := by
    intro chars
    rw [Writing.text_behind]
  obtain ⟨tokens, failures⟩ := brings.like (fun _ _ like => Spot.stride_behind like) brings'
    (Spot.like_behind spaces groups left_eq position_eq) proper (.inl keeps)
  refine ⟨later, later', tokens_eq, tokens_eq', ?_, ?_⟩
  · exact tokens.imp fun _ _ like => like.shifted
  · exact optionRel_imp (fun _ _ like => like.shifted) failures

/-- A line end inserted behind an operator. -/
theorem space_between_of_line :
    ∃ before m r,
      Machine.Emits .development true { feed := .ofText ("|" ++ "x") } before m r ∧
      m.phase = .dispatch ∧ r.source.contents.chars = "x".toList ∧ before.length = 1 ∧
      ∃ later later',
        ((start {} { feed := .ofText ("|" ++ "x") }).drain .development).tokens.toList =
          before ++ later ∧
        ((start {} { feed := .ofText ("|" ++ "\n" ++ "x") }).drain .development).tokens.toList =
          before ++ later' ∧
        List.Forall₂ (Token.Shifted "|".toList "\n".toList "x".toList) later later' ∧
        Option.Rel (ScanError.Shifted "|".toList "\n".toList "x".toList)
          ((start {} { feed := .ofText ("|" ++ "x") }).drain .development).failure
          ((start {} { feed := .ofText ("|" ++ "\n" ++ "x") }).drain .development).failure := by
  let source : CharSource := { feed := .ofText ("|" ++ "x") }
  let first := (Machine.initial true).step .development (.ofSource source)
  let second := first.machine.step .development first.intake
  have blank : "\n".toList.all (isSeparator true) = true := by decide +kernel
  have spaces : ∀ c ∈ "\n".toList, isSeparator true c = true := List.all_eq_true.mp blank
  have selected : first.outcome = .ok none := by decide +kernel
  have taken : second.outcome = .ok (some ⟨"|", .or, 1, 1⟩) := by decide +kernel
  have emits : Machine.Emits .development true source [⟨"|", .or, 1, 1⟩] second.machine
      second.intake := by
    have before := Machine.Emits.fresh.step (show first = ⟨_, _, _⟩ by rw [← selected])
    exact before.step (show second = ⟨_, _, _⟩ by rw [← taken])
  have between : second.machine.phase = .dispatch := by decide +kernel
  have ahead : second.intake.source.contents.chars = "x".toList := by decide +kernel
  exact ⟨_, _, _, emits, between, ahead, rfl,
    space_between .development {} "|" "\n" "x" spaces emits between ahead (by decide)
      fun empty => absurd empty (by decide)⟩

end Session

end GrammarLex
