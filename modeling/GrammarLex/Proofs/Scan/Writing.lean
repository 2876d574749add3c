import GrammarLex.Proofs.Scan.Walk
import Mathlib.Data.List.Forall2

/-!
# Texts written in another way

One text may be another one with every character spelled in its own way, or the same text somewhere
else. If a stride over the one is the spelled stride over the other, both come to the same: the same
token with a spelled lexeme, at the places that belong together, or the same error. Only if a spelling
has several characters may one of them break off alone, at a lexeme that is too long.
-/
namespace GrammarLex

/-- How a text is written in another way, and which places belong together. A place is named with
the text behind it. -/
structure Writing where
  spell : Char → List Char
  places : List Char → Position → Position → Prop
  advance : ∀ {used rest : List Char} {p p' : Position}, places (used ++ rest) p p' →
    places rest (p.advanceBy used) (p'.advanceBy (used.flatMap spell))

namespace Writing

variable (w : Writing)

def text (chars : List Char) : List Char := chars.flatMap w.spell

/-- A text has as many characters as before. -/
def KeepsLength : Prop := ∀ chars, (w.text chars).length = chars.length

/-- What is found first where a character was. -/
def found : Found → Found
  | .char c => .ofNext (w.spell c).head?
  | .endOfInput => .endOfInput

def obstacle : Obstacle → Obstacle
  | .unexpected found expected => .unexpected (w.found found) expected
  | .mismatched expected found => .mismatched expected found
  | .broken e => .broken e

def landing : Except Obstacle Landing → Except Obstacle Landing
  | .ok ⟨next, token, turn⟩ => .ok ⟨next, token.map fun (kind, lexeme) => (kind, w.text lexeme), turn⟩
  | .error obstacle => .error (w.obstacle obstacle)

@[simp] theorem text_nil : w.text [] = [] := rfl

@[simp] theorem text_append (chars chars' : List Char) :
    w.text (chars ++ chars') = w.text chars ++ w.text chars' := List.flatMap_append

end Writing

/-! ### What is alike -/

/-- The same error at another place, with what is found there. -/
def ScanError.moved (found : Found → Found) (p : Position) : ScanError → ScanError
  | .unexpected what expected _ => .unexpected (found what) expected p
  | .mismatched expected what _ => .mismatched expected what p
  | .conditionFailed expected _ => .conditionFailed expected p
  | .decode reason _ => .decode reason p
  | .lexemeTooLong length _ => .lexemeTooLong length p
  | .nestedTooDeep depth _ => .nestedTooDeep depth p
  | .tooManyTokens count _ => .tooManyTokens count p

/-- A lexeme was too long for the limit. -/
def ScanError.isTooLong : ScanError → Bool
  | .lexemeTooLong .. => true
  | _ => false

structure ScanError.Like (w : Writing) (e e' : ScanError) : Prop where
  moved_eq : e' = e.moved w.found e'.position
  placed : ∃ rest, w.places rest e.position e'.position

structure Token.Like (w : Writing) (token token' : Token) : Prop where
  kind_eq : token'.kind = token.kind
  lexeme_eq : token'.lexeme.toList = w.text token.lexeme.toList
  placed : ∃ rest p p', w.places rest p p' ∧ (token.line, token.column) = (p.line, p.column) ∧
    (token'.line, token'.column) = (p'.line, p'.column)

/-- Where a group was opened is told by no token, so it does not matter. -/
structure Frame.Like (w : Writing) (frame frame' : Frame) : Prop where
  kind_eq : frame'.kind = frame.kind
  closer_eq : frame'.closer = frame.closer
  placed : frame.kind.isGroup = false → ∃ rest, w.places rest frame.openedAt frame'.openedAt

structure Spot.Like (w : Writing) (s s' : Spot) : Prop where
  phase_eq : s'.phase = s.phase
  frames_like : List.Forall₂ (Frame.Like w) s.frames s'.frames
  left_eq : s'.left = ⟨w.text s.left.chars, s.left.fault⟩
  placed : w.places s.left.chars s.position s'.position

/-- A stride over the spelled text; how many characters it counts is left open. -/
structure Stride.Like (w : Writing) (stride stride' : Stride) : Prop where
  front_eq : stride'.front = w.text stride.front
  body_eq : stride'.body = w.text stride.body
  rest_eq : stride'.rest = w.text stride.rest
  landing_eq : stride'.landing = w.landing stride.landing
  counted_eq : w.KeepsLength → stride'.counted = stride.counted

variable {w : Writing} {limits : ScanLimits} {acceptReturn : Bool} {s s' : Spot}
  {stride stride' : Stride} {frames frames' : List Frame} {p p' : Position} {tokens : List Token}

/-! ### Turns -/

theorem ScanError.Like.of_moved {e e' : ScanError} {rest : List Char} (moved : e' = e.moved w.found p')
    (placed : w.places rest e.position p') : e.Like w e' := by
  have position_eq : e'.position = p' := by
    rw [moved]
    cases e <;> rfl
  refine ⟨?_, rest, ?_⟩
  · rw [position_eq]
    exact moved
  · rw [position_eq]
    exact placed

theorem Obstacle.error_like {rest : List Char} (obstacle : Obstacle) (placed : w.places rest p p') :
    (obstacle.error p).Like w ((w.obstacle obstacle).error p') := by
  cases obstacle <;> exact .of_moved rfl placed

theorem Token.ofPosition_like {rest : List Char} (kind : TokenKind) (lexeme : List Char)
    (placed : w.places rest p p') : (Token.ofPosition (String.ofList lexeme) kind p).Like w
      (.ofPosition (String.ofList (w.text lexeme)) kind p') where
  kind_eq := rfl
  lexeme_eq := by simp [Token.ofPosition]
  placed := ⟨rest, p, p', placed, rfl, rfl⟩

theorem Token.Like.isEndOfStream_eq {token token' : Token} (like : token.Like w token') :
    token'.isEndOfStream = token.isEndOfStream := by
  rw [isEndOfStream, isEndOfStream, like.kind_eq]

/-- Every open construct has the closer of what can open it. -/
def Spot.Proper (s : Spot) : Prop :=
  ∀ frame ∈ s.frames, ∃ opener, FrameKind.ofOpener? opener = some frame.kind ∧
    frame.closer = closerOf opener

/-- Opening a construct is refused in both texts or in none. -/
theorem Turn.apply_like {turn : Turn} {rest : List Char}
    (opened : ∀ opener, turn = .opens opener → (FrameKind.ofOpener? opener).isSome)
    (frames_like : List.Forall₂ (Frame.Like w) frames frames') (placed : w.places rest p p') :
    (∃ e e', turn.apply limits p frames = .error e ∧ turn.apply limits p' frames' = .error e' ∧
      e.Like w e') ∨
    ∃ after after', turn.apply limits p frames = .ok after ∧
      turn.apply limits p' frames' = .ok after' ∧ List.Forall₂ (Frame.Like w) after after' := by
  cases turn with
  | stay => exact .inr ⟨frames, frames', rfl, rfl, frames_like⟩
  | opens opener =>
    obtain ⟨kind, known⟩ := Option.isSome_iff_exists.mp (opened opener rfl)
    have depth_eq : Nesting.depth ⟨frames', 0⟩ = Nesting.depth ⟨frames, 0⟩ :=
      frames_like.length_eq.symm
    by_cases full : Nesting.depth ⟨frames, 0⟩ ≥ limits.maxDepth
    · simp only [apply, Nesting.openWith, known, Nesting.push, depth_eq, if_pos full]
      exact .inl ⟨_, _, rfl, rfl, .of_moved rfl placed⟩
    · simp only [apply, Nesting.openWith, known, Nesting.push, depth_eq, if_neg full]
      exact .inr ⟨_, _, rfl, rfl, .cons ⟨rfl, rfl, fun _ => ⟨rest, placed⟩⟩ frames_like⟩
  | closes =>
    refine .inr ⟨frames.tail, frames'.tail, rfl, rfl, ?_⟩
    cases frames_like with
    | nil => exact .nil
    | cons _ others => exact others

namespace Spot

theorem top_like (like : s.Like w s') : s'.top = s.top := by
  obtain ⟨phase, frames, left, p⟩ := s
  obtain ⟨phase', frames', left', p'⟩ := s'
  cases like.frames_like with
  | nil => rfl
  | cons frame _ => simp [top, frame.kind_eq, frame.closer_eq]

/-- A token starts where the handler starts, or at the opener of an enclosed text. -/
theorem start_like (agrees : s.Agrees acceptReturn) (like : s.Like w s') (chars : List Char)
    (passed : s.phase = .scanEnclosed → chars = []) {rest : List Char}
    (whole : chars ++ rest = s.left.chars) :
    ∃ rest, w.places rest (s.start.advanceBy chars) (s'.start.advanceBy (w.text chars)) := by
  by_cases enclosed : s.phase = .scanEnclosed
  · obtain rfl := passed enclosed
    have nests := agrees.nests
    rw [enclosed] at nests
    obtain ⟨frame, groups, frames_eq, kind, -⟩ := nests
    obtain ⟨phase_eq, frames_like, -, -⟩ := like
    rw [frames_eq, List.forall₂_cons_left_iff] at frames_like
    obtain ⟨frame', groups', opened, -, frames_eq'⟩ := frames_like
    have start_eq : s.start = frame.openedAt := by simp only [start, enclosed, frames_eq]
    have start_eq' : s'.start = frame'.openedAt := by
      simp only [start, phase_eq, enclosed, frames_eq']
    rw [start_eq, start_eq']
    exact opened.placed (FrameKind.isGroup_of_enclosure kind)
  · have placed := like.placed
    rw [← whole] at placed
    rw [start_of_other enclosed, start_of_other (like.phase_eq ▸ enclosed)]
    exact ⟨rest, w.advance placed⟩

/-- What is opened is an opening delimiter. -/
theorem known_opener (agrees : s.Agrees acceptReturn) {landing : Landing} {opener : Char}
    (lands : (s.stride acceptReturn).landing = .ok landing) (opens : landing.turn = .opens opener) :
    (FrameKind.ofOpener? opener).isSome = true := by
  have opener_eq : (s.stride acceptReturn).opener? = some opener := by
    obtain ⟨next, token, turn⟩ := landing
    subst opens
    simp only [Stride.opener?, lands]
  obtain ⟨phase, frames, ⟨chars, fault⟩, p⟩ := s
  cases opening : phase.isOpening with
  | false =>
    have plain := Phase.stride_plain acceptReturn fault (top ⟨phase, frames, ⟨chars, fault⟩, p⟩)
      opening chars
    cases opener_eq.symm.trans plain.opens_none
  | true =>
    have selects : phase.isSelected = true := by
      cases phase <;> first | rfl | cases opening
    obtain ⟨c, rest, rfl, selected⟩ := agrees.shown selects
    have starts : phase.Starts c := selected.starts
    cases phase with
    | openEnclosure =>
      cases opener_eq
      rcases starts with rfl | rfl | rfl <;> rfl
    | openGroup =>
      cases opener_eq
      rcases starts with rfl | rfl <;> rfl
    | actionOpen =>
      cases opener_eq
      rcases starts with rfl
      rfl
    | _ => cases opening

theorem proper_of_next {token : Option Token} (proper : s.Proper)
    (next_eq : s.next limits acceptReturn = .ok (token, s')) : s'.Proper := by
  obtain ⟨landing, frames, -, -, turned, -, rfl⟩ := take_eq_ok next_eq
  cases turn : landing.turn with
  | stay =>
    rw [turn] at turned
    cases turned
    exact proper
  | opens opener =>
    rw [turn] at turned
    obtain ⟨kind, known, -, rfl⟩ := Turn.apply_opens turned
    exact List.forall_mem_cons.mpr ⟨⟨opener, known, rfl⟩, proper⟩
  | closes =>
    rw [turn] at turned
    cases turned
    exact fun frame member => proper frame (List.mem_of_mem_tail member)

theorem Walk.proper (walk : Walk limits acceptReturn s tokens s') (proper : s.Proper) :
    s'.Proper := by
  induction walk with
  | refl => exact proper
  | step agrees next_eq behind ih => exact ih (proper_of_next proper next_eq)

/-! ### Steps that are alike -/

/-- Two outcomes of a step are alike: two errors, or tokens or none and the next spots. -/
inductive Alike (w : Writing) : Except ScanError (Option Token × Spot) →
    Except ScanError (Option Token × Spot) → Prop where
  | errors {e e' : ScanError} (alike : e.Like w e') : Alike w (.error e) (.error e')
  | steps {token token' : Option Token} {s s' : Spot} (tokens : Option.Rel (Token.Like w) token token')
      (spots : s.Like w s') : Alike w (.ok (token, s)) (.ok (token', s'))

namespace Alike

variable {outcome : Except ScanError (Option Token × Spot)} {e : ScanError} {token : Token}

theorem of_error (alike : Alike w (.error e) outcome) :
    ∃ e', outcome = .error e' ∧ e.Like w e' := by
  cases alike with
  | errors e_like => exact ⟨_, rfl, e_like⟩

theorem of_silent (alike : Alike w (.ok (none, s)) outcome) :
    ∃ s', outcome = .ok (none, s') ∧ s.Like w s' := by
  cases alike with
  | steps tokens spots =>
    cases tokens
    exact ⟨_, rfl, spots⟩

theorem of_token (alike : Alike w (.ok (some token, s)) outcome) :
    ∃ token' s', outcome = .ok (some token', s') ∧ token.Like w token' ∧ s.Like w s' := by
  cases alike with
  | steps tokens spots =>
    cases tokens with
    | some token_like => exact ⟨_, _, rfl, token_like, spots⟩

end Alike

/-- Strides that are alike come to the same, unless only one of them counts too many characters. -/
theorem next_like (agrees : s.Agrees acceptReturn) (like : s.Like w s')
    (strides : (s.stride acceptReturn).Like w (s'.stride acceptReturn))
    (counts : limits.maxLexeme < (s'.stride acceptReturn).counted ↔
      limits.maxLexeme < (s.stride acceptReturn).counted) :
    Alike w (s.next limits acceptReturn) (s'.next limits acceptReturn) := by
  have whole := s.stride_whole acceptReturn
  have passed : s.phase = .scanEnclosed → (s.stride acceptReturn).front = [] := by
    intro enclosed
    rw [stride, enclosed]
    cases s.top with
    | none => rfl
    | some top => exact Stride.facing_front
  have opened (landing : Landing) (opener : Char)
      (lands : (s.stride acceptReturn).landing = .ok landing) (opens : landing.turn = .opens opener) :
      (FrameKind.ofOpener? opener).isSome = true := known_opener agrees lands opens
  unfold next
  generalize s.stride acceptReturn = stride at *
  generalize s'.stride acceptReturn = stride' at *
  have used_eq : stride'.used = w.text stride.used := by
    rw [Stride.used, Stride.used, strides.front_eq, strides.body_eq, w.text_append]
  have placed := like.placed
  rw [← whole] at placed
  have there := w.advance placed
  obtain ⟨behind, starts⟩ : ∃ rest, w.places rest (s.start.advanceBy stride.front)
      (s'.start.advanceBy (w.text stride.front)) := by
    apply start_like agrees like stride.front passed
    rw [← List.append_assoc]
    exact whole
  rw [← strides.front_eq] at starts
  by_cases long : limits.maxLexeme < stride.counted
  · rw [take_of_long long, take_of_long (counts.mpr long)]
    exact .errors (.of_moved rfl starts)
  · have room := Nat.le_of_not_lt long
    have room' := Nat.le_of_not_lt (counts.not.mpr long)
    have landing_eq := strides.landing_eq
    cases lands : stride.landing with
    | error obstacle =>
      rw [lands] at landing_eq
      rw [take_of_obstacle obstacle room lands, take_of_obstacle _ room' landing_eq, used_eq]
      exact .errors (obstacle.error_like there)
    | ok landing =>
      rw [lands] at landing_eq
      rcases Turn.apply_like (opened landing · lands) like.frames_like like.placed with
        ⟨e, e', turned, turned', alike⟩ | ⟨after, after', turned, turned', frames_like⟩
      · rw [take_of_refusal room lands turned, take_of_refusal room' landing_eq turned']
        exact .errors alike
      · rw [take_of_landing room lands turned, take_of_landing room' landing_eq turned']
        refine .steps ?_ ⟨rfl, frames_like, ?_, ?_⟩
        · obtain ⟨next, token, turn⟩ := landing
          cases token with
          | none => exact .none
          | some pair => exact .some (Token.ofPosition_like pair.1 pair.2 starts)
        · simp only [strides.rest_eq, like.left_eq]
        · rw [used_eq]
          exact there

end Spot

end GrammarLex
