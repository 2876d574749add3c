import GrammarLex.Token.Basic

/-!
# Buffered tokens and the replay cursor

Tokens are appended as they are recognised and never removed or altered. A cursor names the next
token to hand out; saving and restoring it replays tokens without reading text again. The buffer
is bounded, and the end marker closes it.
-/
namespace GrammarLex

inductive BufferRefusal where
  -- The buffer is full; `count` tokens would be needed.
  | tooManyTokens (count : Nat)
  | alreadyFinished (lexeme : String)
  deriving DecidableEq, Repr

/-- The wording of a refusal, given the bound of the buffer. -/
def BufferRefusal.message (maxTokens : Nat) : BufferRefusal → String
  | .tooManyTokens count =>
    "Too many tokens: " ++ toString count ++ " (max " ++ toString maxTokens ++ ")"
  | .alreadyFinished lexeme => "Token '" ++ lexeme ++ "' appended after end of stream"

/-- A saved cursor. It may be restored in any buffer. -/
structure Mark where
  index : Nat
  deriving DecidableEq, Repr

def Mark.compare (a b : Mark) : Ordering := Ord.compare a.index b.index

structure TokenBuffer where
  -- The tokens, in the order of recognition.
  tokens : Array Token := #[]
  -- Index of the next token to hand out.
  cursor : Nat := 0
  -- The end marker has been appended.
  finished : Bool := false
  deriving Repr

namespace TokenBuffer

def size (b : TokenBuffer) : Nat := b.tokens.size

/-- Why the token may not be appended; being finished is reported before being full. -/
def refusal? (b : TokenBuffer) (maxTokens : Nat) (token : Token) : Option BufferRefusal :=
  if b.finished then some (.alreadyFinished token.lexeme)
  else if b.size ≥ maxTokens then some (.tooManyTokens (b.size + 1))
  else none

def append (b : TokenBuffer) (token : Token) : TokenBuffer where
  tokens := b.tokens.push token
  cursor := b.cursor
  finished := b.finished || token.isEndOfStream

def push (b : TokenBuffer) (maxTokens : Nat) (token : Token) : Except BufferRefusal TokenBuffer :=
  match b.refusal? maxTokens token with
  | some refusal => .error refusal
  | none => .ok (b.append token)

def current? (b : TokenBuffer) : Option Token := b.tokens[b.cursor]?

/-- Hand out the token under the cursor, if there is one. -/
def advance (b : TokenBuffer) : Option Token × TokenBuffer :=
  match b.current? with
  | some token => (some token, { b with cursor := b.cursor + 1 })
  | none => (none, b)

def mark (b : TokenBuffer) : Mark := ⟨b.cursor⟩

/-- Restore a saved cursor; one beyond the tokens leads to their end. -/
def reset (b : TokenBuffer) (m : Mark) : TokenBuffer :=
  { b with cursor := min m.index b.size }

def isCaughtUp (b : TokenBuffer) : Bool := b.cursor ≥ b.size

def isExhausted (b : TokenBuffer) : Bool := b.finished && b.isCaughtUp

def isEmpty (b : TokenBuffer) : Bool := b.tokens.isEmpty

/-- The tokens at indices from `low` up to, not including, `high`; bounds that are out of order or
beyond the tokens cannot be asked for. -/
def slice (b : TokenBuffer) (low high : Nat) (_ordered : low ≤ high) (_within : high ≤ b.size) :
    List Token :=
  (b.tokens.extract low high).toList

/-- The tokens from the cursor on. -/
def remaining (b : TokenBuffer) : List Token :=
  b.slice (min b.cursor b.size) b.size (Nat.min_le_right _ _) (Nat.le_refl _)

/-- At most `count` tokens from the cursor on. -/
def lookahead (b : TokenBuffer) (count : Nat) : List Token :=
  let start := min b.cursor b.size
  have within : start + min count (b.size - start) ≤ b.size := by omega
  b.slice start (start + min count (b.size - start)) (Nat.le_add_right _ _) within

/-- The tokens at most `radius` places from the cursor. The upper end of the window is computed in
one machine word. -/
def context? (b : TokenBuffer) (radius : Nat) : Except Fault (List Token) :=
  if b.cursor + radius + 1 > maxWord64 then .error .additionOverflow
  else
    let stop := min (b.cursor + radius + 1) b.size
    .ok (b.slice (min (b.cursor - radius) stop) stop (Nat.min_le_right _ _) (Nat.min_le_right _ _))

def describe (b : TokenBuffer) : String :=
  let current := match b.current? with
    | some token => token.render
    | none => if b.finished then "<end>" else "<unscanned>"
  "TokenStream(pos: " ++ toString b.cursor ++ "/" ++ toString b.size ++ ", current: " ++ current ++
    ", finished: " ++ toString b.finished ++ ")"

/-! ### What the operations leave -/

section

variable {b b' : TokenBuffer} {maxTokens : Nat} {token : Token}

@[simp] theorem size_append (b : TokenBuffer) (token : Token) :
    (b.append token).size = b.size + 1 :=
  Array.size_push _

theorem size_lt_of_not_refused (accepted : b.refusal? maxTokens token = none) :
    b.size < maxTokens := by
  simp only [refusal?] at accepted
  split at accepted
  · simp at accepted
  · split at accepted
    · simp at accepted
    next room => exact Nat.lt_of_not_le room

/-- A buffer without the end marker refuses a token only for lack of room. -/
theorem refusal?_of_unfinished (unfinished : b.finished = false) (maxTokens : Nat) (token : Token) :
    b.refusal? maxTokens token =
      if b.size ≥ maxTokens then some (.tooManyTokens (b.size + 1)) else none := by
  rw [refusal?, unfinished]
  rfl

theorem advance_of_some (advanced : b.advance = (some token, b')) :
    b.cursor < b.size ∧ b' = { b with cursor := b.cursor + 1 } := by
  unfold advance at advanced
  split at advanced
  next found =>
    obtain ⟨bound, _⟩ := Array.getElem?_eq_some_iff.mp found
    simp only [Prod.mk.injEq] at advanced
    exact ⟨bound, advanced.2.symm⟩
  next => simp at advanced

theorem advance_of_none (advanced : b.advance = (none, b')) : b.size ≤ b.cursor := by
  unfold advance at advanced
  split at advanced
  next => cases advanced
  next missing => exact Array.getElem?_eq_none_iff.mp missing

theorem advance_tokens (b : TokenBuffer) : b.advance.2.tokens = b.tokens := by
  unfold advance
  split <;> rfl

theorem advance_finished (b : TokenBuffer) : b.advance.2.finished = b.finished := by
  unfold advance
  split <;> rfl

theorem cursor_le_advance (b : TokenBuffer) : b.cursor ≤ b.advance.2.cursor := by
  unfold advance
  split
  · exact Nat.le_succ _
  · exact Nat.le_refl _

/-- A token that is taken in and handed out at once stands behind the others. -/
theorem tokens_taken (b : TokenBuffer) (token : Token) :
    (b.append token).advance.2.tokens.toList = b.tokens.toList ++ [token] := by
  rw [advance_tokens]
  exact Array.toList_push

theorem finished_taken (unfinished : b.finished = false) (token : Token) :
    (b.append token).advance.2.finished = token.isEndOfStream := by
  rw [advance_finished, append, unfinished, Bool.false_or]

end

end TokenBuffer

end GrammarLex
