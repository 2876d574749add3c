import GrammarLex.Session.Basic

/-!
# Draining a session

Iterating over a session ends: an item that is a token either moves the cursor over a buffered
token or appends one, and the buffer is bounded. `Session.allowance` counts what is left of both,
and `Session.drain` iterates to the end.
-/
namespace GrammarLex

namespace Session

@[simp] theorem note_buffer (notice : Notice) (s : Session) : (s.note notice).buffer = s.buffer :=
  rfl

@[simp] theorem begin_buffer (limits : ScanLimits) (s : Session) :
    (s.begin limits).buffer = s.buffer := by
  unfold begin
  split <;> rfl

@[simp] theorem finish_buffer (s : Session) : s.finish.buffer = s.buffer := by
  unfold finish
  split <;> rfl

@[simp] theorem acknowledge_buffer (token : Token) (s : Session) :
    (s.acknowledge token).buffer = s.buffer := by
  simp only [acknowledge]
  split <;> split <;> simp

/-- Tokens that can still be handed out from the buffer, and tokens that can still be recognised. -/
def allowance (limits : ScanLimits) (s : Session) : Nat :=
  (max s.buffer.size limits.maxTokens - s.buffer.cursor) + (limits.maxTokens - s.buffer.size)

theorem commit_allowance {limits : ScanLimits} {s s' : Session} {token out : Token}
    (committed : commit limits token s = .ok (some out) s') :
    s'.allowance limits < s.allowance limits := by
  unfold commit at committed
  split at committed
  · simp at committed
  next accepted =>
    have room := TokenBuffer.size_lt_of_not_refused accepted
    simp only [EStateM.Result.ok.injEq] at committed
    rw [← committed.2]
    have size : ((s.buffer.append token).advance).2.size = s.buffer.size + 1 := by
      rw [TokenBuffer.size, TokenBuffer.advance_tokens]
      exact TokenBuffer.size_append s.buffer token
    have cursor : s.buffer.cursor ≤ ((s.buffer.append token).advance).2.cursor :=
      TokenBuffer.cursor_le_advance (s.buffer.append token)
    simp only [allowance, acknowledge_buffer, size]
    omega

theorem scan_allowance {limits : ScanLimits} {s s' : Session} {token : Token}
    (scanned : scan limits s = .ok (some token) s') :
    s'.allowance limits < s.allowance limits := by
  unfold scan at scanned
  simp only at scanned
  split at scanned
  next => simpa [allowance] using commit_allowance scanned
  · simp at scanned
  · simp at scanned

theorem next_allowance {limits : ScanLimits} {s s' : Session} {token : Token}
    (handed : next limits s = .ok (some token) s') : s'.allowance limits < s.allowance limits := by
  unfold next at handed
  split at handed
  next advanced =>
    obtain ⟨bound, moved⟩ := TokenBuffer.advance_of_some advanced
    simp only [EStateM.Result.ok.injEq] at handed
    rw [← handed.2]
    simp only [allowance, moved, TokenBuffer.size] at *
    omega
  next =>
    split at handed
    · simp at handed
    · split at handed
      · simp at handed
      · exact scan_allowance handed

/-- Every item of an iteration that is a token leaves a smaller allowance. -/
theorem iterate_allowance {limits : ScanLimits} {s s' : Session} {token : Token}
    (item : iterate limits s = (some (.ok token), s')) :
    s'.allowance limits < s.allowance limits := by
  unfold iterate at item
  split at item
  · simp at item
  · split at item
    next handed =>
      simp only [Prod.mk.injEq, Option.some.injEq, Except.ok.injEq] at item
      exact item.2 ▸ next_allowance handed
    · simp at item
    · simp at item

/-- What an iteration to its end brings. -/
structure Drained where
  tokens : Array Token
  -- The error behind the last of them.
  failure : Option ScanError
  session : Session

/-- Iterate to the end; `taken` are the tokens iterated over before. -/
def drainFrom (limits : ScanLimits) (taken : Array Token) (s : Session) : Drained :=
  match _item : iterate limits s with
  | (some (.ok token), s) => drainFrom limits (taken.push token) s
  | (some (.error e), s) => ⟨taken, some e, s⟩
  | (none, s) => ⟨taken, none, s⟩
termination_by s.allowance limits
decreasing_by exact iterate_allowance _item

def drain (limits : ScanLimits) (s : Session) : Drained := drainFrom limits #[] s

end Session

/-- All tokens of a text, the end marker included. -/
def tokenize (limits : ScanLimits) (preferences : LexicalPreferences) (source : CharSource) :
    Except ScanError (Array Token) :=
  let drained := (Session.start preferences source).drain limits
  match drained.failure with
  | some e => .error e
  | none => .ok drained.tokens

end GrammarLex
