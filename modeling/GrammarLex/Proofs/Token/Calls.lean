import GrammarLex.Token.Buffer
import Mathlib.Data.List.Infix

/-!
# Calls to a buffer

A buffer is pushed to, advanced, marked and reset, in any order, with any tokens and with marks of
any origin. Seen through these calls it is a list that grows at its end only, and an index into it:
`TokenBuffer.Lists` says so, and every call keeps it. Replaying from a mark hands out the tokens that
were handed out behind it, because both times they are read off the same list.
-/
namespace GrammarLex

namespace TokenBuffer

/-- A call to a buffer. The mark may be one of another buffer. -/
inductive Call where
  | push (token : Token)
  | advance
  | mark
  | reset (m : Mark)
  deriving DecidableEq

inductive Reply where
  | pushed
  | refused (refusal : BufferRefusal)
  | handed (token : Option Token)
  | marked (m : Mark)
  | restored
  deriving DecidableEq

/-- Make a call. A token that is refused leaves the buffer to the caller as it was. -/
def call (maxTokens : Nat) (b : TokenBuffer) : Call → Reply × TokenBuffer
  | .push token =>
    match b.push maxTokens token with
    | .ok b' => (.pushed, b')
    | .error refusal => (.refused refusal, b)
  | .advance => (.handed b.advance.1, b.advance.2)
  | .mark => (.marked b.mark, b)
  | .reset m => (.restored, b.reset m)

/-- The buffer that a series of calls leaves. -/
def after (maxTokens : Nat) (b : TokenBuffer) (calls : List Call) : TokenBuffer :=
  calls.foldl (fun b c => (b.call maxTokens c).2) b

def replies (maxTokens : Nat) (b : TokenBuffer) : List Call → List Reply
  | [] => []
  | c :: calls => (b.call maxTokens c).1 :: (b.call maxTokens c).2.replies maxTokens calls

def taken? : Call × Reply → Option Token
  | (.push token, .pushed) => some token
  | _ => none

/-- The tokens that the buffer has taken in, in order. -/
def taken (maxTokens : Nat) (b : TokenBuffer) (calls : List Call) : List Token :=
  (calls.zip (b.replies maxTokens calls)).filterMap taken?

def Reply.handed? : Reply → Option Token
  | .handed token => token
  | _ => none

/-- The tokens that the buffer has handed out, in order. -/
def handed (maxTokens : Nat) (b : TokenBuffer) (calls : List Call) : List Token :=
  (b.replies maxTokens calls).filterMap Reply.handed?

/-- The cursor is not taken back. -/
def Call.onward : Call → Bool
  | .reset _ => false
  | _ => true

variable {maxTokens : Nat} {b : TokenBuffer} {c : Call} {calls : List Call} {tokens : List Token}

/-! ### One call -/

theorem advance_of_lt (inside : b.cursor < b.size) :
    b.advance = (some b.tokens[b.cursor], { b with cursor := b.cursor + 1 }) := by
  have current : b.current? = some b.tokens[b.cursor] := Array.getElem?_eq_getElem inside
  simp only [advance, current]

theorem advance_of_le (behind : b.size ≤ b.cursor) : b.advance = (none, b) := by
  have current : b.current? = none := Array.getElem?_eq_none behind
  simp only [advance, current]

theorem push_of_refused {refusal : BufferRefusal} {token : Token}
    (refused : b.refusal? maxTokens token = some refusal) :
    b.push maxTokens token = .error refusal := by
  simp only [push, refused]

theorem push_of_accepted {token : Token} (accepted : b.refusal? maxTokens token = none) :
    b.push maxTokens token = .ok (b.append token) := by
  simp only [push, accepted]

/-- A call changes the tokens by what it takes in, which comes last. -/
theorem tokens_call (maxTokens : Nat) (b : TokenBuffer) (c : Call) :
    (b.call maxTokens c).2.tokens.toList =
      b.tokens.toList ++ (taken? (c, (b.call maxTokens c).1)).toList := by
  cases c with
  | push token =>
    cases refused : b.refusal? maxTokens token with
    | some refusal => simp [call, push_of_refused refused, taken?]
    | none => simp [call, push_of_accepted refused, taken?, append]
  | advance => simp [call, advance_tokens, taken?]
  | mark => simp [call, taken?]
  | reset m => simp [call, reset, taken?]

/-- The tokens, and an index that is not beyond them. The list is closed by the end marker. -/
structure Lists (maxTokens : Nat) (tokens : List Token) (b : TokenBuffer) : Prop where
  tokens_eq : b.tokens.toList = tokens
  cursor_le : b.cursor ≤ tokens.length
  length_le : tokens.length ≤ maxTokens
  finished_eq : b.finished = tokens.getLast?.any Token.isEndOfStream
  unmarked : ∀ token ∈ tokens.dropLast, token.isEndOfStream = false

namespace Lists

theorem size_eq (lists : b.Lists maxTokens tokens) : b.size = tokens.length := by
  rw [size, ← Array.length_toList, lists.tokens_eq]

/-- An open list has no end marker at all. -/
theorem unmarked_of_unfinished (lists : b.Lists maxTokens tokens) (unfinished : b.finished = false) :
    ∀ token ∈ tokens, token.isEndOfStream = false := by
  obtain ⟨-, -, -, finished_eq, unmarked⟩ := lists
  cases tokens using List.reverseRecOn with
  | nil => simp
  | append_singleton tokens last =>
    rw [unfinished, List.getLast?_concat, Option.any_some] at finished_eq
    rw [List.dropLast_concat] at unmarked
    intro token member
    rcases List.mem_append.mp member with member | member
    · exact unmarked token member
    · rw [List.mem_singleton.mp member]
      exact finished_eq.symm

theorem push_eq (lists : b.Lists maxTokens tokens) (token : Token) :
    b.call maxTokens (.push token) =
      if b.finished then (.refused (.alreadyFinished token.lexeme), b)
      else if tokens.length = maxTokens then (.refused (.tooManyTokens (tokens.length + 1)), b)
      else (.pushed, ⟨b.tokens.push token, b.cursor, token.isEndOfStream⟩) := by
  cases closed : b.finished with
  | true =>
    have refused : b.refusal? maxTokens token = some (.alreadyFinished token.lexeme) := by
      simp only [refusal?, closed, if_true]
    simp only [call, push_of_refused refused, if_true]
  | false =>
    have refusal_eq := refusal?_of_unfinished closed maxTokens token
    rw [lists.size_eq] at refusal_eq
    by_cases full : tokens.length = maxTokens
    · rw [if_pos full.ge] at refusal_eq
      simp only [call, push_of_refused refusal_eq, Bool.false_eq_true, if_false, if_pos full]
    · have room : ¬tokens.length ≥ maxTokens := by
        have bound := lists.length_le
        omega
      rw [if_neg room] at refusal_eq
      simp only [call, push_of_accepted refusal_eq, Bool.false_eq_true, if_false, if_neg full, append,
        closed, Bool.false_or]

theorem advance_eq (lists : b.Lists maxTokens tokens) :
    b.call maxTokens .advance =
      if inside : b.cursor < tokens.length then
        (.handed (some tokens[b.cursor]), { b with cursor := b.cursor + 1 })
      else (.handed none, b) := by
  split
  next inside =>
    have inside' : b.cursor < b.size := by rwa [lists.size_eq]
    have current : b.tokens.toList[b.cursor]? = some tokens[b.cursor] := by
      rw [lists.tokens_eq, List.getElem?_eq_getElem inside]
    rw [Array.getElem?_toList, Array.getElem?_eq_getElem inside'] at current
    rw [TokenBuffer.call, advance_of_lt inside']
    exact congrArg (fun token => (Reply.handed token, { b with cursor := b.cursor + 1 })) current
  next outside =>
    have behind : b.size ≤ b.cursor := by
      rw [lists.size_eq]
      exact Nat.le_of_not_lt outside
    rw [TokenBuffer.call, advance_of_le behind]

theorem call (lists : b.Lists maxTokens tokens) (c : Call) :
    (b.call maxTokens c).2.Lists maxTokens (tokens ++ (taken? (c, (b.call maxTokens c).1)).toList) := by
  have tokens_eq := tokens_call maxTokens b c
  rw [lists.tokens_eq] at tokens_eq
  -- Only a push that is accepted makes a difference to the list.
  cases c with
  | push token =>
    rw [lists.push_eq] at tokens_eq ⊢
    split at tokens_eq
    next closed =>
      simpa [closed, taken?] using lists
    next unclosed =>
      have unfinished : b.finished = false := Bool.eq_false_iff.mpr unclosed
      split at tokens_eq
      next full => simpa [unclosed, full, taken?] using lists
      next room =>
        rw [if_neg unclosed, if_neg room]
        refine ⟨tokens_eq, ?_, ?_, ?_, ?_⟩
        · have bound := lists.cursor_le
          simp [taken?]
          omega
        · have bound := lists.length_le
          simp [taken?]
          omega
        · simp [taken?]
        · simpa [taken?] using lists.unmarked_of_unfinished unfinished
  | advance =>
    rw [lists.advance_eq] at tokens_eq ⊢
    split at tokens_eq
    next inside =>
      rw [dif_pos inside]
      simp only [taken?, Option.toList_none, List.append_nil]
      exact { lists with cursor_le := inside }
    next outside => simpa [outside, taken?] using lists
  | mark => simpa [TokenBuffer.call, taken?] using lists
  | reset m =>
    simp only [TokenBuffer.call, taken?, Option.toList_none, List.append_nil]
    have bound : min m.index b.size ≤ tokens.length := lists.size_eq ▸ Nat.min_le_right _ _
    exact { lists with cursor_le := bound }

end Lists

/-! ### Series of calls -/

theorem after_append (maxTokens : Nat) (b : TokenBuffer) (first second : List Call) :
    b.after maxTokens (first ++ second) = (b.after maxTokens first).after maxTokens second :=
  List.foldl_append

theorem taken_cons (maxTokens : Nat) (b : TokenBuffer) (c : Call) (calls : List Call) :
    b.taken maxTokens (c :: calls) = (taken? (c, (b.call maxTokens c).1)).toList ++
      (b.call maxTokens c).2.taken maxTokens calls := by
  rw [taken, replies, List.zip_cons_cons, List.filterMap_cons]
  cases taken? (c, (b.call maxTokens c).1) <;> rfl

theorem handed_cons (maxTokens : Nat) (b : TokenBuffer) (c : Call) (calls : List Call) :
    b.handed maxTokens (c :: calls) = (b.call maxTokens c).1.handed?.toList ++
      (b.call maxTokens c).2.handed maxTokens calls := by
  rw [handed, replies, List.filterMap_cons]
  cases (b.call maxTokens c).1.handed? <;> rfl

theorem tokens_after (maxTokens : Nat) (b : TokenBuffer) (calls : List Call) :
    (b.after maxTokens calls).tokens.toList = b.tokens.toList ++ b.taken maxTokens calls := by
  induction calls generalizing b with
  | nil => exact (List.append_nil _).symm
  | cons c calls ih =>
    rw [taken_cons, ← List.append_assoc, ← tokens_call]
    exact ih _

theorem Lists.after (lists : b.Lists maxTokens tokens) (calls : List Call) :
    (b.after maxTokens calls).Lists maxTokens (tokens ++ b.taken maxTokens calls) := by
  induction calls generalizing b tokens with
  | nil => simpa [TokenBuffer.after, TokenBuffer.taken, replies] using lists
  | cons c calls ih =>
    rw [taken_cons, ← List.append_assoc]
    exact ih (lists.call c)

theorem lists_empty (maxTokens : Nat) : Lists maxTokens [] {} where
  tokens_eq := rfl
  cursor_le := Nat.le_refl _
  length_le := Nat.zero_le _
  finished_eq := rfl
  unmarked := by simp

/-! ### Replaying -/

/-- A call that does not take the cursor back moves it over the token that it hands out. -/
theorem cursor_call (maxTokens : Nat) (b : TokenBuffer) (onward : c.onward = true) :
    (b.call maxTokens c).2.cursor = b.cursor + (b.call maxTokens c).1.handed?.toList.length ∧
      (b.call maxTokens c).1.handed?.toList <+: b.tokens.toList.drop b.cursor := by
  cases c with
  | push token =>
    cases refused : b.refusal? maxTokens token with
    | some refusal => simp [call, push_of_refused refused, Reply.handed?]
    | none => simp [call, push_of_accepted refused, Reply.handed?, append]
  | advance =>
    rcases Nat.lt_or_ge b.cursor b.size with inside | behind
    · have inside' : b.cursor < b.tokens.toList.length := by
        rw [Array.length_toList]
        exact inside
      rw [call, advance_of_lt inside, List.drop_eq_getElem_cons inside', Array.getElem_toList]
      exact ⟨rfl, _, rfl⟩
    · simp [call, advance_of_le behind, Reply.handed?]
  | mark => simp [call, Reply.handed?]
  | reset m => cases onward

/-- What is handed out is read off the tokens, from the cursor on. -/
theorem handed_read (maxTokens : Nat) (b : TokenBuffer) (onward : ∀ c ∈ calls, c.onward = true) :
    b.handed maxTokens calls <+: (b.after maxTokens calls).tokens.toList.drop b.cursor := by
  induction calls generalizing b with
  | nil => exact List.nil_prefix
  | cons c calls ih =>
    obtain ⟨cursor_eq, ahead⟩ := cursor_call maxTokens b (onward c List.mem_cons_self)
    have behind := ih (b.call maxTokens c).2 fun c member =>
      onward c (List.mem_cons_of_mem _ member)
    have grown : b.tokens.toList.drop b.cursor <+:
        (b.after maxTokens (c :: calls)).tokens.toList.drop b.cursor := by
      rw [tokens_after, List.drop_append]
      exact List.prefix_append _ _
    obtain ⟨rest, rest_eq⟩ := ahead.trans grown
    rw [handed_cons, ← rest_eq, List.prefix_append_right_inj]
    rw [cursor_eq, ← List.drop_drop] at behind
    change _ <+: ((b.after maxTokens (c :: calls)).tokens.toList.drop b.cursor).drop _ at behind
    rwa [← rest_eq, List.drop_left] at behind

/-- Every advance hands out a token as long as there are tokens. -/
theorem min_le_length_handed (maxTokens : Nat) (b : TokenBuffer)
    (onward : ∀ c ∈ calls, c.onward = true) :
    min (calls.count .advance) (b.size - b.cursor) ≤ (b.handed maxTokens calls).length := by
  induction calls generalizing b with
  | nil => simp
  | cons c calls ih =>
    have later := ih (b.call maxTokens c).2 fun c member =>
      onward c (List.mem_cons_of_mem _ member)
    obtain ⟨cursor_eq, -⟩ := cursor_call maxTokens b (onward c List.mem_cons_self)
    have grown : b.size ≤ (b.call maxTokens c).2.size := by
      have tokens_eq := congrArg List.length (tokens_call maxTokens b c)
      rw [List.length_append, Array.length_toList, Array.length_toList] at tokens_eq
      exact Nat.le.intro tokens_eq.symm
    rw [handed_cons, List.length_append, List.count_cons]
    by_cases advances : c = .advance
    · subst advances
      rcases Nat.lt_or_ge b.cursor b.size with inside | behind
      · have one : (b.call maxTokens .advance).1.handed?.toList.length = 1 := by
          simp [call, advance_of_lt inside, Reply.handed?]
        simp only [beq_self_eq_true, if_true]
        omega
      · omega
    · rw [if_neg (by simpa using advances)]
      omega

/-- Going back to where tokens were handed out before hands them out again. -/
theorem replayed (within : b.cursor ≤ b.size) {first again : List Call} (later : List Call)
    (onward : ∀ c ∈ first, c.onward = true) (onward' : ∀ c ∈ again, c.onward = true)
    (enough : (b.handed maxTokens first).length ≤ again.count .advance) :
    b.handed maxTokens first <+:
      ((b.after maxTokens (first ++ later)).reset b.mark).handed maxTokens again := by
  have back : ((b.after maxTokens (first ++ later)).reset b.mark).cursor = b.cursor := by
    have grown := congrArg List.length (tokens_after maxTokens b (first ++ later))
    rw [List.length_append, Array.length_toList, Array.length_toList] at grown
    refine Nat.min_eq_left (Nat.le_trans within ?_)
    exact Nat.le.intro grown.symm
  generalize other_eq : (b.after maxTokens (first ++ later)).reset b.mark = other at back
  have tokens_eq : other.tokens = (b.after maxTokens (first ++ later)).tokens := by
    rw [← other_eq]
    rfl
  -- Both are read off the tokens behind the mark, and there are enough of them.
  have before : b.handed maxTokens first <+: other.tokens.toList.drop b.cursor := by
    refine (handed_read maxTokens b onward).trans ?_
    rw [tokens_eq, after_append, tokens_after maxTokens _ later, List.drop_append]
    exact List.prefix_append _ _
  have afterwards := handed_read maxTokens other onward'
  rw [back, tokens_after, List.drop_append] at afterwards
  have many := min_le_length_handed maxTokens other onward'
  have there := before.length_le
  rw [List.length_drop, Array.length_toList] at there
  rw [back] at many
  refine List.prefix_of_prefix_length_le (before.trans (List.prefix_append _ _)) afterwards ?_
  exact Nat.le_trans (Nat.le_min.mpr ⟨enough, there⟩) many

/-! ### The buffer as a list -/

/-- **A buffer is a list with a bounded index.** After any calls to a new buffer its tokens are those
taken in, in order, and every call has kept the ones before it. The index is not beyond them, they are
within the limit, and the buffer is finished just if the last of them is the end marker, which then is
the only one. A token is refused just if the buffer is finished or, that not being so, full. An
advance hands out the token at the index and moves on, if there is one, and a reset leads to the index
of the mark or the end of the tokens. From the mark of the buffer the tokens handed out behind it are
handed out once more, whatever has happened in between. -/
theorem behaves_as_list (maxTokens : Nat) (calls : List Call) :
    let b := after maxTokens {} calls
    let tokens := taken maxTokens {} calls
    b.Lists maxTokens tokens ∧
    (∀ c, tokens <+: (b.call maxTokens c).2.tokens.toList) ∧
    (∀ token, b.call maxTokens (.push token) =
      if b.finished then (.refused (.alreadyFinished token.lexeme), b)
      else if tokens.length = maxTokens then (.refused (.tooManyTokens (tokens.length + 1)), b)
      else (.pushed, ⟨b.tokens.push token, b.cursor, token.isEndOfStream⟩)) ∧
    b.call maxTokens .advance =
      (if inside : b.cursor < tokens.length then
        (.handed (some tokens[b.cursor]), { b with cursor := b.cursor + 1 })
      else (.handed none, b)) ∧
    b.call maxTokens .mark = (.marked ⟨b.cursor⟩, b) ∧
    (∀ m : Mark, b.call maxTokens (.reset m) =
      (.restored, { b with cursor := min m.index tokens.length })) ∧
    ∀ first later again : List Call,
      (∀ c ∈ first, c.onward = true) → (∀ c ∈ again, c.onward = true) →
      (b.handed maxTokens first).length ≤ again.count .advance →
      b.handed maxTokens first <+:
        ((b.after maxTokens (first ++ later)).reset b.mark).handed maxTokens again := by
  intro b tokens
  have lists : b.Lists maxTokens tokens := (lists_empty maxTokens).after calls
  have within : b.cursor ≤ b.size := lists.size_eq ▸ lists.cursor_le
  refine ⟨lists, ?_, lists.push_eq, lists.advance_eq, rfl, ?_, ?_⟩
  · intro c
    rw [tokens_call, lists.tokens_eq]
    exact List.prefix_append _ _
  · intro m
    rw [← lists.size_eq]
    rfl
  · exact fun first later again onward onward' enough => replayed within later onward onward' enough

/-- A token and the end marker, which comes in between, are handed out once more after a token has
been refused behind the end marker and the cursor has been sent beyond the tokens. -/
theorem behaves_as_list_of_end :
    let word : Token := ⟨"a", .terminalSymbol, 1, 1⟩
    let last : Token := ⟨"", .endOfStream, 1, 2⟩
    let b := after 2 {} [.push word]
    let first := [Call.advance, .push last, .advance]
    b.handed 2 first = [word, last] ∧
      b.handed 2 first <+: ((b.after 2 (first ++ [.push word, .reset ⟨9⟩])).reset b.mark).handed 2
        [.advance, .mark, .advance] := by
  intro word last b first
  obtain ⟨-, -, -, -, -, -, replays⟩ := behaves_as_list 2 [.push word]
  refine ⟨by decide, ?_⟩
  exact replays first [.push word, .reset ⟨9⟩] [.advance, .mark, .advance] (by decide) (by decide)
    (by decide)

end TokenBuffer

end GrammarLex
