import GrammarLex.Proofs.Scan.Depth
import GrammarLex.Proofs.Session.Chronicle
import GrammarLex.Proofs.Session.Order
import GrammarLex.Proofs.Session.Tally

/-!
# The metrics of a session

A session counts a token when it buffers it, looks at the depth of its machine behind every step, and
counts what it hands out once more. Whatever it is asked for, its metrics are those of the buffered
tokens, with the greatest depth that the machine itself remembers; and a token has been replayed as
often as a request that moves on was answered with one that was buffered before.
-/
namespace GrammarLex

variable {limits : ScanLimits} {acceptReturn : Bool} {source : CharSource} {tokens : List Token}
  {token : Token}

/-! ### The part that the tokens decide -/

namespace Metrics

/-- The metrics without depths and replays, which the tokens do not decide. -/
def tokenwise (m : Metrics) : Metrics := { m with maxDepth := 0, replayed := 0 }

theorem tokenwise_recordToken (preferences : LexicalPreferences) (token : Token) (m : Metrics) :
    (m.recordToken preferences token).tokenwise = m.tokenwise.recordToken preferences token := by
  unfold recordToken
  cases token.kind.tokenClass <;> rfl

theorem recordToken_kept (preferences : LexicalPreferences) (token : Token) (m : Metrics) :
    (m.recordToken preferences token).maxDepth = m.maxDepth ∧
      (m.recordToken preferences token).replayed = m.replayed := by
  unfold recordToken
  cases token.kind.tokenClass <;> exact ⟨rfl, rfl⟩

/-- The metrics are those of a token list, which is finished if it ends with the end marker. -/
structure Describes (m : Metrics) (preferences : LexicalPreferences) (tokens : List Token)
    (finished : Bool) : Prop extends m.Tallies (.ofTokens tokens) finished.toNat where
  length_eq : m.total = tokens.length
  uses : preferences.trackKindPatterns = true → Uses m.usage tokens
  unused : preferences.trackKindPatterns = false → m.usage = []
  maxLexeme_eq : m.maxLexeme = if preferences.collectDetailedMetrics then longestLexeme tokens else 0

theorem describes_of_tokenwise {preferences : LexicalPreferences} {m : Metrics} {finished : Bool}
    (decided : m.tokenwise = .ofTokens preferences tokens)
    (ends : endMarkers tokens = finished.toNat) : m.Describes preferences tokens finished := by
  have tallies := tallies_ofTokens preferences tokens
  rw [← decided, ← endMarkers, ends] at tallies
  refine ⟨⟨tallies.total_eq, tallies.sum_eq, tallies.symbol_eq, tallies.operator_eq, tallies.action_eq,
    tallies.group_eq, tallies.marker_eq⟩, ?_, ?_, ?_, ?_⟩
  · exact tallies.total_eq.trans (TokenCounts.total_ofTokens tokens)
  · intro tracks
    have uses := uses_ofTokens tracks tokens
    rwa [← decided] at uses
  · intro untracked
    exact (congrArg usage decided).trans (usage_of_untracked untracked tokens)
  · exact (congrArg maxLexeme decided).trans (maxLexeme_ofTokens preferences tokens)

end Metrics

/-! ### Tokens handed out -/

/-- A token that is handed out was buffered before just if the cursor had not caught up: behind the
buffered tokens comes none of them once more. -/
theorem Core.Next.mem_iff {k k' : Core} (next : k.Next limits (.ok (some token)) k')
    (emitted : k.Emitted limits acceptReturn source tokens) :
    token ∈ k.buffer.tokens ↔ k.buffer.cursor < k.buffer.size := by
  obtain ⟨tokens', emitted'⟩ := next.keeps_emitted emitted
  cases next with
  | buffered found =>
    obtain ⟨inside, rfl⟩ := Array.getElem?_eq_some_iff.mp found
    exact iff_of_true (Array.getElem_mem inside) inside
  | read empty isOpen pulled room =>
    have reached : k.buffer.size ≤ k.buffer.cursor := Array.getElem?_eq_none_iff.mp empty
    refine iff_of_false ?_ (Nat.not_lt.mpr reached)
    intro member
    have ordered := emitted'.ordered
    dsimp only at ordered
    rw [TokenBuffer.tokens_taken, List.pairwise_append] at ordered
    have earlier : token.place < token.place :=
      ordered.2.2 token (Array.mem_toList_iff.mpr member) token (List.mem_singleton_self _)
    exact lt_irrefl _ earlier

namespace Session

variable {preferences : LexicalPreferences} {s : Session} {replayed : Nat}

/-- The token that a request is answered with. -/
def Answer.token? : Answer → Option Token
  | .token (.ok token) => token
  | .item (some (.ok token)) => some token
  | _ => none

/-- The requests that move on when they are answered with a token. -/
def Request.takes : Request → Bool
  | .next | .iterate => true
  | .peek | .mark | .reset _ => false

/-- The session answers a request that moves on with a token that it has buffered already. -/
def replays (limits : ScanLimits) (s : Session) (request : Request) : Bool :=
  request.takes && (answer limits s request).token?.any s.buffer.tokens.contains

/-- How many of the requests are answered with a token once more. -/
def replayCount (limits : ScanLimits) (s : Session) : List Request → Nat
  | [] => 0
  | request :: requests =>
    (s.replays limits request).toNat + (s.perform limits request).replayCount limits requests

theorem token?_item (a : Except ScanError (Option Token)) :
    (Answer.item (item a)).token? = (Answer.token a).token? := by
  match a with
  | .ok (some token) => rfl
  | .ok none => rfl
  | .error e => rfl

private theorem reached_of_next {k k' : Core} {a : Except ScanError (Option Token)}
    (next : k.Next limits a k') (silent : ∀ token, a ≠ .ok (some token)) :
    ¬k.buffer.cursor < k.buffer.size := by
  cases next with
  | buffered | read => exact absurd rfl (silent _)
  | finished empty | failed empty | broken empty | silent empty | crowded empty =>
    exact Nat.not_lt.mpr (Array.getElem?_eq_none_iff.mp empty)

private theorem any_token?_of_next {k k' : Core} {a : Except ScanError (Option Token)}
    (next : k.Next limits a k') (emitted : k.Emitted limits acceptReturn source tokens) :
    (Answer.token a).token?.any k.buffer.tokens.contains =
      decide (k.buffer.cursor < k.buffer.size) := by
  match a, next with
  | .ok (some token), next =>
    rw [Bool.eq_iff_iff, decide_eq_true_iff, ← next.mem_iff emitted]
    exact Array.contains_iff_mem
  | .ok none, next => exact (decide_eq_false (reached_of_next next nofun)).symm
  | .error e, next => exact (decide_eq_false (reached_of_next next nofun)).symm

/-! ### Keeping count -/

/-- The session has counted its tokens, its depths and a number of replays. -/
structure Books (preferences : LexicalPreferences) (replayed : Nat) (s : Session) : Prop where
  wanted : s.preferences = preferences
  tokenwise_eq : s.metrics.tokenwise = .ofTokens preferences s.buffer.tokens.toList
  maxDepth_eq : s.metrics.maxDepth =
    if preferences.collectDetailedMetrics then s.machine.nesting.deepest else 0
  replayed_eq : s.metrics.replayed = replayed

theorem books_start (preferences : LexicalPreferences) (source : CharSource) :
    (start preferences source).Books preferences 0 :=
  ⟨rfl, rfl, (ite_self 0).symm, rfl⟩

private theorem Books.of_cursor (books : s.Books preferences replayed) (cursor others : Nat) :
    ({ s with
      buffer := { s.buffer with cursor := cursor }
      metrics := { s.metrics with replayed := others } } : Session).Books preferences others :=
  ⟨books.wanted, books.tokenwise_eq, books.maxDepth_eq, rfl⟩

private theorem Books.begin (books : s.Books preferences replayed) (limits : ScanLimits) :
    (s.begin limits).Books preferences replayed := by
  unfold Session.begin
  split <;> exact ⟨books.wanted, books.tokenwise_eq, books.maxDepth_eq, books.replayed_eq⟩

private theorem Books.fail (books : s.Books preferences replayed) (limits : ScanLimits)
    (e : ScanError) : (s.fail limits e).Books preferences replayed :=
  ⟨books.wanted, books.tokenwise_eq, books.maxDepth_eq, books.replayed_eq⟩

/-- The depth is recorded if it is wanted. -/
private theorem Books.moved (books : s.Books preferences replayed) {machine : Machine} {peak : Nat}
    (peak_eq : preferences.collectDetailedMetrics = true → peak = machine.nesting.deepest)
    (intake : Intake) :
    ({ s with machine, intake, metrics := s.metrics.recordPeak s.preferences peak } : Session).Books
      preferences replayed := by
  obtain ⟨wanted, tokenwise_eq, maxDepth_eq, replayed_eq⟩ := books
  refine ⟨wanted, ?_, ?_, ?_⟩
  all_goals
    dsimp only
    rw [wanted, Metrics.recordPeak]
    cases detailed : preferences.collectDetailedMetrics
  · exact tokenwise_eq
  · exact tokenwise_eq
  · rwa [detailed] at maxDepth_eq
  · exact peak_eq detailed
  · exact replayed_eq
  · exact replayed_eq

private theorem Books.taking (books : s.Books preferences replayed) (token : Token)
    (journal : List Notice) : (s.taking token journal).Books preferences replayed := by
  obtain ⟨wanted, tokenwise_eq, maxDepth_eq, replayed_eq⟩ := books
  obtain ⟨maxDepth_kept, replayed_kept⟩ :=
    Metrics.recordToken_kept s.preferences token s.metrics
  refine ⟨wanted, ?_, maxDepth_kept.trans maxDepth_eq, replayed_kept.trans replayed_eq⟩
  rw [taking_tokens, Metrics.ofTokens_concat, ← tokenwise_eq, ← wanted]
  exact Metrics.tokenwise_recordToken _ _ _

private theorem Books.commit (books : s.Books preferences replayed) (limits : ScanLimits)
    (token : Token) : (finalState (commit limits token s)).Books preferences replayed := by
  cases refused : s.buffer.refusal? limits.maxTokens token with
  | some refusal =>
    simp only [Session.commit, refused]
    exact books.fail limits _
  | none =>
    obtain ⟨journal, committed, -⟩ := commit_of_room refused
    rw [committed]
    exact books.taking token journal

private theorem Books.scan (books : s.Books preferences replayed) {emitted : List Token}
    (emits : Machine.Emits limits acceptReturn source emitted s.machine s.intake) :
    (finalState (scan limits s)).Books preferences replayed := by
  have begun := books.begin limits
  have machine_eq : (s.begin limits).machine = s.machine := congrArg Core.machine (core_begin limits s)
  have intake_eq : (s.begin limits).intake = s.intake := congrArg Core.intake (core_begin limits s)
  have peak_eq : preferences.collectDetailedMetrics = true →
      (s.machine.run limits s.intake (s.begin limits).metrics.maxDepth).peak =
        (s.machine.run limits s.intake (s.begin limits).metrics.maxDepth).machine.nesting.deepest := by
    intro detailed
    have known := begun.maxDepth_eq
    rw [if_pos detailed, machine_eq] at known
    rw [known]
    exact emits.peak_eq
  rw [scan_eq, machine_eq, intake_eq]
  generalize s.machine.run limits s.intake (s.begin limits).metrics.maxDepth = ran at peak_eq
  obtain ⟨⟨outcome, machine, intake⟩, peak⟩ := ran
  have moved := begun.moved peak_eq intake
  match outcome with
  | .ok (some token) => exact moved.commit limits token
  | .ok none => exact moved
  | .error e => exact moved.fail limits e

/-! ### Requests -/

private theorem Books.next (books : s.Books preferences replayed)
    (emitted : s.core.Emitted limits acceptReturn source tokens) :
    (finalState (next limits s)).Books preferences
      (replayed + (decide (s.buffer.cursor < s.buffer.size)).toNat) := by
  have still (reached : ¬s.buffer.cursor < s.buffer.size) :
      replayed + (decide (s.buffer.cursor < s.buffer.size)).toNat = replayed := by
    rw [decide_eq_false reached]
    rfl
  have came := next_core limits s
  cases asked limits s with
  | buffered inside answered =>
    have counted : replayed + (decide (s.buffer.cursor < s.buffer.size)).toNat =
        s.metrics.replayed + 1 := by
      rw [decide_eq_true inside, books.replayed_eq]
      rfl
    rw [answered, counted]
    exact books.of_cursor (s.buffer.cursor + 1) (s.metrics.replayed + 1)
  | finished closed answered =>
    rw [answered] at came
    rw [answered, still (reached_of_next came nofun)]
    exact books
  | failed stuck answered =>
    rw [answered] at came
    rw [answered, still (reached_of_next came nofun)]
    exact books
  | reading reached isOpen answered =>
    rw [answered, still (Nat.not_lt.mpr reached)]
    exact books.scan (emitted.emits isOpen)

/-- A request keeps the books, and counts a replay if it is one. -/
theorem Books.perform (books : s.Books preferences replayed)
    (emitted : s.core.Emitted limits acceptReturn source tokens) (request : Request) :
    (s.perform limits request).Books preferences
      (replayed + (s.replays limits request).toNat) := by
  have booked := books.next emitted
  have handed := any_token?_of_next (next_core limits s) emitted
  change _ = decide (s.buffer.cursor < s.buffer.size) at handed
  rw [← handed] at booked
  cases request with
  | next => exact booked
  | peek =>
    rw [Session.perform, finalState_peek, books.replayed_eq]
    exact booked.of_cursor _ _
  | mark => exact books
  | reset m => exact ⟨books.wanted, books.tokenwise_eq, books.maxDepth_eq, books.replayed_eq⟩
  | iterate =>
    cases ended : s.iterated with
    | true =>
      rw [Session.perform, replays, answer, iterate_of_ended ended]
      exact books
    | false =>
      rw [Session.perform, replays, answer, iterate_of_fresh limits ended, token?_item]
      exact ⟨booked.wanted, booked.tokenwise_eq, booked.maxDepth_eq, booked.replayed_eq⟩

theorem Books.serve (books : s.Books preferences replayed)
    (emitted : ∃ tokens, s.core.Emitted limits acceptReturn source tokens)
    (requests : List Request) : (s.serve limits requests).Books preferences
      (replayed + s.replayCount limits requests) := by
  -- On the requests; the machine has emitted what is buffered, so that what it brings is new.
  induction requests generalizing s replayed with
  | nil => exact books
  | cons request requests ih =>
    have emitted' := (emitted_lasting limits acceptReturn source).perform emitted request
    obtain ⟨_, emits⟩ := emitted
    have later := ih (books.perform emits request) emitted'
    rwa [Nat.add_assoc] at later

/-- **Metrics agree with the buffer.** Whatever a session is asked for, its metrics are those of the
tokens that it has buffered, with the greatest depth that its machine has come to if it is wanted, and
with the number of requests that were answered with a token once more. -/
theorem metrics_of_buffer (limits : ScanLimits) (preferences : LexicalPreferences)
    (source : CharSource) (requests : List Request) :
    let s := (start preferences source).serve limits requests
    s.metrics.Describes preferences s.buffer.tokens.toList s.isFinished ∧
      s.metrics.maxDepth =
        (if preferences.collectDetailedMetrics then s.machine.nesting.deepest else 0) ∧
      s.metrics.replayed = (start preferences source).replayCount limits requests := by
  intro s
  obtain ⟨emitted, emitted_by⟩ := serve_emitted limits preferences source requests
  have books : s.Books preferences (0 + (start preferences source).replayCount limits requests) :=
    (books_start preferences source).serve ⟨[], .running rfl .fresh⟩ requests
  have marked : s.isFinished = s.buffer.tokens.toList.any Token.isEndOfStream :=
    marked_serve limits preferences source requests
  have ends : endMarkers s.buffer.tokens.toList = s.isFinished.toNat := by
    rw [marked]
    exact endMarkers_eq emitted_by.unmarked_dropLast
  refine ⟨Metrics.describes_of_tokenwise books.tokenwise_eq ends, books.maxDepth_eq, ?_⟩
  rw [books.replayed_eq, Nat.zero_add]

/-- The word is buffered by the second look ahead, so that the iteration replays it. -/
example :
    ((start { collectDetailedMetrics := true, trackKindPatterns := true }
        ⟨.ofText "(ab)", none, none⟩).serve .development
      [.next, .reset ⟨0⟩, .peek, .next, .peek, .iterate, .next]).metrics =
      { total := 3, symbol := 1, group := 2, replayed := 2, maxLexeme := 2, maxDepth := 1,
        usage := [(.parenLeft, 1), (.terminalSymbol, 1), (.parenRight, 1)] } := by
  decide +kernel

end Session

end GrammarLex
