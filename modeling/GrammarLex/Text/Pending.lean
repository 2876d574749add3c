import GrammarLex.Text.Feed
import GrammarLex.Text.Measure

/-!
# Every character uses up a delivery

What a source still holds is measured by its undelivered reads and the character looked at but not
consumed. No operation makes the measure grow, and consuming a character makes it smaller; loops
over characters end for this reason.
-/
namespace GrammarLex

namespace Feed

def undelivered (feed : Feed) : Nat := feed.deliveries.length

theorem takeByte_undelivered_le (offset : Nat) (ds : List Delivery) :
    (finalState (takeByte offset ds)).undelivered ≤ ds.length := by
  induction ds with
  | nil => exact Nat.le_refl _
  | cons d rest ih =>
    cases d with
    | interrupted => exact Nat.le_succ_of_le ih
    | byte value => exact Nat.le_succ _
    | failed reason => exact Nat.le_succ _
    | drained => exact Nat.le_succ _

theorem takeByte_undelivered_lt {offset : Nat} {ds : List Delivery} {b : UInt8} {feed : Feed}
    (taken : takeByte offset ds = .ok (some b) feed) : feed.undelivered < ds.length := by
  induction ds with
  | nil => simp [takeByte] at taken
  | cons d rest ih =>
    cases d with
    | interrupted => exact Nat.lt_succ_of_lt (ih taken)
    | byte value =>
      simp only [takeByte, EStateM.Result.ok.injEq] at taken
      rw [← taken.2]
      exact Nat.lt_succ_self _
    | failed reason => simp [takeByte] at taken
    | drained => simp [takeByte] at taken

theorem nextByte_nonGrowing : NonGrowing undelivered nextByte :=
  fun feed => takeByte_undelivered_le feed.offset feed.deliveries

theorem takeTail_nonGrowing (count bits : Nat) : NonGrowing undelivered (takeTail count bits) := by
  induction count generalizing bits with
  | zero => exact .pure _
  | succ count ih =>
    refine .bind nextByte_nonGrowing fun next => ?_
    cases next.bind continuation? with
    | none => exact .pure _
    | some low => exact ih _

theorem decode_nonGrowing : NonGrowing undelivered decode := by
  refine .bind .get fun _ => .bind nextByte_nonGrowing fun next => ?_
  cases next with
  | none => exact .pure _
  | some lead =>
    cases found : announced? lead with
    | none => simpa only [found] using NonGrowing.throw _
    | some announcement =>
      simp only [found]
      refine .bind (takeTail_nonGrowing _ _) fun value => ?_
      cases value.bind (scalar? announcement.1) with
      | none => exact .throw _
      | some c => exact .pure _

theorem decode_undelivered_lt {feed feed' : Feed} {c : Char}
    (decoded : decode feed = .ok (some c) feed') : feed'.undelivered < feed.undelivered := by
  obtain ⟨start, feed₀, got, decoded⟩ := bind_eq_ok.mp decoded
  rw [get_apply, EStateM.Result.ok.injEq] at got
  obtain ⟨next, feed₁, read, decoded⟩ := bind_eq_ok.mp decoded
  rw [← got.2] at read
  cases next with
  | none => simp at decoded
  | some lead =>
    have used := takeByte_undelivered_lt read
    cases found : announced? lead with
    | none => simp [found] at decoded
    | some announcement =>
      simp only [found] at decoded
      obtain ⟨value, feed₂, tail, decoded⟩ := bind_eq_ok.mp decoded
      have bound := (takeTail_nonGrowing _ _).of_ok tail
      cases valid : value.bind (scalar? announcement.1) with
      | none => simp [valid] at decoded
      | some c' =>
        simp only [valid, pure_apply, EStateM.Result.ok.injEq] at decoded
        rw [← decoded.2]
        exact Nat.lt_of_le_of_lt bound used

end Feed

namespace CharSource

/-- Undelivered reads, and the character looked at but not consumed. -/
def pending (s : CharSource) : Nat :=
  s.feed.undelivered + (if s.lookahead.any Option.isSome then 1 else 0)

theorem peek_nonGrowing : NonGrowing pending peek := by
  intro s
  match s with
  | ⟨feed, lookahead, some e⟩ => exact Nat.le_refl _
  | ⟨feed, some next, none⟩ => exact Nat.le_refl _
  | ⟨feed, none, none⟩ =>
    have bound := Feed.decode_nonGrowing feed
    simp only [peek]
    cases result : Feed.decode feed with
    | error e feed' => simpa [result, pending] using bound
    | ok next feed' =>
      cases next with
      | none => simpa [result, pending] using bound
      | some c => simpa [pending] using Nat.succ_le_of_lt (Feed.decode_undelivered_lt result)

theorem peek_lookahead {s s' : CharSource} {next : Option Char} (seen : peek s = .ok next s') :
    s'.lookahead = some next ∧ s'.failure = none := by
  match s with
  | ⟨feed, lookahead, some e⟩ => simp [peek] at seen
  | ⟨feed, some cached, none⟩ =>
    simp only [peek, EStateM.Result.ok.injEq] at seen
    rw [← seen.2, seen.1]
    exact ⟨rfl, rfl⟩
  | ⟨feed, none, none⟩ =>
    simp only [peek] at seen
    cases result : Feed.decode feed with
    | error e feed' => simp [result] at seen
    | ok cached feed' =>
      simp only [result, EStateM.Result.ok.injEq] at seen
      rw [← seen.2, seen.1]
      exact ⟨rfl, rfl⟩

theorem next_nonGrowing : NonGrowing pending next := by
  intro s
  match s with
  | ⟨feed, lookahead, some e⟩ => exact Nat.le_refl _
  | ⟨feed, some cached, none⟩ => simp [next, pending]
  | ⟨feed, none, none⟩ =>
    have bound := Feed.decode_nonGrowing feed
    simp only [next]
    cases result : Feed.decode feed <;> simpa [result, pending] using bound

theorem next_pending_lt {s s' : CharSource} {c : Char} (taken : next s = .ok (some c) s') :
    s'.pending < s.pending := by
  match s with
  | ⟨feed, lookahead, some e⟩ => simp [next] at taken
  | ⟨feed, some cached, none⟩ =>
    simp only [next, EStateM.Result.ok.injEq] at taken
    rw [← taken.2, taken.1]
    simp [pending]
  | ⟨feed, none, none⟩ =>
    simp only [next] at taken
    cases result : Feed.decode feed with
    | error e feed' => simp [result] at taken
    | ok cached feed' =>
      simp only [result, EStateM.Result.ok.injEq] at taken
      have used := Feed.decode_undelivered_lt (c := c) (by rw [result, taken.1])
      rw [← taken.2]
      simpa [pending] using used

end CharSource

end GrammarLex
