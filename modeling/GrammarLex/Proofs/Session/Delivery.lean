import GrammarLex.Proofs.Session.Coupled
import GrammarLex.Proofs.Text.Deliveries

/-!
# Only the bytes matter

A session on a reader is compared with one on the bytes that the reader brings before it first fails
or brings nothing. Both do the same as long as the reader does not fail, and what the reader would
bring behind its first end is never asked for: no handler consumes an end it has looked at. A reader
that fails makes the session fail where its last complete character ends, and not before the next
character is needed.
-/
namespace GrammarLex

open Delivery

/-! ### Readers that do not fail -/

namespace CharSource

variable {ahead : List Delivery} {s t : CharSource} {f f' : Feed} {next : Option Char}
  {e : DecodeError}

theorem peek_of_decode (decoded : Feed.decode f = .ok next f') :
    peek ⟨f, none, none⟩ = .ok next ⟨f', some next, none⟩ := by
  rw [peek, decoded]

theorem peek_of_refused (decoded : Feed.decode f = .error e f') :
    peek ⟨f, none, none⟩ = .error e ⟨f', none, some e⟩ := by
  rw [peek, decoded]

/-- The first source has the bytes of the second in one piece, or both have come to their end. What
the second one would bring behind it is still to come. -/
inductive Delivered (ahead : List Delivery) : CharSource → CharSource → Prop where
  | ongoing {f : Feed} {lookahead : Option (Option Char)} (unended : lookahead ≠ some none)
      (stop_eq : stop f.deliveries = ahead) :
      Delivered ahead ⟨f.plain, lookahead, none⟩ ⟨f, lookahead, none⟩
  | ended {g f : Feed} (behind : ahead.tail <:+ f.deliveries) :
      Delivered ahead ⟨g, some none, none⟩ ⟨f, some none, none⟩

theorem Delivered.tail_suffix (delivered : Delivered ahead s t) :
    ahead.tail <:+ t.feed.deliveries := by
  cases delivered with
  | ongoing _ stop_eq =>
    rw [← stop_eq]
    exact (List.tail_suffix _).trans (stop_suffix _)
  | ended behind => exact behind

theorem Delivered.look {parted : DecodeError → Prop}
    (whole : ∀ reason others, ahead ≠ .failed reason :: others) (delivered : Delivered ahead s t) :
    InStep peek s t
      (fun next s' t' => Delivered ahead s' t' ∧
        ∀ c, next = some c → Delivered ahead s'.dropped t'.dropped)
      (fun _ _ t' => ahead.tail <:+ t'.feed.deliveries) parted := by
  cases delivered with
  | ended behind => exact .done rfl rfl ⟨.ended behind, nofun⟩
  | @ongoing f lookahead unended stop_eq =>
    match lookahead with
    | some none => exact absurd rfl unended
    | some (some c) =>
      refine .done rfl rfl ⟨.ongoing unended stop_eq, ?_⟩
      intro _ _
      exact .ongoing nofun stop_eq
    | none =>
      cases Feed.decode_matches f with
      | found left right leaves =>
        have stop_eq' := leaves.stop_eq.trans stop_eq
        refine .done (peek_of_decode left) (peek_of_decode right) ⟨.ongoing nofun stop_eq', ?_⟩
        intro _ _
        exact .ongoing nofun stop_eq'
      | missing left right rests =>
        have behind := rests.tail_suffix
        rw [stop_eq] at behind
        exact .done (peek_of_decode left) (peek_of_decode right) ⟨.ended behind, nofun⟩
      | refused left right rests =>
        have behind := rests.tail_suffix
        rw [stop_eq] at behind
        exact .failed (peek_of_refused left) (peek_of_refused right) behind
      | cut stop_eq' => exact absurd (stop_eq.symm.trans stop_eq') (whole _ _)

end CharSource

/-- A reader that comes to an end, and its bytes in one piece. -/
def SourceCoupling.delivered (ahead : List Delivery)
    (whole : ∀ reason others, ahead ≠ .failed reason :: others) : SourceCoupling where
  joined _ := CharSource.Delivered ahead
  kept _ t := ahead.tail <:+ t.feed.deliveries
  parted _ _ := False
  keeps := CharSource.Delivered.tail_suffix
  shows := by
    rintro p s t c (_ | _) shows
    · exact ⟨shows.lookahead_eq, shows.failure_eq⟩
    · exact ⟨shows.lookahead_eq, shows.failure_eq⟩
  look delivered := delivered.look whole

/-! ### Readers that fail -/

namespace CharSource

variable {ahead : List Delivery} {reason : String} {others : List Delivery} {total : Nat}
  {place p : Position} {s t : CharSource}

/-- All the bytes in one piece have been taken, and their end has been found. -/
structure Spent (s : CharSource) : Prop where
  empty : s.feed.deliveries = []
  unseen : ∀ c, s.lookahead ≠ some (some c)
  own : ∀ offset reason, s.failure ≠ some (.readFailed offset reason)

/-- There is nothing to be found any more. -/
theorem Spent.peek_eq (spent : s.Spent) :
    peek s = .ok none { s with lookahead := some none } ∨ ∃ e, peek s = .error e s := by
  obtain ⟨⟨deliveries, offset⟩, lookahead, failure⟩ := s
  obtain ⟨rfl, unseen, -⟩ := spent
  match failure, lookahead with
  | some e, _ => exact .inr ⟨e, rfl⟩
  | none, some none => exact .inl rfl
  | none, some (some c) => exact absurd rfl (unseen c)
  | none, none => exact .inl rfl

/-- The first source has the bytes of the second in one piece, and neither has come to its end, or the
first one alone is followed from its end on. The second one will fail behind a fixed number of bytes,
and its last character ends at a fixed place. -/
inductive Failing (ahead : List Delivery) (total : Nat) (place p : Position) :
    CharSource → CharSource → Prop where
  | ongoing {f : Feed} {lookahead : Option (Option Char)} (unended : lookahead ≠ some none)
      (stop_eq : stop f.deliveries = ahead) (total_eq : f.total = total)
      (here : p.advanceBy (contents ⟨f.plain, lookahead, none⟩).chars = place) :
      Failing ahead total place p ⟨f.plain, lookahead, none⟩ ⟨f, lookahead, none⟩
  | alone {s : CharSource} (spent : s.Spent) : Failing ahead total place p s s

/-- What stays true when such sources fail. -/
inductive Failed (ahead : List Delivery) : CharSource → CharSource → Prop where
  | ongoing {f : Feed} {lookahead : Option (Option Char)} {failure : Option DecodeError}
      (stop_eq : stop f.deliveries = ahead) :
      Failed ahead ⟨f.plain, lookahead, failure⟩ ⟨f, lookahead, failure⟩
  | alone {s : CharSource} (spent : s.Spent) : Failed ahead s s

theorem Failing.failed (failing : Failing ahead total place p s t) : Failed ahead s t := by
  cases failing with
  | ongoing _ stop_eq => exact .ongoing stop_eq
  | alone spent => exact .alone spent

theorem Spent.look (spent : s.Spent) : Alone peek s
    (fun next s' t' => Failing ahead total place p s' t' ∧
      ∀ c, next = some c → Failing ahead total place (p.advance c) s'.dropped t'.dropped)
    (fun _ s' t' => Failed ahead s' t') := by
  rcases spent.peek_eq with looked | ⟨e, looked⟩
  · exact .ok looked ⟨.alone ⟨spent.empty, nofun, spent.own⟩, nofun⟩
  · exact .error looked (.alone spent)

theorem Failing.look
    (failing : Failing (.failed reason :: others) total place p s t) :
    InStep peek s t
      (fun next s' t' => Failing (.failed reason :: others) total place p s' t' ∧ ∀ c, next = some c →
        Failing (.failed reason :: others) total place (p.advance c) s'.dropped t'.dropped)
      (fun _ s' t' => Failed (.failed reason :: others) s' t')
      (fun e => p = place ∧ e = .readFailed total reason) := by
  cases failing with
  | alone spent => exact .of_alone spent.look
  | @ongoing f lookahead unended stop_eq total_eq here =>
    match lookahead with
    | some none => exact absurd rfl unended
    | some (some c) =>
      refine .done rfl rfl ⟨.ongoing unended stop_eq total_eq here, ?_⟩
      rintro _ ⟨⟩
      exact .ongoing nofun stop_eq total_eq here
    | none =>
      change p.advanceBy f.plain.contents.chars = place at here
      cases Feed.decode_matches f with
      | @found c f' left right leaves =>
        have stop_eq' := leaves.stop_eq.trans stop_eq
        have total_eq' := leaves.total_eq.trans total_eq
        rw [Feed.contents_of_char left] at here
        refine .done (peek_of_decode left) (peek_of_decode right)
          ⟨.ongoing nofun stop_eq' total_eq' here, ?_⟩
        rintro _ ⟨⟩
        exact .ongoing nofun stop_eq' total_eq' here
      | missing left right => exact absurd stop_eq (Feed.whole_of_decode right reason others)
      | refused left right rests =>
        cases rests with
        | before plain_eq leaves =>
          subst plain_eq
          exact .failed (peek_of_refused left) (peek_of_refused right)
            (.ongoing (leaves.stop_eq.trans stop_eq))
        | behind whole => exact absurd stop_eq (whole reason others)
      | cut stop_eq' left spent right =>
        cases stop_eq.symm.trans stop_eq'
        rw [total_eq] at right
        -- The bytes in one piece hold no further character, and so this is the place.
        have nothing : f.plain.contents.chars = [] := by
          refine Feed.chars_of_not_some ?_
          rintro c g found
          rcases left with left | ⟨offset, left⟩ <;> cases left.symm.trans found
        rw [nothing] at here
        refine .parted (peek_of_refused right) ⟨here, rfl⟩ ?_
        rcases left with left | ⟨offset, left⟩
        · exact .ok (peek_of_decode left) ⟨.alone ⟨spent, nofun, nofun⟩, nofun⟩
        · exact .error (peek_of_refused left) (.alone ⟨spent, nofun, nofun⟩)

/-- A source coupled with itself can only be followed alone. -/
theorem Failed.spent (failed : Failed (.failed reason :: others) s t) (same : t = s) : s.Spent := by
  cases failed with
  | alone spent => exact spent
  | @ongoing f _ _ stop_eq =>
    have feed_eq : f = f.plain := congrArg CharSource.feed same
    rw [feed_eq, Feed.stop_plain] at stop_eq
    cases stop_eq

/-- A failed read is still to come, or it is what the source has failed with. -/
def StillFails (ahead : List Delivery) (s : CharSource) : Prop :=
  stop s.feed.deliveries = ahead ∨ ∃ offset reason, s.failure = some (.readFailed offset reason)

theorem stable_stillFails (reason : String) (others : List Delivery) :
    Stable (StillFails (.failed reason :: others)) where
  look := by
    rintro ⟨f, lookahead, failure⟩ fails
    match failure, lookahead with
    | some _, _ => exact fails
    | none, some _ => exact fails
    | none, none =>
      have stop_eq : stop f.deliveries = .failed reason :: others := by
        rcases fails with stop_eq | ⟨_, _, failed⟩
        · exact stop_eq
        · cases failed
      cases Feed.decode_matches f with
      | found left right leaves =>
        rw [peek_of_decode right]
        exact .inl (leaves.stop_eq.trans stop_eq)
      | missing left right => exact absurd stop_eq (Feed.whole_of_decode right reason others)
      | refused left right rests =>
        rw [peek_of_refused right]
        cases rests with
        | before _ leaves => exact .inl (leaves.stop_eq.trans stop_eq)
        | behind whole => exact absurd stop_eq (whole reason others)
      | cut _ _ _ right =>
        rw [peek_of_refused right]
        exact .inr ⟨_, _, rfl⟩
  dropped fails := fails

/-- The bytes in one piece have not been used up as long as the reader is not cut off. -/
theorem Failed.deliveries_ne (failed : Failed (.failed reason :: others) s t)
    (fails : StillFails (.failed reason :: others) t) : s.feed.deliveries ≠ [] := by
  cases failed with
  | ongoing => exact List.append_ne_nil_of_right_ne_nil _ nofun
  | alone spent =>
    rcases fails with stop_eq | ⟨offset, reason', own⟩
    · rw [spent.empty] at stop_eq
      cases stop_eq
    · exact absurd own (spent.own offset reason')

end CharSource

namespace SourceCoupling

open CharSource

/-- A reader that fails, and its bytes in one piece. -/
def failing (reason : String) (others : List Delivery) (total : Nat) (place : Position) :
    SourceCoupling where
  joined := Failing (.failed reason :: others) total place
  kept := Failed (.failed reason :: others)
  parted p e := p = place ∧ e = .readFailed total reason
  keeps := Failing.failed
  shows := by
    rintro p s t c (_ | _) shows
    · exact ⟨shows.lookahead_eq, shows.failure_eq⟩
    · exact shows
  look := Failing.look

end SourceCoupling

/-! ### Sessions -/

namespace Session

/-- The second session answers the requests as the first one does, and is left the same but for its
source. -/
structure Alike (limits : ScanLimits) (s t : Session) (requests : List Request) : Prop where
  answers_eq : answers limits t requests = answers limits s requests
  final_eq : t.serve limits requests =
    (s.serve limits requests).withSource (t.serve limits requests).intake.source

/-- Of bytes in one piece, the end behind them has been asked for. -/
def AsksOn (s : Session) : Prop := s.intake.source.feed.deliveries = []

variable {limits : ScanLimits} {preferences : LexicalPreferences} {f : Feed} {reason : String}
  {others : List Delivery}

/-- A session on a reader that comes to an end. -/
private theorem alike_of_whole (whole : ∀ reason others, stop f.deliveries ≠ .failed reason :: others)
    (requests : List Request) :
    Alike limits (start preferences ⟨f.plain, none, none⟩) (start preferences ⟨f, none, none⟩)
        requests ∧
      (stop f.deliveries).tail <:+
        ((start preferences ⟨f, none, none⟩).serve limits requests).intake.source.feed.deliveries := by
  have joined : (SourceCoupling.delivered (stop f.deliveries) whole).joined .start
      ⟨f.plain, none, none⟩ ⟨f, none, none⟩ := .ongoing nofun rfl
  have sessions := SourceCoupling.sessions_start preferences joined
  obtain ⟨answers_eq, final⟩ := Coupling.serve_alike limits sessions (fun _ _ => id) requests
  exact ⟨⟨answers_eq, final.same⟩, final.kept⟩

/-- A session on a reader that fails. -/
private theorem alike_until_failed (stop_eq : stop f.deliveries = .failed reason :: others)
    (requests : List Request) :
    let s := start preferences ⟨f.plain, none, none⟩
    let t := start preferences ⟨f, none, none⟩
    Alike limits s t requests ∧ ¬(s.serve limits requests).AsksOn ∨
      ∃ before request after, requests = before ++ request :: after ∧
        Alike limits s t before ∧ ¬(s.serve limits before).AsksOn ∧
        (s.serve limits (before ++ [request])).AsksOn ∧
        ∃ e, e = .decode (DecodeError.readFailed f.total reason).message
            (Position.start.advanceBy f.plain.contents.chars) ∧
          (answer limits (t.serve limits before) request).failure? = some e ∧
          (t.serve limits (before ++ [request])).failure = some e := by
  intro s t
  have joined : (SourceCoupling.failing reason others f.total
      (Position.start.advanceBy f.plain.contents.chars)).joined .start ⟨f.plain, none, none⟩
      ⟨f, none, none⟩ := .ongoing nofun stop_eq rfl rfl
  have sessions := SourceCoupling.sessions_start preferences joined
  -- The reader has not failed for the session that is compared, or has made it fail.
  have fails : CharSource.StillFails (.failed reason :: others) ⟨f, none, none⟩ := .inl stop_eq
  have kept (requests : List Request) := (stable_serve (CharSource.stable_stillFails reason others)
    limits preferences fails requests).1
  rcases Coupling.serve_serves limits sessions requests with
    ⟨answers_eq, final⟩ | ⟨before, request, after, e, rfl, answers_eq, stood, failed, parts, alone⟩
  · exact .inl ⟨⟨answers_eq, final.same⟩, final.kept.deliveries_ne (kept requests)⟩
  · obtain ⟨_, _, ⟨rfl, rfl⟩, rfl⟩ := parts
    refine .inr ⟨before, request, after, rfl, ⟨answers_eq, stood.same⟩,
      stood.kept.deliveries_ne (kept before), (alone.kept.spent rfl).empty, _, rfl, failed, ?_⟩
    rw [serve_concat]
    exact failure_of_answer failed

/-- Whatever is asked of a session on a reader, it does as on the bytes in one piece that the reader
brings before it first fails or brings nothing, and never asks for more after a call that has brought
nothing. If the reader fails first, the session does so until something behind the longest text of the
bytes is needed, and then fails at the end of that text; so the end of the input is not reached. -/
theorem only_bytes_matter (limits : ScanLimits) (preferences : LexicalPreferences) (reads : List Read)
    (requests : List Request) :
    let feed := Feed.ofReads reads
    let bytes := Delivery.bytes feed.deliveries
    let ahead := Delivery.stop feed.deliveries
    let s := start preferences ⟨⟨bytes.map .byte ++ [.drained], 0⟩, none, none⟩
    let t := start preferences ⟨feed, none, none⟩
    ((∀ reason others, ahead ≠ .failed reason :: others) → Alike limits s t requests ∧
      ahead.tail <:+ (t.serve limits requests).intake.source.feed.deliveries) ∧
    ∀ reason others, ahead = .failed reason :: others →
      (t.serve limits requests).isFinished = false ∧ ∃ text, Utf8.LongestText bytes text ∧
      (Alike limits s t requests ∧ ¬(s.serve limits requests).AsksOn ∨
        ∃ before request after, requests = before ++ request :: after ∧
          Alike limits s t before ∧ ¬(s.serve limits before).AsksOn ∧
          (s.serve limits (before ++ [request])).AsksOn ∧
          ∃ e, e = .decode (DecodeError.readFailed bytes.length reason).message
              (Position.start.advanceBy text) ∧
            (answer limits (t.serve limits before) request).failure? = some e ∧
            (t.serve limits (before ++ [request])).failure = some e) := by
  intro feed bytes ahead s t
  refine ⟨fun whole => alike_of_whole whole requests, ?_⟩
  intro reason others stop_eq
  refine ⟨?_, _, Feed.longestText_chars bytes 0, ?_⟩
  · have faulty := Feed.fault_of_failed stop_eq
    cases ended : (t.serve limits requests).isFinished with
    | false => rfl
    | true => exact absurd (read_of_finished limits preferences ⟨feed, none, none⟩ ended).1 faulty
  · have total_eq : feed.total = bytes.length := Nat.zero_add _
    rw [← total_eq]
    exact alike_until_failed stop_eq requests

/-- A character in two pieces with an interruption between them, and more bytes behind an end; a
reader that fails within a character. -/
theorem only_bytes_matter_of_pieces :
    let whole := Feed.ofReads
      [.bytes [0x61, 0xC3], .interrupted, .bytes [0xA4], .bytes [], .bytes [0x62]]
    let broken := Feed.ofReads [.bytes [0x61, 0xC3], .failed "closed", .bytes [0xA4]]
    (∀ reason others, stop whole.deliveries ≠ .failed reason :: others) ∧
      (Alike .development
          (start {} ⟨⟨[.byte 0x61, .byte 0xC3, .byte 0xA4, .drained], 0⟩, none, none⟩)
          (start {} ⟨whole, none, none⟩) [.peek, .next, .iterate, .next] ∧
        [.byte 0x62] <:+ ((start {} ⟨whole, none, none⟩).serve .development
          [.peek, .next, .iterate, .next]).intake.source.feed.deliveries) ∧
      stop broken.deliveries = .failed "closed" :: [.byte 0xA4] ∧
      ((start {} ⟨broken, none, none⟩).serve .development [.mark, .next]).isFinished = false ∧
      ((start {} ⟨broken, none, none⟩).serve .development [.mark, .next]).failure =
        some (.decode "read failed at byte 2: closed" ⟨1, 1, 2⟩) := by
  intro whole broken
  have ends : ∀ reason others, stop whole.deliveries ≠ .failed reason :: others := nofun
  have left := (only_bytes_matter .development {}
    [.bytes [0x61, 0xC3], .interrupted, .bytes [0xA4], .bytes [], .bytes [0x62]]
    [.peek, .next, .iterate, .next]).1 ends
  have right := (only_bytes_matter .development {}
    [.bytes [0x61, 0xC3], .failed "closed", .bytes [0xA4]] [.mark, .next]).2 "closed" [.byte 0xA4] rfl
  exact ⟨ends, left, rfl, right.1, by decide +kernel⟩

end Session

end GrammarLex
