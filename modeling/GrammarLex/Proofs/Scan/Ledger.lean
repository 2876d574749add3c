import GrammarLex.Proofs.Scan.Intake
import GrammarLex.Proofs.Text.Deliveries
import GrammarLex.Scan.Progress

/-!
# The books of an intake

An intake keeps the same facts several times over: the bytes taken and the position, the lexeme and
the number of its characters, the character looked at and the reads behind it. The ledger of a
series of calls has none of this. It stands on the raw feed, without lookahead, and holds the
characters that have been consumed, those of them that have been collected, and a start. As long as
no call fails, all that an intake keeps is read off the ledger of its calls.
-/
namespace GrammarLex

namespace Feed

/-- The longest run of characters that satisfy a predicate, and the feed behind it. -/
def takeRun (keep : Char → Bool) (feed : Feed) : List Char × Feed :=
  match _decoded : decode feed with
  | .ok (some c) rest =>
    if keep c then (c :: (takeRun keep rest).1, (takeRun keep rest).2) else ([], feed)
  | _ => ([], feed)
termination_by feed.undelivered
decreasing_by all_goals exact decode_undelivered_lt _decoded

variable {keep : Char → Bool} {feed rest : Feed}

theorem takeRun_of_keep {c : Char} (decoded : decode feed = .ok (some c) rest)
    (keeps : keep c = true) :
    takeRun keep feed = (c :: (takeRun keep rest).1, (takeRun keep rest).2) := by
  rw [takeRun]
  split
  next same =>
    cases same.symm.trans decoded
    rw [if_pos keeps]
  next other => exact absurd decoded (other c rest)

theorem takeRun_of_stop {next : Option Char} (decoded : decode feed = .ok next rest)
    (stops : next.all (!keep ·) = true) : takeRun keep feed = ([], feed) := by
  rw [takeRun]
  split
  next same =>
    cases same.symm.trans decoded
    rw [if_neg (by simpa using stops)]
  next => rfl

end Feed

namespace Intake

/-- A call of an intake. -/
inductive Use where
  | peek
  | peekIs (expected : Char)
  | bump
  | bumpWhile (keep : Char → Bool)
  | skipWhile (keep : Char → Bool)
  | bumpUntil (closer : Char)
  | clear
  | takeLexeme
  | markStart (p : Position)

/-- Make a call, whatever it answers. -/
def use (limits : ScanLimits) : Use → Action Unit
  | .peek => do let _ ← peek
  | .peekIs expected => do let _ ← peekIs expected
  | .bump => do let _ ← bump limits
  | .bumpWhile keep => do let _ ← bumpWhile limits keep
  | .skipWhile keep => do let _ ← skipWhile keep
  | .bumpUntil closer => do let _ ← bumpUntil limits closer
  | .clear => clear
  | .takeLexeme => do let _ ← takeLexeme
  | .markStart p => markStart p

/-- Make a series of calls, up to the first that fails. -/
def useAll (limits : ScanLimits) : List Use → Action Unit
  | [] => pure ()
  | u :: uses => do
    use limits u
    useAll limits uses

end Intake

/-- What a series of calls has made of a feed. -/
structure Ledger where
  -- The feed behind the characters consumed.
  ahead : Feed
  consumed : List Char := []
  -- The characters consumed and not skipped since the lexeme was last handed over or dropped.
  collected : List Char := []
  start : Position := .start

namespace Ledger

/-- The position behind the characters consumed. -/
def position (l : Ledger) : Position := Position.start.advanceBy l.consumed

def skip (l : Ledger) (run : List Char × Feed) : Ledger :=
  { l with ahead := run.2, consumed := l.consumed ++ run.1 }

def collect (l : Ledger) (run : List Char × Feed) : Ledger :=
  { l.skip run with collected := l.collected ++ run.1 }

/-- Enter a call. Looking at a character leaves no trace; an end of input is passed over when a
character is to be taken there. -/
def use (l : Ledger) : Intake.Use → Ledger
  | .peek | .peekIs _ => l
  | .bump =>
    match l.ahead.decode with
    | .ok next rest => l.collect (next.toList, rest)
    | .error _ _ => l
  | .bumpWhile keep => l.collect (l.ahead.takeRun keep)
  | .bumpUntil closer => l.collect (l.ahead.takeRun (· != closer))
  | .skipWhile keep => l.skip (l.ahead.takeRun keep)
  | .clear | .takeLexeme => { l with collected := [], start := l.position }
  | .markStart p => { l with start := p }

def useAll (l : Ledger) (uses : List Intake.Use) : Ledger := uses.foldl use l

end Ledger

/-! ### One character ahead at most -/

/-- A source stands in front of a feed: it has taken nothing off it, or what it looks at. -/
inductive CharSource.Faces : CharSource → Feed → Prop where
  | unread (feed : Feed) : Faces ⟨feed, none, none⟩ feed
  | looked {feed rest : Feed} {next : Option Char} (decoded : feed.decode = .ok next rest) :
    Faces ⟨rest, some next, none⟩ feed

namespace CharSource

variable {s s' : CharSource} {feed : Feed} {next : Option Char}

theorem Faces.peek_eq (faces : s.Faces feed) (looked : peek s = .ok next s') :
    ∃ rest, feed.decode = .ok next rest ∧ s' = ⟨rest, some next, none⟩ := by
  cases faces with
  | unread =>
    simp only [peek] at looked
    cases decoded : feed.decode with
    | error e rest => simp [decoded] at looked
    | ok found rest =>
      simp only [decoded, EStateM.Result.ok.injEq] at looked
      obtain ⟨rfl, rfl⟩ := looked
      exact ⟨rest, rfl, rfl⟩
  | looked decoded =>
    simp only [peek, EStateM.Result.ok.injEq] at looked
    obtain ⟨rfl, rfl⟩ := looked
    exact ⟨_, decoded, rfl⟩

theorem Faces.next_eq (faces : s.Faces feed) (taken : CharSource.next s = .ok next s') :
    ∃ rest, feed.decode = .ok next rest ∧ s' = ⟨rest, none, none⟩ := by
  cases faces with
  | unread =>
    simp only [CharSource.next] at taken
    cases decoded : feed.decode with
    | error e rest => simp [decoded] at taken
    | ok found rest =>
      simp only [decoded, EStateM.Result.ok.injEq] at taken
      obtain ⟨rfl, rfl⟩ := taken
      exact ⟨rest, rfl, rfl⟩
  | looked decoded =>
    simp only [CharSource.next, EStateM.Result.ok.injEq] at taken
    obtain ⟨rfl, rfl⟩ := taken
    exact ⟨_, decoded, rfl⟩

/-- The bytes taken from the feed are those of the text consumed and of the character looked at. -/
theorem Faces.bytesRead_eq (faces : s.Faces feed) :
    s.bytesRead = feed.offset + s.lookahead.join.elim 0 Char.utf8Size := by
  cases faces with
  | unread => rfl
  | @looked _ rest next decoded =>
    cases next with
    | none => exact Feed.offset_of_decode_end decoded
    | some c => exact Feed.offset_of_decode decoded

end CharSource

/-! ### Keeping books -/

namespace Intake

/-- All that the intake keeps is read off the ledger. -/
structure Keeps (limits : ScanLimits) (r : Intake) (l : Ledger) : Prop where
  faces : r.source.Faces l.ahead
  offset_eq : l.ahead.offset = l.position.offset
  position_eq : r.position = l.position
  lexeme_eq : r.lexeme = String.ofList l.collected
  counted_eq : r.counted = l.collected.length
  bounded : l.collected.length ≤ limits.maxLexeme
  tokenStart_eq : r.tokenStart = l.start

variable {limits : ScanLimits} {r r' : Intake} {l : Ledger} {rest : Feed} {c : Char}
  {next : Option Char} {keep : Char → Bool}

theorem keeps_ofSource (limits : ScanLimits) (deliveries : List Delivery) :
    (ofSource ⟨⟨deliveries, 0⟩, none, none⟩).Keeps limits ⟨⟨deliveries, 0⟩, [], [], .start⟩ where
  faces := .unread _
  offset_eq := rfl
  position_eq := rfl
  lexeme_eq := rfl
  counted_eq := rfl
  bounded := Nat.zero_le _
  tokenStart_eq := rfl

namespace Keeps

theorem peek_eq (keeps : r.Keeps limits l) (looked : peek r = .ok next r') :
    ∃ rest, l.ahead.decode = .ok next rest ∧
      r' = { r with source := ⟨rest, some next, none⟩ } := by
  simp only [Intake.peek] at looked
  cases result : r.source.peek with
  | error e source => simp [result] at looked
  | ok found source =>
    simp only [result, EStateM.Result.ok.injEq] at looked
    obtain ⟨rfl, rfl⟩ := looked
    obtain ⟨rest, decoded, rfl⟩ := keeps.faces.peek_eq result
    exact ⟨rest, decoded, rfl⟩

theorem take_eq (keeps : r.Keeps limits l) (taken : take r = .ok next r') :
    ∃ rest, l.ahead.decode = .ok next rest ∧ r' = { r with source := ⟨rest, none, none⟩ } := by
  simp only [take] at taken
  cases result : r.source.next with
  | error e source => simp [result] at taken
  | ok found source =>
    simp only [result, EStateM.Result.ok.injEq] at taken
    obtain ⟨rfl, rfl⟩ := taken
    obtain ⟨rest, decoded, rfl⟩ := keeps.faces.next_eq result
    exact ⟨rest, decoded, rfl⟩

/-- A look keeps the books as they are. -/
theorem looked (keeps : r.Keeps limits l) (looked : peek r = .ok next r') : r'.Keeps limits l := by
  obtain ⟨rest, decoded, rfl⟩ := keeps.peek_eq looked
  exact { keeps with faces := .looked decoded }

/-- The one place where the bytes of a character are entered: the feed behind it and the position
behind it are as many bytes further. -/
private theorem offset_skip (keeps : r.Keeps limits l) (decoded : l.ahead.decode = .ok (some c) rest) :
    rest.offset = (l.skip ([c], rest)).position.offset := by
  rw [Feed.offset_of_decode decoded, keeps.offset_eq, Ledger.position, Ledger.position, Ledger.skip,
    Position.advanceBy_append, Position.advanceBy_cons, Position.advanceBy_nil,
    Position.offset_advance]

theorem skipped (keeps : r.Keeps limits l) (decoded : l.ahead.decode = .ok (some c) rest) :
    (moveOver c { r with source := ⟨rest, none, none⟩ }).Keeps limits (l.skip ([c], rest)) where
  faces := .unread rest
  offset_eq := keeps.offset_skip decoded
  position_eq := by
    rw [Ledger.position, Ledger.skip, Position.advanceBy_append]
    exact congrArg (·.advance c) keeps.position_eq
  lexeme_eq := keeps.lexeme_eq
  counted_eq := keeps.counted_eq
  bounded := keeps.bounded
  tokenStart_eq := keeps.tokenStart_eq

theorem collected (keeps : r.Keeps limits l) (decoded : l.ahead.decode = .ok (some c) rest)
    (done : Intake.collect limits c { r with source := ⟨rest, none, none⟩ } = .ok () r') :
    r'.Keeps limits (l.collect ([c], rest)) := by
  have skipped := keeps.skipped decoded
  have lexeme_eq := keeps.lexeme_eq
  have counted_eq := keeps.counted_eq
  simp only [Intake.collect] at done
  split at done
  next => cases done
  next room =>
    cases done
    rw [count_counted] at room
    refine ⟨.unread rest, skipped.offset_eq, skipped.position_eq, ?_, ?_, ?_, skipped.tokenStart_eq⟩
    · simp [moveOver, Ledger.collect, lexeme_eq]
    · simp [moveOver, Ledger.collect, counted_eq]
    · simp only [Ledger.collect, List.length_append, List.length_singleton]
      dsimp only at room
      omega

/-- An end of input is passed over, and nothing else changes. -/
theorem ended (keeps : r.Keeps limits l) (decoded : l.ahead.decode = .ok none rest) :
    ({ r with source := ⟨rest, none, none⟩ } : Intake).Keeps limits (l.collect ([], rest)) := by
  have same : l.collect ([], rest) = { l with ahead := rest } := by
    simp [Ledger.collect, Ledger.skip]
  rw [same]
  refine { keeps with faces := .unread rest, offset_eq := ?_ }
  exact (Feed.offset_of_decode_end decoded).trans keeps.offset_eq

theorem bumped (keeps : r.Keeps limits l) (done : bump limits r = .ok next r') :
    r'.Keeps limits (l.use .bump) := by
  obtain ⟨found, ahead, taken, done⟩ := bind_eq_ok.mp done
  obtain ⟨rest, decoded, rfl⟩ := keeps.take_eq taken
  simp only [Ledger.use, decoded]
  cases found with
  | none =>
    cases done
    exact keeps.ended decoded
  | some c =>
    obtain ⟨_, ahead, stored, done⟩ := bind_eq_ok.mp done
    cases done
    exact keeps.collected decoded stored

/-! ### Runs -/

private theorem kept_of_not_stops (onward : ¬next.all (!keep ·) = true) :
    ∃ c, next = some c ∧ keep c = true := by
  cases next with
  | none => exact absurd rfl onward
  | some c => exact ⟨c, rfl, by simpa using onward⟩

theorem bumpedWhile {count total : Nat} (keeps : r.Keeps limits l)
    (done : bumpWhileFrom limits keep count r = .ok total r') :
    r'.Keeps limits (l.collect (l.ahead.takeRun keep)) := by
  -- Every character that is kept leaves a feed with fewer reads.
  induction size : l.ahead.undelivered using Nat.strongRecOn generalizing r l count with
  | ind size ih =>
    subst size
    cases looked : peek r with
    | error e ahead => cases (bumpWhileFrom_of_error looked).symm.trans done
    | ok next ahead =>
      obtain ⟨rest, decoded, ahead_eq⟩ := keeps.peek_eq looked
      by_cases stops : next.all (!keep ·) = true
      · cases (bumpWhileFrom_of_ok looked stops).symm.trans done
        have same : l.collect ([], l.ahead) = l := by simp [Ledger.collect, Ledger.skip]
        rw [Feed.takeRun_of_stop decoded stops, same]
        exact keeps.looked looked
      · obtain ⟨c, rfl, kept⟩ := kept_of_not_stops stops
        cases stored : Intake.collect limits c ahead.dropLookahead with
        | error e last => cases (bumpWhileFrom_of_full looked kept stored).symm.trans done
        | ok _ last =>
          rw [bumpWhileFrom_of_keep looked kept stored] at done
          rw [ahead_eq] at stored
          have behind := ih _ (Feed.decode_undelivered_lt decoded) (keeps.collected decoded stored)
            done rfl
          have joined : (l.collect ([c], rest)).collect (rest.takeRun keep) =
              l.collect (c :: (rest.takeRun keep).1, (rest.takeRun keep).2) := by
            simp [Ledger.collect, Ledger.skip]
          rw [Feed.takeRun_of_keep decoded kept, ← joined]
          exact behind

theorem skippedWhile {count total : Nat} (keeps : r.Keeps limits l)
    (done : skipWhileFrom keep count r = .ok total r') :
    r'.Keeps limits (l.skip (l.ahead.takeRun keep)) := by
  induction size : l.ahead.undelivered using Nat.strongRecOn generalizing r l count with
  | ind size ih =>
    subst size
    cases looked : peek r with
    | error e ahead => cases (skipWhileFrom_of_error looked).symm.trans done
    | ok next ahead =>
      obtain ⟨rest, decoded, ahead_eq⟩ := keeps.peek_eq looked
      by_cases stops : next.all (!keep ·) = true
      · cases (skipWhileFrom_of_ok looked stops).symm.trans done
        have same : l.skip ([], l.ahead) = l := by simp [Ledger.skip]
        rw [Feed.takeRun_of_stop decoded stops, same]
        exact keeps.looked looked
      · obtain ⟨c, rfl, kept⟩ := kept_of_not_stops stops
        rw [skipWhileFrom_of_keep looked kept, ahead_eq] at done
        have behind := ih _ (Feed.decode_undelivered_lt decoded) (keeps.skipped decoded) done rfl
        have joined : (l.skip ([c], rest)).skip (rest.takeRun keep) =
            l.skip (c :: (rest.takeRun keep).1, (rest.takeRun keep).2) := by
          simp [Ledger.skip]
        rw [Feed.takeRun_of_keep decoded kept, ← joined]
        exact behind

/-! ### Calls -/

theorem cleared (keeps : r.Keeps limits l) :
    r.cleared.Keeps limits { l with collected := [], start := l.position } :=
  ⟨keeps.faces, keeps.offset_eq, keeps.position_eq, rfl, rfl, Nat.zero_le _, keeps.position_eq⟩

theorem used {u : Use} (keeps : r.Keeps limits l) (done : use limits u r = .ok () r') :
    r'.Keeps limits (l.use u) := by
  cases u with
  | peek =>
    obtain ⟨next, ahead, looked, same⟩ := bind_eq_ok.mp done
    cases same
    exact keeps.looked looked
  | peekIs expected =>
    obtain ⟨answer, ahead, compared, same⟩ := bind_eq_ok.mp done
    obtain ⟨next, ahead', looked, same'⟩ := bind_eq_ok.mp compared
    cases same
    cases same'
    exact keeps.looked looked
  | bump =>
    obtain ⟨next, ahead, bumped, same⟩ := bind_eq_ok.mp done
    cases same
    exact keeps.bumped bumped
  | bumpWhile keep =>
    obtain ⟨count, ahead, bumped, same⟩ := bind_eq_ok.mp done
    cases same
    exact keeps.bumpedWhile bumped
  | skipWhile keep =>
    obtain ⟨count, ahead, skipped, same⟩ := bind_eq_ok.mp done
    cases same
    exact keeps.skippedWhile skipped
  | bumpUntil closer =>
    obtain ⟨count, ahead, bumped, same⟩ := bind_eq_ok.mp done
    cases same
    exact keeps.bumpedWhile bumped
  | clear =>
    cases done
    exact keeps.cleared
  | takeLexeme =>
    cases done
    exact keeps.cleared
  | markStart p =>
    cases done
    exact { keeps with tokenStart_eq := rfl }

theorem usedAll {uses : List Use} (keeps : r.Keeps limits l)
    (done : useAll limits uses r = .ok () r') : r'.Keeps limits (l.useAll uses) := by
  induction uses generalizing r l with
  | nil =>
    cases done
    exact keeps
  | cons u uses ih =>
    obtain ⟨_, between, first, others⟩ := bind_eq_ok.mp done
    exact ih (keeps.used first) others

end Keeps

/-- What an intake keeps, in terms of the ledger of its calls. -/
structure Accounted (limits : ScanLimits) (l : Ledger) (r : Intake) : Prop where
  position_eq : r.position = Position.start.advanceBy l.consumed
  -- No byte has been taken but for the characters consumed and the one looked at.
  bytesRead_eq : r.source.bytesRead = r.position.offset + r.seenChar?.elim 0 Char.utf8Size
  lexeme_eq : r.lexeme = String.ofList l.collected
  counted_eq : r.counted = r.lexeme.length
  bounded : r.counted ≤ limits.maxLexeme
  tokenStart_eq : r.tokenStart = l.start

/-- **The books are exact.** After any series of calls none of which has failed, on any deliveries,
the position, the bytes taken, the lexeme, its length and the start of the token are those that the
ledger of the calls has. -/
theorem useAll_accounted (limits : ScanLimits) (deliveries : List Delivery) (uses : List Use)
    (fine : answerOf (useAll limits uses (ofSource ⟨⟨deliveries, 0⟩, none, none⟩)) = .ok ()) :
    Accounted limits (Ledger.useAll ⟨⟨deliveries, 0⟩, [], [], .start⟩ uses)
      (finalState (useAll limits uses (ofSource ⟨⟨deliveries, 0⟩, none, none⟩))) := by
  cases done : useAll limits uses (ofSource ⟨⟨deliveries, 0⟩, none, none⟩) with
  | error e r =>
    rw [done] at fine
    cases fine
  | ok _ r =>
    have keeps := (keeps_ofSource limits deliveries).usedAll done
    have bytes := keeps.faces.bytesRead_eq
    rw [keeps.offset_eq, ← keeps.position_eq] at bytes
    refine ⟨keeps.position_eq, bytes, keeps.lexeme_eq, ?_, ?_, keeps.tokenStart_eq⟩
    · rw [finalState_ok, keeps.lexeme_eq, keeps.counted_eq, String.length_ofList]
    · rw [finalState_ok, keeps.counted_eq]
      exact keeps.bounded

/-- A tag is taken in behind two skipped line ends, and the closer behind it is looked at: of the six
bytes taken five are those of the characters consumed. -/
theorem useAll_accounted_of_tag :
    let uses : List Use := [.bump, .takeLexeme, .skipWhile (· == '\n'), .clear, .bumpUntil '>',
      .markStart ⟨0, 1, 1⟩, .peekIs '>']
    let source : CharSource := ⟨.ofText "<\n\né>", none, none⟩
    let r := finalState (useAll .development uses (ofSource source))
    answerOf (useAll .development uses (ofSource source)) = .ok () ∧
      Accounted .development (Ledger.useAll ⟨.ofText "<\n\né>", [], [], .start⟩ uses) r ∧
      r.position = ⟨5, 3, 2⟩ ∧ r.source.bytesRead = 6 ∧ r.seenChar? = some '>' ∧ r.lexeme = "é" := by
  intro uses source r
  have fine : answerOf (useAll .development uses (ofSource source)) = .ok () := by decide +kernel
  refine ⟨fine, useAll_accounted .development _ uses fine, ?_, ?_, ?_, ?_⟩ <;> decide +kernel

end Intake

end GrammarLex
