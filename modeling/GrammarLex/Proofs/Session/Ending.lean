import GrammarLex.Proofs.Scan.Places
import GrammarLex.Proofs.Scan.Rounds
import GrammarLex.Proofs.Session.Coupled
import GrammarLex.Proofs.Session.Failing

/-!
# Scanning ends

A session steps its machine only when it reads on, and then no machine that it steps is finished. So
its scan is over after a number of steps that the characters not yet read bound, and an iteration
after a number of items that the characters of the text bound: every buffered token but the end
marker has taken a character of its own.
-/
namespace GrammarLex

variable {limits : ScanLimits} {acceptReturn : Bool} {source : CharSource} {m m' : Machine}
  {r r' : Intake} {tokens : List Token} {e : ScanError}

/-! ### What is consumed -/

/-- A source coupled with itself of which no more is to come than the given characters. -/
def SourceCoupling.shrinking (chars : List Char) : SourceCoupling where
  joined _ s t := t = s ∧ s.contents.chars <:+ chars
  kept s t := t = s ∧ s.contents.chars <:+ chars
  parted _ _ := False
  keeps := id
  shows := by
    rintro p s t c ⟨rfl, -⟩ shows
    exact shows
  look := by
    rintro p s t ⟨rfl, within⟩
    cases looked : CharSource.peek t with
    | error e t' =>
      refine .failed looked looked ⟨rfl, ?_⟩
      rw [CharSource.chars_of_peek_error looked]
      exact List.nil_suffix
    | ok next t' =>
      cases next with
      | none =>
        refine .done looked looked ⟨⟨rfl, ?_⟩, nofun⟩
        rw [CharSource.contents_of_peek_end looked]
        exact List.nil_suffix
      | some c =>
        obtain ⟨same, whole⟩ := CharSource.contents_of_peek looked
        refine .done looked looked ⟨⟨rfl, same ▸ within⟩, ?_⟩
        rintro c ⟨⟩
        rw [whole] at within
        exact ⟨rfl, (List.suffix_cons c _).trans within⟩

/-- A step that fails may have consumed characters, and brings none back. -/
theorem Machine.Agrees.suffix_of_failed (agrees : m.Agrees r)
    (stepped : m.step limits r = ⟨.error e, m', r'⟩) :
    r'.source.contents.chars <:+ r.source.contents.chars := by
  have together : (SourceCoupling.shrinking r.source.contents.chars).onIntakes.Together r r :=
    ⟨rfl, rfl, List.suffix_rfl⟩
  have steps := Coupling.step_stepsTo limits together agrees
  rw [stepped] at steps
  cases steps with
  | alike alike =>
    cases alike with
    | failed surfaces alike => exact alike.kept.2
  | parted parts =>
    obtain ⟨_, _, parts, -⟩ := parts
    exact parts.elim

/-- The buffered tokens are at most one more than the characters consumed. -/
theorem Core.Emitted.size_le {k : Core} (emitted : k.Emitted limits acceptReturn source tokens) :
    ∃ used, source.contents.chars = used ++ k.intake.source.contents.chars ∧
      k.buffer.size ≤ used.length + 1 := by
  have sized : k.buffer.size = k.buffer.tokens.toList.length := Array.length_toList.symm
  cases emitted with
  | running unfailed emits =>
    rw [sized]
    exact emits.length_le
  | broken stuck emits stepped =>
    obtain ⟨used, chars_eq, bound⟩ := emits.length_le
    obtain ⟨more, rest_eq⟩ := emits.agrees.suffix_of_failed stepped
    refine ⟨used ++ more, ?_, ?_⟩
    · rw [List.append_assoc, rest_eq, chars_eq]
    · rw [sized, List.length_append]
      omega
  | crowded stuck emits =>
    obtain ⟨used, chars_eq, bound⟩ := emits.length_le
    rw [List.length_append, List.length_singleton] at bound
    exact ⟨used, chars_eq, by omega⟩

namespace Session

variable {s : Session} {tape : Tape}

/-! ### Requests that do not read on -/

/-- The session has to read on for the next token. -/
def Reads (s : Session) : Prop := s.buffer.size ≤ s.buffer.cursor ∧ s.core.IsOpen

/-- The same session over another machine and another intake. -/
def withMachine (s : Session) (m : Machine) (r : Intake) : Session :=
  { s with machine := m, intake := r }

private theorem next_withMachine (limits : ScanLimits) (still : ¬s.Reads) (m : Machine) (r : Intake) :
    answerOf (next limits (s.withMachine m r)) = answerOf (next limits s) ∧
      finalState (next limits (s.withMachine m r)) = (finalState (next limits s)).withMachine m r := by
  rcases advanced : s.buffer.advance with ⟨found, buffer⟩
  have advanced' : (s.withMachine m r).buffer.advance = (found, buffer) := advanced
  cases found with
  | some token =>
    rw [next_of_token advanced, next_of_token advanced']
    exact ⟨rfl, rfl⟩
  | none =>
    cases closed : s.buffer.finished with
    | true =>
      rw [next_of_finished advanced closed, next_of_finished advanced' closed]
      exact ⟨rfl, rfl⟩
    | false =>
      cases stuck : s.failure with
      | some e =>
        rw [next_of_failed advanced closed stuck, next_of_failed advanced' closed stuck]
        exact ⟨rfl, rfl⟩
      | none => exact absurd ⟨TokenBuffer.advance_of_none advanced, closed, stuck⟩ still

/-- A request that does not read on does not touch the machine: over any other the session answers
the same, and leaves the other as it is. -/
theorem perform_withMachine {request : Request} (still : ¬(request.reads = true ∧ s.Reads))
    (m : Machine) (r : Intake) : answer limits (s.withMachine m r) request = answer limits s request ∧
      (s.withMachine m r).perform limits request = (s.perform limits request).withMachine m r := by
  have asked (reads : request.reads = true) :=
    next_withMachine limits (fun on => still ⟨reads, on⟩) m r
  cases request with
  | next =>
    obtain ⟨same, left⟩ := asked rfl
    exact ⟨congrArg Answer.token same, left⟩
  | peek =>
    obtain ⟨same, left⟩ := asked rfl
    constructor
    · rw [answer, answer, (peek_eq limits _).1, (peek_eq limits s).1, same]
    · rw [perform, perform, finalState_peek, finalState_peek, left]
      rfl
  | mark => exact ⟨rfl, rfl⟩
  | reset mark => exact ⟨rfl, rfl⟩
  | iterate =>
    obtain ⟨same, left⟩ := asked rfl
    cases ended : s.iterated with
    | true =>
      have ended' : (s.withMachine m r).iterated = true := ended
      rw [answer, answer, perform, perform, iterate_of_ended ended, iterate_of_ended ended']
      exact ⟨rfl, rfl⟩
    | false =>
      have fresh' : (s.withMachine m r).iterated = false := ended
      rw [answer, answer, perform, perform, iterate_of_fresh limits ended,
        iterate_of_fresh limits fresh', same, left]
      exact ⟨rfl, rfl⟩

/-! ### Iterating -/

/-- An item is the last of its iteration, or it moves the cursor on. -/
private theorem iterate_moves (tracks : s.core.Tracks limits tape) :
    (s.perform limits .iterate).iterated = true ∨
      (s.perform limits .iterate).buffer.cursor = s.buffer.cursor + 1 := by
  cases ended : s.iterated with
  | true =>
    rw [perform, iterate_of_ended ended]
    exact .inl ended
  | false =>
    obtain ⟨-, cursor_eq, ended_eq, -⟩ := iterate_tracks tracks ended
    cases inside : tape.tokens[s.buffer.cursor]? with
    | some token =>
      obtain ⟨before, -⟩ := List.getElem?_eq_some_iff.mp inside
      rw [Tape.behind_of_token before] at cursor_eq
      exact .inr cursor_eq
    | none =>
      left
      rw [perform, ended_eq, Tape.answer, inside]
      cases tape.failure <;> rfl

private theorem iterated_lasts (ended : s.iterated = true) (count : Nat) :
    (s.serve limits (List.replicate count .iterate)).iterated = true := by
  induction count with
  | zero => exact ended
  | succ count ih =>
    rw [List.replicate_succ, serve, List.foldl_cons, perform, iterate_of_ended ended]
    exact ih

/-- After a number of items the iteration has ended, or the cursor has passed as many tokens. -/
private theorem serve_iterate (tracks : s.core.Tracks limits tape) (count : Nat) :
    (s.serve limits (List.replicate count .iterate)).iterated = true ∨
      (s.serve limits (List.replicate count .iterate)).buffer.cursor = s.buffer.cursor + count := by
  induction count generalizing s with
  | zero => exact .inr rfl
  | succ count ih =>
    rw [List.replicate_succ, serve, List.foldl_cons]
    rcases iterate_moves tracks with ended | moved
    · exact .inl (iterated_lasts ended count)
    · rcases ih (perform_tracks tracks .iterate) with ended | passed
      · exact .inl ended
      · right
        rw [serve, moved] at passed
        omega

/-- Where there are fewer tokens than items have been asked for, the iteration has ended. -/
private theorem iterated_of_size_lt {count : Nat} (tracks : s.core.Tracks limits tape)
    (fewer : (s.serve limits (List.replicate count .iterate)).buffer.size < count) :
    (s.serve limits (List.replicate count .iterate)).iterated = true := by
  have within : (s.serve limits (List.replicate count .iterate)).buffer.cursor ≤
      (s.serve limits (List.replicate count .iterate)).buffer.size :=
    (serve_tracks tracks (List.replicate count .iterate)).cursor_le
  rcases serve_iterate tracks count with ended | passed
  · exact ended
  · omega

/-! ### The result -/

/-- What makes the scanning of a session end. -/
structure Ends (limits : ScanLimits) (source : CharSource) (s : Session) : Prop where
  -- The machines that the loop of a scan steps.
  unfinished : s.core.IsOpen → ∀ m r, s.machine.Quiet limits s.intake m r → m.phase ≠ .finished
  descends : s.core.IsOpen → ∀ m r m' r', s.machine.Quiet limits s.intake m r →
    m.step limits r = ⟨.ok none, m', r'⟩ →
      toLex (r'.unread, m'.phase.rank) < toLex (r.unread, m.phase.rank)
  rounds_eq : s.core.IsOpen → ∀ peak,
    s.machine.rounds limits (4 * s.intake.unread + 4) s.intake peak =
        some (s.machine.run limits s.intake peak) ∧
      (s.machine.run limits s.intake peak).outcome ≠ .ok none
  -- Other requests do not touch the machine.
  untouched : ∀ request, ¬(request.reads = true ∧ s.Reads) → ∀ m r,
    answer limits (s.withMachine m r) request = answer limits s request ∧
      (s.withMachine m r).perform limits request = (s.perform limits request).withMachine m r
  drained :
    (s.serve limits (List.replicate (source.contents.chars.length + 2) .iterate)).iterated = true
  size_le : ∃ used, source.contents.chars = used ++ s.intake.source.contents.chars ∧
    s.buffer.size ≤ used.length + 1

/-- The machine of an open session has emitted what is buffered, and is not finished. -/
private theorem emits_of_open (limits : ScanLimits) (preferences : LexicalPreferences)
    (source : CharSource) (requests : List Request)
    (isOpen : ((start preferences source).serve limits requests).core.IsOpen) :
    (∃ emitted, Machine.Emits limits preferences.acceptCarriageReturn source emitted
        ((start preferences source).serve limits requests).machine
        ((start preferences source).serve limits requests).intake) ∧
      ((start preferences source).serve limits requests).machine.phase ≠ .finished := by
  obtain ⟨emitted, emitted_by⟩ := serve_emitted limits preferences source requests
  refine ⟨⟨_, emitted_by.emits isOpen⟩, ?_⟩
  intro finished
  have closed := ((sound_serve limits preferences source requests).finished_iff isOpen.2).mp finished
  exact Bool.false_ne_true (isOpen.1.symm.trans closed)

private theorem size_le_serve (limits : ScanLimits) (preferences : LexicalPreferences)
    (source : CharSource) (requests : List Request) : ∃ used, source.contents.chars = used ++
        ((start preferences source).serve limits requests).intake.source.contents.chars ∧
      ((start preferences source).serve limits requests).buffer.size ≤ used.length + 1 := by
  obtain ⟨emitted, emitted_by⟩ := serve_emitted limits preferences source requests
  exact emitted_by.size_le

/-- **Scanning ends.** In every session that requests lead to, the loop of a scan comes to a token or
an error within a number of rounds that the unread characters bound, because no machine that it steps
is finished and none that emits nothing leaves both the characters and the rank as they are; nothing
but reading on steps a machine, draining the session ends, and there is at most one more token than
characters consumed. The loops of the handlers end with the characters. -/
theorem scanning_ends (limits : ScanLimits) (preferences : LexicalPreferences) (source : CharSource)
    (requests : List Request) :
    Ends limits source ((start preferences source).serve limits requests) ∧
      ∀ (keep : Char → Bool) (r : Intake) (n count : Nat), r.unread < n →
        r.bumpRounds limits keep n count = some (r.bumpWhileFrom limits keep count) ∧
          r.skipRounds keep n count = some (r.skipWhileFrom keep count) := by
  constructor
  · have tracks := start_tracks_drain limits preferences source
    have serving := serve_tracks tracks requests
    refine ⟨?_, ?_, ?_, fun _ still => perform_withMachine still, ?_,
      size_le_serve limits preferences source _⟩
    · intro isOpen m r quiet
      obtain ⟨⟨emitted, emits⟩, unfinished⟩ := emits_of_open limits preferences source requests isOpen
      exact (quiet.pull_eq emits.agrees unfinished).2.2
    · intro isOpen m r m' r' quiet stepped
      obtain ⟨⟨emitted, emits⟩, unfinished⟩ := emits_of_open limits preferences source requests isOpen
      obtain ⟨spot, -, here⟩ := (emits.quiet quiet).walk
      exact here.silent_lt (quiet.pull_eq emits.agrees unfinished).2.2 stepped
    · intro isOpen peak
      obtain ⟨⟨emitted, emits⟩, unfinished⟩ := emits_of_open limits preferences source requests isOpen
      obtain ⟨spot, -, here⟩ := emits.walk
      refine here.rounds_eq unfinished ?_ peak
      have ranked := Phase.rank_le ((start preferences source).serve limits requests).machine.phase
      simp only [Machine.budget]
      omega
    · apply iterated_of_size_lt serving
      obtain ⟨used, chars_eq, bound⟩ := size_le_serve limits preferences source
        (requests ++ List.replicate (source.contents.chars.length + 2) .iterate)
      have fewer := congrArg List.length chars_eq
      rw [List.length_append] at fewer
      rw [serve, List.foldl_append] at bound
      exact Nat.lt_succ_of_le (Nat.le_trans bound (by omega))
  · intro keep r n count enough
    exact ⟨Intake.bumpRounds_eq enough count, Intake.skipRounds_eq enough count⟩

/-- Within an action, where the loop passes white space before it comes to the name, and behind the
error that there is none. -/
theorem scanning_ends_of_action :
    (let s := (start {} ⟨.ofText "a \x7b!", none, none⟩).serve .development [.next];
      s.core.IsOpen ∧ s.intake.unread = 3 ∧
        (s.machine.rounds .development 16 s.intake 0).isSome = true ∧
        (s.machine.run .development s.intake 0).outcome ≠ .ok none ∧
        (s.serve .development (List.replicate 6 .iterate)).iterated = true) ∧
    (let s := (start {} ⟨.ofText "a \x7b!", none, none⟩).serve .development [.next, .next];
      s.failure ≠ none ∧
        ∀ m r, (s.withMachine m r).perform .development .next =
          (s.perform .development .next).withMachine m r) ∧
    (Intake.ofSource ⟨.ofText "ab", none, none⟩).skipRounds Unicode.isAlphanumeric 3 0 =
      some ((Intake.ofSource ⟨.ofText "ab", none, none⟩).skipWhileFrom Unicode.isAlphanumeric 0) := by
  refine ⟨?_, ?_, ?_⟩
  · intro s
    obtain ⟨ends, -⟩ := scanning_ends .development {} ⟨.ofText "a \x7b!", none, none⟩ [.next]
    have isOpen : s.core.IsOpen := ⟨by decide +kernel, by decide +kernel⟩
    have unread : s.intake.unread = 3 := by decide +kernel
    obtain ⟨rounds_eq, brings⟩ := ends.rounds_eq isOpen 0
    have enough : s.machine.rounds .development 16 s.intake 0 =
        some (s.machine.run .development s.intake 0) := by
      rw [unread] at rounds_eq
      exact rounds_eq
    exact ⟨isOpen, unread, by rw [enough]; rfl, brings, by decide +kernel⟩
  · intro s
    obtain ⟨ends, -⟩ := scanning_ends .development {} ⟨.ofText "a \x7b!", none, none⟩ [.next, .next]
    have failed : s.failure ≠ none := by decide +kernel
    have stuck : ¬(Request.reads .next = true ∧ s.Reads) := fun reads => failed reads.2.2.2
    exact ⟨failed, fun m r => (ends.untouched .next stuck m r).2⟩
  · obtain ⟨-, loops⟩ := scanning_ends .development {} ⟨.ofText "ab", none, none⟩ []
    exact (loops Unicode.isAlphanumeric _ 3 0 (by decide +kernel)).2

end Session

end GrammarLex
