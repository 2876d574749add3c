import GrammarLex.Proofs.Scan.Agreement
import GrammarLex.Proofs.Session.Requests

/-!
# The invariant of sessions

As long as there was no error, phase and open constructs of a session's machine agree, the machine is
finished just if the buffer is, and the open groups are those that the buffered tokens have opened
and not closed. So the warning about an open construct is noted just if the text ends inside a group.
-/
namespace GrammarLex

/-- The groups that tokens have opened and not closed, innermost first. -/
def openGroups (tokens : List Token) : List FrameKind :=
  tokens.foldl (fun groups token => token.kind.regroup groups) []

theorem openGroups_append (tokens : List Token) (token : Token) :
    openGroups (tokens ++ [token]) = token.kind.regroup (openGroups tokens) := by
  rw [openGroups, List.foldl_append]
  rfl

/-- The warning about a construct that is open at the end of the text. -/
def Notice.WarnsOfUnclosed (notice : Notice) : Prop :=
  notice.level = .warning ∧ notice.code = Code.unclosedConstruct

theorem Token.isEndOfStream_iff {token : Token} :
    token.isEndOfStream = true ↔ token.kind = .endOfStream := by
  rw [isEndOfStream, decide_eq_true_eq]

namespace Session

variable {limits : ScanLimits} {s : Session} {token : Token} {e : ScanError}

/-! ### What is noted -/

/-- The session has noted that a construct was open at the end of the text. -/
def NotesUnclosed (s : Session) : Prop := ∃ notice ∈ s.journal, notice.WarnsOfUnclosed

private theorem notesUnclosed_note {notice : Notice} (other : notice.level ≠ .warning) :
    (s.note notice).NotesUnclosed ↔ s.NotesUnclosed := by
  have unwarned : ¬notice.WarnsOfUnclosed := fun warns => other warns.1
  simp only [NotesUnclosed, note, List.mem_cons, exists_eq_or_imp, unwarned, false_or]

theorem notesUnclosed_begin : (s.begin limits).NotesUnclosed ↔ s.NotesUnclosed := by
  unfold begin
  split
  · rfl
  · exact notesUnclosed_note nofun

theorem notesUnclosed_fail : (s.fail limits e).NotesUnclosed ↔ s.NotesUnclosed := by
  refine notesUnclosed_note ?_
  unfold failureNotice
  simp only
  split <;> nofun

private theorem notesUnclosed_finish :
    s.finish.NotesUnclosed ↔ s.machine.nesting.frames ≠ [] ∨ s.NotesUnclosed := by
  have complete : ∀ metrics, (completionNotice metrics).level ≠ .warning := fun _ => nofun
  unfold finish
  simp only [Nesting.top?]
  cases s.machine.nesting.frames with
  | nil =>
    rw [notesUnclosed_note (complete _)]
    simp
  | cons frame frames =>
    rw [notesUnclosed_note (complete _)]
    have warns : (unclosedNotice s.depth frame).WarnsOfUnclosed := ⟨rfl, rfl⟩
    simp [NotesUnclosed, note, warns]

/-- Only the end marker may bring the warning, and it does if a construct is open. -/
theorem notesUnclosed_acknowledge : (s.acknowledge token).NotesUnclosed ↔
    (token.isEndOfStream = true ∧ s.machine.nesting.frames ≠ []) ∨ s.NotesUnclosed := by
  -- The token is counted and noted before the end marker is looked for.
  obtain ⟨s', acknowledged, noted, machine_eq⟩ : ∃ s',
      s.acknowledge token = (if token.isEndOfStream then s'.finish else s') ∧
        (s'.NotesUnclosed ↔ s.NotesUnclosed) ∧ s'.machine = s.machine := by
    refine ⟨_, rfl, ?_, ?_⟩
    · split
      · exact notesUnclosed_note nofun
      · exact Iff.rfl
    · split <;> rfl
  rw [acknowledged, ← noted, ← machine_eq]
  cases token.isEndOfStream with
  | true => simp [notesUnclosed_finish]
  | false => simp

/-! ### The invariant -/

/-- What holds of a session at any time. -/
structure Sound (s : Session) : Prop where
  agrees : s.failure = none → s.machine.Agrees s.intake
  finished_iff : s.failure = none → (s.machine.phase = .finished ↔ s.buffer.finished = true)
  groups_eq : s.failure = none →
    groupKinds s.machine.nesting.frames = openGroups s.buffer.tokens.toList
  -- Nothing is read behind the end marker, so nothing can fail there.
  whole : s.buffer.finished = true → s.failure = none
  surfaces : ∀ e, s.failure = some e → e.Surfaces
  noted_iff : s.NotesUnclosed ↔
    s.buffer.finished = true ∧ openGroups s.buffer.tokens.toList ≠ []

theorem sound_start (preferences : LexicalPreferences) (source : CharSource) :
    (start preferences source).Sound where
  agrees _ := Machine.agrees_initial _ _
  finished_iff _ := by simp [start, Machine.initial]
  groups_eq _ := rfl
  whole _ := rfl
  surfaces := nofun
  noted_iff := by simp [start, NotesUnclosed]

/-- Neither the cursor nor the counts matter. -/
theorem Sound.of_cursor (sound : s.Sound) (cursor : Nat) (metrics : Metrics) (iterated : Bool) :
    ({ s with buffer := { s.buffer with cursor := cursor }, metrics := metrics,
              iterated := iterated } : Session).Sound where
  agrees := sound.agrees
  finished_iff := sound.finished_iff
  groups_eq := sound.groups_eq
  whole := sound.whole
  surfaces := sound.surfaces
  noted_iff := sound.noted_iff

theorem Sound.failed (unfinished : s.buffer.finished = false) (quiet : ¬s.NotesUnclosed)
    (surfaces : e.Surfaces) : (s.fail limits e).Sound where
  agrees := nofun
  finished_iff := nofun
  groups_eq := nofun
  whole finished := by
    change s.buffer.finished = true at finished
    rw [unfinished] at finished
    cases finished
  surfaces := by
    rintro e' same
    cases same
    exact surfaces
  noted_iff := by
    rw [notesUnclosed_fail]
    change _ ↔ s.buffer.finished = true ∧ _
    simp [unfinished, quiet]

/-- A session in which a token has just been brought, and has not been buffered yet. -/
structure Ready (s : Session) (token : Token) : Prop where
  isOpen : s.failure = none ∧ s.buffer.finished = false
  agrees : s.machine.Agrees s.intake
  finished_iff : s.machine.phase = .finished ↔ token.kind = .endOfStream
  groups_eq : groupKinds s.machine.nesting.frames =
    token.kind.regroup (openGroups s.buffer.tokens.toList)
  quiet : ¬s.NotesUnclosed

/-- The end marker brings the warning just if a group is open. -/
private theorem Ready.warned_iff (ready : s.Ready token) :
    (token.isEndOfStream = true ∧ s.machine.nesting.frames ≠ []) ↔
      token.isEndOfStream = true ∧ openGroups (s.buffer.tokens.toList ++ [token]) ≠ [] := by
  refine and_congr_right fun last => not_congr ?_
  -- At the end of the text the machine has nothing but groups open.
  have finished : s.machine.phase = .finished := 
    ready.finished_iff.mpr (Token.isEndOfStream_iff.mp last)
  have nests := ready.agrees.nests
  rw [finished] at nests
  rw [openGroups_append, ← ready.groups_eq, groupKinds_eq_nil nests]

/-- Buffering the token restores the invariant, and so does refusing it. -/
theorem Ready.commit_eq (limits : ScanLimits) (ready : s.Ready token) :
    (∃ s', commit limits token s = .ok (some token) s' ∧ s'.Sound ∧ s'.intake = s.intake ∧
      s'.failure = none) ∨
    ∃ e, commit limits token s = .error e (s.fail limits e) ∧ e.Surfaces ∧
      (s.fail limits e).Sound := by
  obtain ⟨unfailed, unfinished⟩ := ready.isOpen
  by_cases crowded : s.buffer.size ≥ limits.maxTokens
  · have refused : s.buffer.refusal? limits.maxTokens token =
        some (.tooManyTokens (s.buffer.size + 1)) := by
      rw [TokenBuffer.refusal?_of_unfinished unfinished, if_pos crowded]
    have surfaces : (ScanError.tooManyTokens (s.buffer.size + 1) s.position).Surfaces := by
      refine ⟨rfl, ?_⟩
      intro found p same
      cases same
    right
    refine ⟨_, ?_, surfaces, .failed unfinished ready.quiet surfaces⟩
    simp only [commit, refused, refusalError]
  · have accepted : s.buffer.refusal? limits.maxTokens token = none := by
      rw [TokenBuffer.refusal?_of_unfinished unfinished, if_neg crowded]
    let appended : Session := { s with buffer := s.buffer.append token }
    have core_eq : (appended.acknowledge token).core = appended.core := core_acknowledge _ _
    have intake_eq : (appended.acknowledge token).intake = s.intake := congrArg Core.intake core_eq
    have machine_eq : (appended.acknowledge token).machine = s.machine :=
      congrArg Core.machine core_eq
    have failure_eq : (appended.acknowledge token).failure = none :=
      (congrArg Core.failure core_eq).trans unfailed
    let s' : Session := { appended.acknowledge token with buffer := (s.buffer.append token).advance.2 }
    have tokens_eq : s'.buffer.tokens.toList = s.buffer.tokens.toList ++ [token] :=
      s.buffer.tokens_taken token
    have finished_eq : s'.buffer.finished = token.isEndOfStream :=
      TokenBuffer.finished_taken unfinished token
    left
    refine ⟨s', ?_, ?_, intake_eq, failure_eq⟩
    · simp only [commit, accepted]
      rw [acknowledge_buffer]
    · constructor
      · intro _
        change (appended.acknowledge token).machine.Agrees (appended.acknowledge token).intake
        rw [machine_eq, intake_eq]
        exact ready.agrees
      · intro _
        change (appended.acknowledge token).machine.phase = .finished ↔ _
        rw [machine_eq, finished_eq, Token.isEndOfStream_iff]
        exact ready.finished_iff
      · intro _
        change groupKinds (appended.acknowledge token).machine.nesting.frames = _
        rw [machine_eq, tokens_eq, openGroups_append]
        exact ready.groups_eq
      · exact fun _ => failure_eq
      · intro e failed
        cases failed.symm.trans failure_eq
      · rw [tokens_eq, finished_eq, ← ready.warned_iff]
        change (appended.acknowledge token).NotesUnclosed ↔ _
        rw [notesUnclosed_acknowledge]
        exact or_iff_left ready.quiet

end Session

end GrammarLex
