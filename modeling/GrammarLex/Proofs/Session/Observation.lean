import GrammarLex.Journal.Station
import GrammarLex.Proofs.Scan.CarriageReturn
import GrammarLex.Proofs.Session.Coupled

/-!
# Watching a session changes nothing

A session may be attended by a station, which publishes after every request what the session wants to
have logged. Neither the station nor the preferences about logs, positions and metrics have a say in
what the session answers, and whether a carriage return separates tokens has none on a text without
one. Two sessions are compared by what their answers depend on.
-/
namespace GrammarLex

namespace Core

variable {limits : ScanLimits} {k k' k'' : Core} {flag : Bool}
  {answer answer' : Except ScanError (Option Token)}

def accepting (flag : Bool) (k : Core) : Core := { k with machine := k.machine.accepting flag }

/-- If the text is read on, it makes no difference whether a carriage return separates tokens. -/
def Indifferent (flag : Bool) (k : Core) : Prop :=
  k.IsOpen → k.machine.Indifferent flag k.intake

/-- A request for the next token, as a function of what its answer depends on. -/
def next (limits : ScanLimits) (k : Core) : Except ScanError (Option Token) × Core :=
  match k.buffer.tokens[k.buffer.cursor]? with
  | some token =>
    (.ok (some token), { k with buffer := { k.buffer with cursor := k.buffer.cursor + 1 } })
  | none =>
    if k.buffer.finished then (.ok none, k)
    else match k.failure with
      | some e => (.error e, k)
      | none => match k.machine.pull limits k.intake with
        | ⟨.error e, machine, intake⟩ => (.error e, { k with machine, intake, failure := some e })
        | ⟨.ok none, machine, intake⟩ => (.ok none, { k with machine, intake })
        | ⟨.ok (some token), machine, intake⟩ =>
          if limits.maxTokens ≤ k.buffer.size then
            let e := ScanError.tooManyTokens (k.buffer.size + 1) intake.position
            (.error e, { k with machine, intake, failure := some e })
          else
            (.ok (some token), { k with machine, intake, buffer := (k.buffer.append token).advance.2 })

theorem Next.next_eq (next : k.Next limits answer k') : k.next limits = (answer, k') := by
  cases next with
  | buffered found => simp only [Core.next, found]
  | finished empty closed => simp only [Core.next, empty, closed, if_true]
  | failed empty unfinished stuck => simp [Core.next, empty, unfinished, stuck]
  | broken empty isOpen pulled => simp [Core.next, empty, isOpen.1, isOpen.2, pulled]
  | silent empty isOpen pulled => simp [Core.next, empty, isOpen.1, isOpen.2, pulled]
  | crowded empty isOpen pulled crowded =>
    simp [Core.next, empty, isOpen.1, isOpen.2, pulled, crowded]
  | read empty isOpen pulled room =>
    simp [Core.next, empty, isOpen.1, isOpen.2, pulled, Nat.not_le_of_lt room]

/-- A request for the next token has one answer and leaves one core. -/
theorem Next.unique (next : k.Next limits answer k') (next' : k.Next limits answer' k'') :
    answer' = answer ∧ k'' = k' := by
  have same := next'.next_eq.symm.trans next.next_eq
  exact ⟨congrArg Prod.fst same, congrArg Prod.snd same⟩

/-- The next token is the same with an answer that the machine is indifferent to. -/
theorem Next.accepting (next : k.Next limits answer k') (indifferent : k.Indifferent flag) :
    (k.accepting flag).Next limits answer (k'.accepting flag) ∧ k'.Indifferent flag := by
  cases next with
  | buffered found => exact ⟨.buffered found, indifferent⟩
  | finished empty closed => exact ⟨.finished empty closed, indifferent⟩
  | failed empty unfinished stuck => exact ⟨.failed empty unfinished stuck, indifferent⟩
  | broken empty isOpen pulled =>
    exact ⟨.broken empty isOpen (Machine.pull_accepting (indifferent isOpen) pulled).1, nofun⟩
  | silent empty isOpen pulled =>
    obtain ⟨other, indifferent'⟩ := Machine.pull_accepting (indifferent isOpen) pulled
    exact ⟨.silent empty isOpen other, fun _ => indifferent' _ rfl⟩
  | crowded empty isOpen pulled crowded =>
    exact ⟨.crowded empty isOpen (Machine.pull_accepting (indifferent isOpen) pulled).1 crowded, nofun⟩
  | read empty isOpen pulled room =>
    obtain ⟨other, indifferent'⟩ := Machine.pull_accepting (indifferent isOpen) pulled
    exact ⟨.read empty isOpen other room, fun _ => indifferent' _ rfl⟩

end Core

namespace Session

variable {limits : ScanLimits} {s t : Session} {flag : Bool}

/-! ### Requests -/

private theorem next_accepting (limits : ScanLimits) (same : t.core = s.core.accepting flag)
    (indifferent : s.core.Indifferent flag) :
    answerOf (next limits t) = answerOf (next limits s) ∧
      (finalState (next limits t)).core = (finalState (next limits s)).core.accepting flag ∧
      (finalState (next limits s)).core.Indifferent flag := by
  obtain ⟨other, indifferent'⟩ := (next_core limits s).accepting indifferent
  have next' := next_core limits t
  rw [same] at next'
  obtain ⟨answer_eq, core_eq⟩ := other.unique next'
  exact ⟨answer_eq, core_eq, indifferent'⟩

/-- Sessions whose cores differ in an answer that they are indifferent to are served alike. -/
theorem perform_accepting (limits : ScanLimits) (same : t.core = s.core.accepting flag)
    (indifferent : s.core.Indifferent flag) (request : Request) :
    answer limits t request = answer limits s request ∧
      (t.perform limits request).core = (s.perform limits request).core.accepting flag ∧
      (s.perform limits request).core.Indifferent flag := by
  have mark_eq : t.mark = s.mark := congrArg (·.buffer.mark) same
  have buffer_eq : t.buffer = s.buffer := congrArg Core.buffer same
  have iterated_eq : t.iterated = s.iterated := congrArg Core.iterated same
  obtain ⟨answer_eq, core_eq, indifferent'⟩ := next_accepting limits same indifferent
  have behind_eq : (finalState (next limits t)).buffer = (finalState (next limits s)).buffer :=
    congrArg Core.buffer core_eq
  cases request with
  | next => exact ⟨congrArg Answer.token answer_eq, core_eq, indifferent'⟩
  | peek =>
    obtain ⟨left, left_core⟩ := peek_eq limits s
    obtain ⟨right, right_core⟩ := peek_eq limits t
    refine ⟨?_, ?_, ?_⟩
    · simp only [answer, left, right, answer_eq]
    · simp only [perform, left_core, right_core, core_eq, behind_eq, mark_eq]
      rfl
    · simp only [perform, left_core]
      exact indifferent'
  | mark => exact ⟨congrArg Answer.mark mark_eq, same, indifferent⟩
  | reset m =>
    refine ⟨rfl, ?_, indifferent⟩
    change { t.core with buffer := t.buffer.reset m } = _
    rw [same, buffer_eq]
    rfl
  | iterate =>
    cases ended : s.iterated with
    | true =>
      have still : iterate limits s = (none, s) := iterate_of_ended ended
      have still' : iterate limits t = (none, t) := iterate_of_ended (iterated_eq.trans ended)
      refine ⟨?_, ?_, ?_⟩
      · simp only [answer, still, still']
      · simp only [perform, still, still', same]
      · simp only [perform, still]
        exact indifferent
    | false =>
      obtain ⟨left, left_core⟩ := iterate_eq limits ended
      obtain ⟨right, right_core⟩ := iterate_eq limits (iterated_eq.trans ended)
      refine ⟨?_, ?_, ?_⟩
      · simp only [answer, left, right, answer_eq]
      · simp only [perform, left_core, right_core, core_eq, answer_eq]
        rfl
      · simp only [perform, left_core]
        exact indifferent'

end Session

/-! ### Attended sessions -/

/-- A session, and the station that publishes what it wants to have logged. -/
structure Attended where
  session : Session
  station : Station

namespace Attended

/-- A request, and when it is made. -/
abbrev Call := Instant × Session.Request

/-- The session is served, and its notices are collected and published. -/
def perform (limits : ScanLimits) (a : Attended) (call : Call) : Attended :=
  let served := a.session.perform limits call.2
  ⟨served.clearJournal, a.station.publishAll call.1 served.notices⟩

def serve (limits : ScanLimits) (a : Attended) (calls : List Call) : Attended :=
  calls.foldl (perform limits) a

def answers (limits : ScanLimits) (a : Attended) : List Call → List Session.Answer
  | [] => []
  | call :: calls =>
    Session.answer limits a.session call.2 :: answers limits (a.perform limits call) calls

variable {a b : Attended} {flag : Bool}

/-- Attended sessions are served alike whatever their stations make of the notices, and whenever the
requests are made. -/
private theorem serve_accepting (limits : ScanLimits) {calls calls' : List Call}
    (requests : calls'.map Prod.snd = calls.map Prod.snd)
    (same : b.session.core = a.session.core.accepting flag)
    (indifferent : a.session.core.Indifferent flag) :
    b.answers limits calls' = a.answers limits calls ∧
      (b.serve limits calls').session.core = (a.serve limits calls).session.core.accepting flag := by
  -- Collecting the notices leaves the core alone.
  induction calls generalizing a b calls' with
  | nil =>
    obtain rfl := List.map_eq_nil_iff.mp requests
    exact ⟨rfl, same⟩
  | cons call calls ih =>
    obtain ⟨⟨now', request⟩, calls', rfl, rfl, behind⟩ := List.map_eq_cons_iff.mp requests
    obtain ⟨answer_eq, core_eq, indifferent'⟩ :=
      Session.perform_accepting limits same indifferent call.2
    obtain ⟨others, final⟩ := ih (a := a.perform limits call)
      (b := b.perform limits (now', call.2)) behind core_eq indifferent'
    refine ⟨?_, final⟩
    rw [answers, answers, others, answer_eq]

end Attended

namespace Session

/-- Preferences about logs, positions and metrics, and the station that attends a session, change
neither an answer nor what the session has buffered, where it stands, what is open in it and how it
has failed. Preferences about carriage returns do not either if the text has none. -/
theorem observation_changes_nothing (limits : ScanLimits) (preferences preferences' : LexicalPreferences)
    (source : CharSource) (station station' : Station) (calls calls' : List Attended.Call)
    (requests : calls'.map Prod.snd = calls.map Prod.snd)
    (agree : preferences'.acceptCarriageReturn = preferences.acceptCarriageReturn ∨
      '\r' ∉ source.contents.chars) :
    let a : Attended := ⟨start preferences source, station⟩
    let b : Attended := ⟨start preferences' source, station'⟩
    let s := (a.serve limits calls).session
    let t := (b.serve limits calls').session
    b.answers limits calls' = a.answers limits calls ∧ t.buffer = s.buffer ∧
      t.position = s.position ∧ t.depth = s.depth ∧ t.failure = s.failure := by
  intro a b s t
  have same : b.session.core = a.session.core.accepting preferences'.acceptCarriageReturn := rfl
  have indifferent : a.session.core.Indifferent preferences'.acceptCarriageReturn := by
    intro _
    rcases agree with agree | free
    · exact .inl agree.symm
    · exact .inr ⟨Machine.agrees_initial _ _, free⟩
  obtain ⟨answers_eq, core_eq⟩ := Attended.serve_accepting limits requests same indifferent
  exact ⟨answers_eq, congrArg Core.buffer core_eq, congrArg (·.intake.position) core_eq,
    congrArg (·.machine.nesting.depth) core_eq, congrArg Core.failure core_eq⟩

/-- A text without a carriage return, once with every preference turned around and a service that
stores what is logged. -/
theorem observation_changes_nothing_of_word :
    let a : Attended := ⟨start {} ⟨.ofText "a b", none, none⟩, {}⟩
    let b : Attended :=
      ⟨start ⟨false, true, false, true, false⟩ ⟨.ofText "a b", none, none⟩,
        { service := some ⟨.keep (.empty 8), .debug⟩ }⟩
    let calls : List Attended.Call := [(.epoch, .next), (.epoch, .mark), (.epoch, .iterate)]
    let s := (a.serve .development calls).session
    let t := (b.serve .development calls).session
    b.answers .development calls = a.answers .development calls ∧ t.buffer = s.buffer ∧
      t.position = s.position ∧ t.depth = s.depth ∧ t.failure = s.failure := by
  intro a b calls s t
  have free : '\r' ∉ (CharSource.contents ⟨.ofText "a b", none, none⟩).chars := by
    change '\r' ∉ (Feed.ofText "a b").contents.chars
    rw [Feed.contents_ofText]
    decide
  exact observation_changes_nothing .development {} ⟨false, true, false, true, false⟩
    ⟨.ofText "a b", none, none⟩ {} { service := some ⟨.keep (.empty 8), .debug⟩ } calls calls rfl
    (.inr free)

end Session

end GrammarLex
