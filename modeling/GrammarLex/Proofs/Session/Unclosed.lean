import GrammarLex.Proofs.Journal.Publishing
import GrammarLex.Proofs.Reading.Segments
import GrammarLex.Proofs.Session.Coupled

/-!
# What is reported of constructs left open

A text may end inside a group, behind the opener of a quoted or angle-bracketed construct, or in
front of the brace that would close an action. The end of the text is taken as the closer of an
enclosed construct and of an action, so that their frames are gone when the end marker is buffered:
only groups are reported.
-/
namespace GrammarLex

/-- A quoted or angle-bracketed construct or an action is without its closer. -/
def LeftOpen (segments : List Segment) : Prop := ∃ segment ∈ segments, segment.isClosed = false

/-- The warning about an open construct reaches the service when notices are published. -/
def Station.LogsUnclosed (s : Station) (now : Instant) (notices : List Notice) : Prop :=
  ∃ e ∈ s.logged now notices, e.level = .warning ∧ e.code = Code.unclosedConstruct

namespace Session

/-- With a service that accepts warnings, a session that comes to the end of its text has the warning
among the entries that the service takes in just if a group is open there. So it tells all constructs
left open just if a group is open too or there are none. -/
theorem unclosed_reported (limits : ScanLimits) (preferences : LexicalPreferences)
    (source : CharSource) (requests : List Request) (now : Instant) (station : Station)
    (service : Service) (installed : station.service = some service)
    (accepts : service.accepts .warning = true)
    (ended : ((start preferences source).serve limits requests).isFinished = true) :
    let s := (start preferences source).serve limits requests
    let logged := station.LogsUnclosed now s.notices
    let groupOpen := openGroups s.buffer.tokens.toList ≠ []
    (station.publishAll now s.notices).service =
      some ((station.logged now s.notices).foldl (fun service e => (service.force e).1) service) ∧
    (logged ↔ groupOpen) ∧
    (∃ segments, Covered preferences.acceptCarriageReturn [] source.contents.chars
      s.buffer.tokens.toList segments) ∧
    ∀ segments, Covered preferences.acceptCarriageReturn [] source.contents.chars
        s.buffer.tokens.toList segments →
      ((logged ↔ groupOpen ∨ LeftOpen segments) ↔ groupOpen ∨ ¬LeftOpen segments) := by
  intro s logged groupOpen
  have reported : logged ↔ groupOpen := by
    have noted := (sound_serve limits preferences source requests).noted_iff
    calc logged
      _ ↔ ∃ notice ∈ s.notices, notice.WarnsOfUnclosed := station.warned_iff installed accepts _ _
      _ ↔ s.NotesUnclosed := by simp only [notices, List.mem_reverse, NotesUnclosed]
      _ ↔ groupOpen := noted.trans (and_iff_right ended)
  obtain ⟨-, tokens_eq, ends⟩ := read_of_finished limits preferences source ended
  have covered := Place.read_covered _ [] rfl ends
  rw [← tokens_eq] at covered
  refine ⟨?_, reported, covered, ?_⟩
  · rw [station.service_publishAll, installed]
    rfl
  · intro segments _
    rw [reported]
    by_cases isOpen : groupOpen
    · simp [isOpen]
    · simp [isOpen]

/-- An angle bracket that is never closed is not told. -/
theorem unclosed_reported_of_bracket :
    let s := (start {} ⟨.ofBytes [0x3C, 0x62], none, none⟩).serve .development [.next, .next]
    let station : Station := { service := some ⟨.keep (.empty 8), .warning⟩ }
    let segments := [Segment.enclosed '<' ['b'] false]
    s.isFinished = true ∧ openGroups s.buffer.tokens.toList = [] ∧
      Covered true [] ['<', 'b'] s.buffer.tokens.toList segments ∧ LeftOpen segments ∧
      ¬station.LogsUnclosed .epoch s.notices := by
  intro s station segments
  have ended : s.isFinished = true := by decide +kernel
  have nothing : openGroups s.buffer.tokens.toList = [] := by decide +kernel
  have tokens_eq : s.buffer.tokens.toList = tokensOf [] segments := by decide +kernel
  have covered : Covered true [] ['<', 'b'] s.buffer.tokens.toList segments := by
    refine ⟨?_, nofun, rfl, tokens_eq⟩
    rintro segment member
    obtain rfl := List.mem_singleton.mp member
    exact ⟨by decide, by decide⟩
  have leftOpen : LeftOpen segments := ⟨_, List.mem_singleton_self _, rfl⟩
  obtain ⟨-, reported, _⟩ := unclosed_reported .development {} ⟨.ofBytes [0x3C, 0x62], none, none⟩
    [.next, .next] .epoch station _ rfl rfl ended
  exact ⟨ended, nothing, covered, leftOpen, fun logged => reported.mp logged nothing⟩

end Session

end GrammarLex
