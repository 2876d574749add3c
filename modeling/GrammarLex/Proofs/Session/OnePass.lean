import GrammarLex.Proofs.Reading.Segments
import GrammarLex.Proofs.Session.Requests

/-!
# A session reads its text in one pass

As long as no limit is exceeded, a session iterated to its end hands out the reading of its text:
the same tokens at the same places, and the same end or error behind them.
-/
namespace GrammarLex.Session

private theorem place_of_text (text : String) :
    (⟨(CharSource.contents { feed := .ofText text }).chars, .start, []⟩ : Place) =
        { rest := text.toList } ∧ (CharSource.contents { feed := .ofText text }).fault = none := by
  change (⟨(Feed.ofText text).contents.chars, .start, []⟩ : Place) = _ ∧
    (Feed.ofText text).contents.fault = none
  rw [Feed.contents_ofText]
  exact ⟨rfl, rfl⟩

/-- What a session hands out for a text follows the reading of the text, unless it is cut off where
the buffer is full. -/
private theorem drain_text (limits : ScanLimits) (preferences : LexicalPreferences) (text : String) :
    (∃ count p, ((start preferences { feed := .ofText text }).drain limits).failure =
      some (.tooManyTokens count p)) ∨
    (Place.read preferences.acceptCarriageReturn { rest := text.toList }).Follows limits none
      ((start preferences { feed := .ofText text }).drain limits).tokens.toList
      ((start preferences { feed := .ofText text }).drain limits).failure := by
  obtain ⟨tokens, failure, follows, ⟨_, tape_eq⟩ | ⟨_, count, p, tape_eq⟩⟩ :=
    drain_follows limits preferences { feed := .ofText text }
  · obtain ⟨here, whole⟩ := place_of_text text
    rw [here, whole] at follows
    have tokens_eq : _ = tokens := congrArg Tape.tokens tape_eq
    have failure_eq : _ = failure := congrArg Tape.failure tape_eq
    rw [← tokens_eq, ← failure_eq] at follows
    exact .inr follows
  · exact .inl ⟨count, p, congrArg Tape.failure tape_eq⟩

/-- The machine, its frames and its suspended lexeme come to the same as the reading. -/
theorem drain_eq_read (limits : ScanLimits) (preferences : LexicalPreferences) (text : String)
    (within : ∀ e, ((start preferences { feed := .ofText text }).drain limits).failure = some e →
      e.exceedsLimit = false) :
    ((start preferences { feed := .ofText text }).drain limits).tokens.toList =
        (Place.read preferences.acceptCarriageReturn { rest := text.toList }).tokens ∧
      ((start preferences { feed := .ofText text }).drain limits).failure =
        (Place.read preferences.acceptCarriageReturn { rest := text.toList }).failure := by
  rcases drain_text limits preferences text with ⟨count, p, crowded⟩ | follows
  · cases within _ crowded
  · exact follows.eq_reading within

theorem drain_eq_read_of_rule :
    (∀ e, ((start {} { feed := .ofText "<a> ::= ('b' | c]" }).drain .development).failure = some e →
      e.exceedsLimit = false) ∧
    ((start {} { feed := .ofText "<a> ::= ('b' | c]" }).drain .development).tokens.toList =
        (Place.read true { rest := "<a> ::= ('b' | c]".toList }).tokens ∧
      ((start {} { feed := .ofText "<a> ::= ('b' | c]" }).drain .development).failure =
        (Place.read true { rest := "<a> ::= ('b' | c]".toList }).failure := by
  have within : ∀ e, ((start {} { feed := .ofText "<a> ::= ('b' | c]" }).drain
      .development).failure = some e → e.exceedsLimit = false := by
    have refused : ((start {} { feed := .ofText "<a> ::= ('b' | c]" }).drain .development).failure =
        some (.mismatched ')' ']' ⟨16, 1, 17⟩) := by decide +kernel
    intro e failed
    rw [refused] at failed
    cases failed
    rfl
  exact ⟨within, drain_eq_read .development {} _ within⟩

/-- A text that is read to its end is covered by segments, which have the tokens handed out. -/
theorem drain_covered (limits : ScanLimits) (preferences : LexicalPreferences) (text : String)
    (ended : ((start preferences { feed := .ofText text }).drain limits).failure = none) :
    ∃ segments, Covered preferences.acceptCarriageReturn [] text.toList
      ((start preferences { feed := .ofText text }).drain limits).tokens.toList segments := by
  rcases drain_text limits preferences text with ⟨count, p, crowded⟩ | follows
  · cases ended.symm.trans crowded
  · rw [ended] at follows
    obtain ⟨_, tokens_eq, whole, _⟩ := follows.of_ended
    rw [tokens_eq]
    exact Place.read_covered _ [] rfl whole

theorem drain_covered_of_action :
    ((start {} { feed := .ofText "<a> {G (x, y) } 'b" }).drain .development).failure = none ∧
    ∃ segments, Covered true [] "<a> {G (x, y) } 'b".toList
      ((start {} { feed := .ofText "<a> {G (x, y) } 'b" }).drain .development).tokens.toList
      segments := by
  have ended : ((start {} { feed := .ofText "<a> {G (x, y) } 'b" }).drain .development).failure =
      none := by decide +kernel
  exact ⟨ended, drain_covered .development {} _ ended⟩

end GrammarLex.Session
