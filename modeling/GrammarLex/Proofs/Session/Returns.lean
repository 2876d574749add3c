import GrammarLex.Proofs.Reading.Tiling
import GrammarLex.Proofs.Session.OnePass

/-!
# Carriage returns that do not count as white space

If carriage returns are not accepted as white space, none is passed over between two lexemes. The
white space behind the name of an action is trimmed off whatever the preferences are, and this is
the only place where a carriage return can be lost.
-/
namespace GrammarLex.Session

/-- A carriage return of a text that is read to its end lies in the lexeme of exactly one token or
in the white space trimmed off behind the name of exactly one action; that all of them lie in
lexemes is the case just if nothing that is trimmed off holds one. -/
theorem returns_kept_unless_trimmed (limits : ScanLimits) (preferences : LexicalPreferences)
    (text : String) (refused : preferences.acceptCarriageReturn = false)
    (ended : ((start preferences { feed := .ofText text }).drain limits).failure = none) :
    ∃ tiles, Tiled false [] text.toList
        ((start preferences { feed := .ofText text }).drain limits).tokens.toList tiles ∧
      (∀ index, text.toList[index]? = some '\r' →
        ((∃! k, LiesIn Tile.LexemeAt tiles index k) ∧ ∀ k, ¬LiesIn Tile.TrailAt tiles index k) ∨
        ((∃! k, LiesIn Tile.TrailAt tiles index k) ∧ ∀ k, ¬LiesIn Tile.LexemeAt tiles index k)) ∧
      ((∀ index, text.toList[index]? = some '\r' → ∃! k, LiesIn Tile.LexemeAt tiles index k) ↔
        ∀ tile ∈ tiles, '\r' ∉ tile.trail) := by
  have kept : isPassedOver false '\r' = false := by decide
  obtain ⟨segments, covered⟩ := drain_covered limits preferences text ended
  rw [refused] at covered
  obtain ⟨tiles, tiled⟩ := covered.tiled
  exact ⟨tiles, tiled, fun index found => tiled.lies_once found kept, tiled.kept_iff kept⟩

/-- The carriage return of the quoted text is kept, the one behind the name is not. -/
theorem returns_kept_unless_trimmed_of_name :
    ((start { acceptCarriageReturn := false } { feed := .ofText "'a\r'\x7bG\r()\x7d" }).drain
      .development).failure = none ∧
    ((start { acceptCarriageReturn := false } { feed := .ofText "'a\r'\x7bG\r()\x7d" }).drain
      .development).tokens.toList.map Token.lexeme = ["a\r", "G", ""] ∧
    ∃ tiles, Tiled false [] "'a\r'\x7bG\r()\x7d".toList
        ((start { acceptCarriageReturn := false } { feed := .ofText "'a\r'\x7bG\r()\x7d" }).drain
          .development).tokens.toList tiles ∧
      ((∀ index, "'a\r'\x7bG\r()\x7d".toList[index]? = some '\r' →
          ∃! k, LiesIn Tile.LexemeAt tiles index k) ↔
        ∀ tile ∈ tiles, '\r' ∉ tile.trail) := by
  have ended : ((start { acceptCarriageReturn := false }
      { feed := .ofText "'a\r'\x7bG\r()\x7d" }).drain .development).failure = none := by
    decide +kernel
  have lexemes : ((start { acceptCarriageReturn := false }
      { feed := .ofText "'a\r'\x7bG\r()\x7d" }).drain .development).tokens.toList.map
        Token.lexeme = ["a\r", "G", ""] := by decide +kernel
  obtain ⟨tiles, tiled, _, exactly⟩ := returns_kept_unless_trimmed .development
    { acceptCarriageReturn := false } "'a\r'\x7bG\r()\x7d" rfl ended
  exact ⟨ended, lexemes, tiles, tiled, exactly⟩

end GrammarLex.Session
