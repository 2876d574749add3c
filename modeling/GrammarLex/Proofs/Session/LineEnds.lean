import GrammarLex.Proofs.Scan.LineEnds
import GrammarLex.Proofs.Session.Likeness

/-!
# Line ends do not matter

Where a carriage return counts as white space, a text whose lines end with a carriage return and a
newline is read like the one with newlines alone, to the same tokens at the same lines and columns
and to the same end. The lexemes that reach over a line end have a character more for each, so one
of them may be too long.
-/
namespace GrammarLex

/-- Every newline with a carriage return in front of it. -/
def withReturns (text : String) : String :=
  String.ofList (text.toList.flatMap fun c => if c = '\n' then ['\r', '\n'] else [c])

/-- The same token, with carriage returns in its lexeme. -/
structure Token.Returned (token token' : Token) : Prop where
  kind_eq : token'.kind = token.kind
  line_eq : token'.line = token.line
  column_eq : token'.column = token.column
  lexeme_eq : token'.lexeme = withReturns token.lexeme

/-- The same error at the same line and column. What is found may be a carriage return. -/
structure ScanError.Returned (e e' : ScanError) : Prop where
  name_eq : e'.name = e.name
  line_eq : e'.position.line = e.position.line
  column_eq : e'.position.column = e.position.column

theorem toList_withReturns (text : String) :
    (withReturns text).toList = Writing.returns.text text.toList :=
  String.toList_ofList

/-- A text on one line stays as it is. -/
theorem withReturns_of_line {text : String} (line : '\n' ∉ text.toList) : withReturns text = text := by
  have spelled : ∀ chars : List Char, '\n' ∉ chars → Writing.returns.text chars = chars := by
    intro chars line
    induction chars with
    | nil => rfl
    | cons c rest ih =>
      have other : c ≠ '\n' := by
        rintro rfl
        exact line List.mem_cons_self
      rw [Writing.returns_other other, ih fun member => line (List.mem_cons_of_mem c member)]
  apply String.toList_inj.mp
  rw [toList_withReturns, spelled _ line]

theorem Token.Like.returned {token token' : Token} (like : token.Like .returns token') :
    token.Returned token' := by
  obtain ⟨kind_eq, lexeme_eq, rest, p, p', same, here, here'⟩ := like
  obtain ⟨line_eq, column_eq⟩ := Prod.mk.inj (here'.trans (Eq.trans same here.symm))
  refine ⟨kind_eq, line_eq, column_eq, ?_⟩
  apply String.toList_inj.mp
  rw [lexeme_eq, toList_withReturns]

theorem Token.Returned.eq_of_line {token token' : Token} (returned : token.Returned token')
    (line : '\n' ∉ token.lexeme.toList) : token' = token := by
  obtain ⟨kind_eq, line_eq, column_eq, lexeme_eq⟩ := returned
  rw [withReturns_of_line line] at lexeme_eq
  cases token
  cases token'
  simp_all only

/-- If no lexeme reaches over a line end the tokens are the same. -/
theorem Token.eq_of_returned {tokens tokens' : List Token}
    (returned : List.Forall₂ Token.Returned tokens tokens')
    (lines : ∀ token ∈ tokens, '\n' ∉ token.lexeme.toList) : tokens' = tokens := by
  induction returned with
  | nil => rfl
  | cons first others ih =>
    obtain ⟨line, lines⟩ := List.forall_mem_cons.mp lines
    rw [first.eq_of_line line, ih lines]

theorem ScanError.Like.returned {e e' : ScanError} (like : e.Like .returns e') : e.Returned e' := by
  obtain ⟨moved_eq, rest, same⟩ := like
  obtain ⟨line_eq, column_eq⟩ := Prod.mk.inj same
  refine ⟨?_, line_eq, column_eq⟩
  rw [moved_eq]
  cases e <;> rfl

namespace Session

/-- A text is read alike with both ways of ending lines, unless a lexeme is too long in one of
them. -/
theorem line_ends_alike (limits : ScanLimits) (preferences : LexicalPreferences) (text : String)
    (accepts : preferences.acceptCarriageReturn = true) :
    let ran := (start preferences { feed := .ofText text }).drain limits
    let ran' := (start preferences { feed := .ofText (withReturns text) }).drain limits
    (∃ e : ScanError, e.isTooLong = true ∧ (ran.failure = some e ∨ ran'.failure = some e)) ∨
      (List.Forall₂ Token.Returned ran.tokens.toList ran'.tokens.toList ∧
        Option.Rel ScanError.Returned ran.failure ran'.failure ∧
        ((∀ token ∈ ran.tokens.toList, '\n' ∉ token.lexeme.toList) →
          ran'.tokens.toList = ran.tokens.toList)) := by
  intro ran ran'
  by_cases long : ∃ e : ScanError, e.isTooLong = true ∧ (ran.failure = some e ∨ ran'.failure = some e)
  · exact .inl long
  · right
    have contents : ({ feed := .ofText text } : CharSource).contents = ⟨text.toList, none⟩ :=
      Feed.contents_ofText text
    have contents' : ({ feed := .ofText (withReturns text) } : CharSource).contents =
        ⟨Writing.returns.text text.toList, none⟩ := by
      rw [← toList_withReturns]
      exact Feed.contents_ofText (withReturns text)
    have brings := drain_brings limits preferences { feed := .ofText text }
    have brings' := drain_brings limits preferences { feed := .ofText (withReturns text) }
    rw [accepts, contents] at brings
    rw [accepts, contents'] at brings'
    have like : Spot.Like .returns { left := ⟨text.toList, none⟩ }
        { left := ⟨Writing.returns.text text.toList, none⟩ } := ⟨rfl, .nil, rfl, rfl⟩
    have spares : Spot.Spares .returns ran.failure ran'.failure := by
      right
      intro e failed
      by_contra tooLong
      exact long ⟨e, by simpa using tooLong, failed⟩
    obtain ⟨tokens, failures⟩ := brings.like Spot.stride_returns brings' like nofun spares
    have returned : List.Forall₂ Token.Returned ran.tokens.toList ran'.tokens.toList :=
      tokens.imp fun _ _ like => like.returned
    exact ⟨returned, optionRel_imp (fun _ _ like => like.returned) failures,
      Token.eq_of_returned returned⟩

/-- A quoted text over two lines, behind a rule. -/
theorem line_ends_alike_of_quote :
    (withReturns "a\n'b\nc'" = "a\r\n'b\r\nc'") ∧
    ((start {} { feed := .ofText "a\n'b\nc'" }).drain .development).failure = none ∧
    ((start {} { feed := .ofText (withReturns "a\n'b\nc'") }).drain .development).failure = none ∧
    List.Forall₂ Token.Returned
      ((start {} { feed := .ofText "a\n'b\nc'" }).drain .development).tokens.toList
      ((start {} { feed := .ofText (withReturns "a\n'b\nc'") }).drain .development).tokens.toList := by
  have ended : ((start {} { feed := .ofText "a\n'b\nc'" }).drain .development).failure = none := by
    decide +kernel
  have ended' : ((start {} { feed := .ofText (withReturns "a\n'b\nc'") }).drain
      .development).failure = none := by decide +kernel
  refine ⟨by decide +kernel, ended, ended', ?_⟩
  rcases line_ends_alike .development {} "a\n'b\nc'" rfl with ⟨e, -, failed | failed⟩ | ⟨tokens, -⟩
  · cases ended.symm.trans failed
  · cases ended'.symm.trans failed
  · exact tokens

end Session

end GrammarLex
