import GrammarLex.Session.Metrics
import GrammarLex.Token.Counts
import Mathlib.Data.List.Induction
import Mathlib.Data.List.Nodup

/-!
# What metrics count

The metrics of a token list are what recording its tokens one behind the other comes to. They agree
with what a single pass over the list counts: the classes with its distribution, the longest lexeme
with the lengths of its lexemes, the use of kinds with the number of occurrences of each.
-/
namespace GrammarLex

variable {preferences : LexicalPreferences} {tokens : List Token} {counts : TokenCounts} {m : Metrics}

namespace TokenCounts

theorem ofTokens_concat (tokens : List Token) (token : Token) :
    ofTokens (tokens ++ [token]) = (ofTokens tokens).add token.kind := by
  rw [ofTokens, List.foldl_append]
  rfl

theorem total_add (counts : TokenCounts) (kind : TokenKind) :
    (counts.add kind).total = counts.total + 1 := by
  cases kind <;> rfl

theorem total_ofTokens (tokens : List Token) : (ofTokens tokens).total = tokens.length := by
  induction tokens using List.reverseRecOn with
  | nil => rfl
  | append_singleton tokens token ih =>
    rw [ofTokens_concat, total_add, ih, List.length_append, List.length_singleton]

end TokenCounts

/-- The characters of the longest lexeme. -/
def longestLexeme (tokens : List Token) : Nat :=
  (tokens.map fun token => token.lexeme.length).max?.getD 0

theorem longestLexeme_concat (tokens : List Token) (token : Token) :
    longestLexeme (tokens ++ [token]) = max (longestLexeme tokens) token.lexeme.length := by
  have fold (lengths : List Nat) : lengths.max?.getD 0 = lengths.foldl max 0 := by
    rw [List.foldl_max, Nat.zero_max]
  simp only [longestLexeme, fold, List.map_append, List.foldl_append, List.map_cons, List.map_nil,
    List.foldl_cons, List.foldl_nil]

/-- The number of tokens of a kind. -/
def occurrences (tokens : List Token) (kind : TokenKind) : Nat := (tokens.map Token.kind).count kind

theorem occurrences_concat (tokens : List Token) (token : Token) (kind : TokenKind) :
    occurrences (tokens ++ [token]) kind =
      occurrences tokens kind + if token.kind = kind then 1 else 0 := by
  simp [occurrences, List.count_append, List.count_singleton]

namespace Metrics

/-- The metrics of a token list, of which nothing but the tokens is known. -/
def ofTokens (preferences : LexicalPreferences) (tokens : List Token) : Metrics :=
  tokens.foldl (fun m token => m.recordToken preferences token) {}

theorem ofTokens_concat (preferences : LexicalPreferences) (tokens : List Token) (token : Token) :
    ofTokens preferences (tokens ++ [token]) =
      (ofTokens preferences tokens).recordToken preferences token := by
  rw [ofTokens, List.foldl_append]
  rfl

/-! ### Classes -/

/-- The counters of the classes against a distribution, which leaves the ends of the input out. -/
structure Tallies (m : Metrics) (counts : TokenCounts) (ends : Nat) : Prop where
  total_eq : m.total = counts.total
  sum_eq : m.total = m.symbol + m.operator + m.action + m.group + m.marker
  symbol_eq : m.symbol = counts.terminals + counts.nonTerminals
  operator_eq : m.operator = counts.operators
  action_eq : m.action = counts.actions
  group_eq : m.group = counts.groups
  marker_eq : m.marker = counts.rules + ends

/-- The two ways of counting go on in step. -/
theorem Tallies.record {ends : Nat} (tallies : m.Tallies counts ends)
    (preferences : LexicalPreferences) (token : Token) :
    (m.recordToken preferences token).Tallies (counts.add token.kind)
      (ends + token.isEndOfStream.toNat) := by
  obtain ⟨total_eq, sum_eq, symbol_eq, operator_eq, action_eq, group_eq, marker_eq⟩ := tallies
  simp only [recordToken, Token.isEndOfStream]
  -- On the kind; it raises one counter and the total on either side.
  cases token.kind <;>
    constructor <;> simp [countClass, TokenKind.tokenClass, TokenCounts.add] <;> omega

theorem tallies_ofTokens (preferences : LexicalPreferences) (tokens : List Token) :
    (ofTokens preferences tokens).Tallies (.ofTokens tokens) (tokens.countP Token.isEndOfStream) := by
  induction tokens using List.reverseRecOn with
  | nil => exact ⟨rfl, rfl, rfl, rfl, rfl, rfl, rfl⟩
  | append_singleton tokens token ih =>
    have recorded := ih.record preferences token
    rw [ofTokens_concat, TokenCounts.ofTokens_concat, List.countP_append, List.countP_singleton]
    cases marked : token.isEndOfStream <;> rwa [marked] at recorded

/-! ### Lexemes -/

theorem maxLexeme_recordToken (preferences : LexicalPreferences) (token : Token) (m : Metrics) :
    (m.recordToken preferences token).maxLexeme =
      if preferences.collectDetailedMetrics then max m.maxLexeme token.lexeme.length
      else m.maxLexeme := by
  unfold recordToken
  cases token.kind.tokenClass <;> rfl

theorem maxLexeme_ofTokens (preferences : LexicalPreferences) (tokens : List Token) :
    (ofTokens preferences tokens).maxLexeme =
      if preferences.collectDetailedMetrics then longestLexeme tokens else 0 := by
  induction tokens using List.reverseRecOn with
  | nil => exact (ite_self 0).symm
  | append_singleton tokens token ih =>
    rw [ofTokens_concat, maxLexeme_recordToken, ih, longestLexeme_concat]
    cases preferences.collectDetailedMetrics <;> rfl

/-! ### Kinds -/

private theorem lookup_cons_eq (other known : TokenKind) (count : Nat)
    (usage : List (TokenKind × Nat)) : ((known, count) :: usage).lookup other =
      if other = known then some count else usage.lookup other := by
  rw [List.lookup_cons]
  by_cases same : other = known
  · rw [beq_iff_eq.mpr same, if_pos same]
  · rw [beq_eq_false_iff_ne.mpr same, if_neg same]

theorem lookup_countKind (kind other : TokenKind) (usage : List (TokenKind × Nat)) :
    (countKind kind usage).lookup other =
      if other = kind then some ((usage.lookup kind).getD 0 + 1) else usage.lookup other := by
  induction usage with
  | nil =>
    rw [countKind, lookup_cons_eq]
    rfl
  | cons entry rest ih =>
    obtain ⟨known, count⟩ := entry
    unfold countKind
    by_cases met : known = kind
    · subst met
      rw [if_pos rfl, lookup_cons_eq, lookup_cons_eq, lookup_cons_eq, if_pos rfl]
      split <;> rfl
    · rw [if_neg met, lookup_cons_eq, lookup_cons_eq, lookup_cons_eq, if_neg (Ne.symm met), ih]
      by_cases same : other = known
      · rw [if_pos same, if_pos same, if_neg (same ▸ met)]
      · rw [if_neg same, if_neg same]

theorem keys_countKind (kind : TokenKind) (usage : List (TokenKind × Nat)) :
    (countKind kind usage).map Prod.fst = if kind ∈ usage.map Prod.fst then usage.map Prod.fst
      else usage.map Prod.fst ++ [kind] := by
  induction usage with
  | nil => rfl
  | cons entry rest ih =>
    obtain ⟨known, count⟩ := entry
    unfold countKind
    by_cases met : known = kind
    · simp [met]
    · rw [if_neg met, List.map_cons, ih, List.map_cons]
      by_cases later : kind ∈ rest.map Prod.fst <;> simp [later, Ne.symm met]

theorem usage_recordToken (preferences : LexicalPreferences) (token : Token) (m : Metrics) :
    (m.recordToken preferences token).usage =
      if preferences.trackKindPatterns then countKind token.kind m.usage else m.usage := by
  unfold recordToken
  cases token.kind.tokenClass <;> rfl

/-- What maps the kinds that occur in the list, and no others, to their numbers of occurrences. -/
structure Uses (usage : List (TokenKind × Nat)) (tokens : List Token) : Prop where
  keys_nodup : (usage.map Prod.fst).Nodup
  lookup_eq : ∀ kind, usage.lookup kind =
    if occurrences tokens kind = 0 then none else some (occurrences tokens kind)

theorem uses_ofTokens (tracks : preferences.trackKindPatterns = true) (tokens : List Token) :
    Uses (ofTokens preferences tokens).usage tokens := by
  induction tokens using List.reverseRecOn with
  | nil => exact ⟨.nil, fun _ => rfl⟩
  | append_singleton tokens token ih =>
    obtain ⟨keys_nodup, lookup_eq⟩ := ih
    rw [ofTokens_concat, usage_recordToken, if_pos tracks]
    refine ⟨?_, ?_⟩
    · rw [keys_countKind]
      split
      next => exact keys_nodup
      next new => exact List.nodup_append_comm.mp (List.nodup_cons.mpr ⟨new, keys_nodup⟩)
    · intro kind
      have counted : ((ofTokens preferences tokens).usage.lookup token.kind).getD 0 =
          occurrences tokens token.kind := by
        rw [lookup_eq]
        split
        next none => exact none.symm
        next => rfl
      rw [lookup_countKind, counted, lookup_eq, occurrences_concat]
      by_cases same : kind = token.kind
      · subst same
        rw [if_pos rfl, if_pos rfl, if_neg (Nat.succ_ne_zero _)]
      · rw [if_neg same, if_neg (Ne.symm same), Nat.add_zero]

theorem usage_of_untracked (untracked : preferences.trackKindPatterns = false) (tokens : List Token) :
    (ofTokens preferences tokens).usage = [] := by
  induction tokens using List.reverseRecOn with
  | nil => rfl
  | append_singleton tokens token ih =>
    rw [ofTokens_concat, usage_recordToken, untracked]
    exact ih

end Metrics

end GrammarLex
