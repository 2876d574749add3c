import GrammarLex.Settings.Preferences
import GrammarLex.Token.Basic

/-!
# Metrics of a session

Running totals over the tokens a session recognises. Every token is counted by its class; lengths,
depths and kinds are followed only if the preferences ask for them.
-/
namespace GrammarLex

structure Metrics where
  total : Nat := 0
  symbol : Nat := 0
  operator : Nat := 0
  -- Action names and arguments among them.
  action : Nat := 0
  -- Parentheses and brackets among them.
  group : Nat := 0
  -- Ends of rules and of the input among them.
  marker : Nat := 0
  -- Tokens handed out once more instead of being recognised.
  replayed : Nat := 0
  -- Characters of the longest lexeme.
  maxLexeme : Nat := 0
  -- Greatest depth of open constructs.
  maxDepth : Nat := 0
  -- The kinds that occurred, each with its number of occurrences.
  usage : List (TokenKind × Nat) := []
  deriving DecidableEq, Repr

namespace Metrics

def countKind (kind : TokenKind) : List (TokenKind × Nat) → List (TokenKind × Nat)
  | [] => [(kind, 1)]
  | (known, count) :: rest =>
    if known = kind then (known, count + 1) :: rest else (known, count) :: countKind kind rest

def countClass (m : Metrics) : TokenClass → Metrics
  | .symbol => { m with symbol := m.symbol + 1 }
  | .operator => { m with operator := m.operator + 1 }
  | .action => { m with action := m.action + 1 }
  | .group => { m with group := m.group + 1 }
  | .marker => { m with marker := m.marker + 1 }

def recordToken (preferences : LexicalPreferences) (token : Token) (m : Metrics) : Metrics :=
  let m := { m with total := m.total + 1 }.countClass token.kind.tokenClass
  { m with
    maxLexeme :=
      if preferences.collectDetailedMetrics then max m.maxLexeme token.lexeme.length
      else m.maxLexeme
    usage := if preferences.trackKindPatterns then countKind token.kind m.usage else m.usage }

def recordPeak (preferences : LexicalPreferences) (peak : Nat) (m : Metrics) : Metrics :=
  if preferences.collectDetailedMetrics then { m with maxDepth := peak } else m

def recordReplay (m : Metrics) : Metrics := { m with replayed := m.replayed + 1 }

end Metrics

end GrammarLex
