import GrammarLex.Token.Basic

/-!
# Token distributions

How many tokens of each sort a list holds. Terminals and nonterminals are counted apart, and of the
markers only the ends of rules.
-/
namespace GrammarLex

structure TokenCounts where
  total : Nat := 0
  terminals : Nat := 0
  nonTerminals : Nat := 0
  operators : Nat := 0
  actions : Nat := 0
  groups : Nat := 0
  rules : Nat := 0
  deriving DecidableEq, Repr

namespace TokenCounts

def add (counts : TokenCounts) (kind : TokenKind) : TokenCounts :=
  let counts := { counts with total := counts.total + 1 }
  match kind.tokenClass with
  | .symbol =>
    if kind = .nonTerminalSymbol then { counts with nonTerminals := counts.nonTerminals + 1 }
    else { counts with terminals := counts.terminals + 1 }
  | .operator => { counts with operators := counts.operators + 1 }
  | .action => { counts with actions := counts.actions + 1 }
  | .group => { counts with groups := counts.groups + 1 }
  | .marker =>
    if kind = .endOfRule then { counts with rules := counts.rules + 1 } else counts

def ofTokens (tokens : List Token) : TokenCounts :=
  tokens.foldl (fun counts token => counts.add token.kind) {}

def hasContent (counts : TokenCounts) : Bool :=
  counts.terminals > 0 || counts.nonTerminals > 0

def isWithin (counts : TokenCounts) (maxTokens : Nat) : Bool := counts.total ≤ maxTokens

end TokenCounts

end GrammarLex
