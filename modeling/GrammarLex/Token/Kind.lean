/-!
# Kinds of tokens

The sixteen categories of token and the five classes that counts and metrics group them by.
-/
namespace GrammarLex

/-- What a token stands for. The order of the constructors is the order of kinds. -/
inductive TokenKind where
  -- Quoted text, a bare word or a punctuation character.
  | terminalSymbol
  -- A name between `<` and `>`.
  | nonTerminalSymbol
  -- `::=`
  | productionRuleOp
  -- `|`
  | or
  -- `&`
  | and
  -- A single `!`.
  | not
  -- The name in front of an action's arguments.
  | action
  | actionArg
  -- `(`
  | parenLeft
  -- `)`
  | parenRight
  -- `[`
  | bracketLeft
  -- `]`
  | bracketRight
  -- `=`
  | assign
  | sequence
  -- `!!`
  | endOfRule
  -- The end of the input, behind the last real token.
  | endOfStream
  deriving DecidableEq, Repr, Inhabited

inductive TokenClass where
  -- Terminal and nonterminal symbols.
  | symbol
  -- Rule, alternation, predicate, assignment and sequence operators.
  | operator
  -- Action names and their arguments.
  | action
  | group
  -- The ends of rules and of the input.
  | marker
  deriving DecidableEq, Repr

def TokenClass.name : TokenClass → String
  | .symbol => "Symbol"
  | .operator => "Operator"
  | .action => "Action"
  | .group => "Group"
  | .marker => "Marker"

namespace TokenKind

def all : List TokenKind :=
  [.terminalSymbol, .nonTerminalSymbol, .productionRuleOp, .or, .and, .not, .action, .actionArg,
    .parenLeft, .parenRight, .bracketLeft, .bracketRight, .assign, .sequence, .endOfRule,
    .endOfStream]

def name : TokenKind → String
  | .terminalSymbol => "TerminalSymbol"
  | .nonTerminalSymbol => "NonTerminalSymbol"
  | .productionRuleOp => "ProductionRuleOp"
  | .or => "Or"
  | .and => "And"
  | .not => "Not"
  | .action => "Action"
  | .actionArg => "ActionArg"
  | .parenLeft => "ParenLeft"
  | .parenRight => "ParenRight"
  | .bracketLeft => "BracketLeft"
  | .bracketRight => "BracketRight"
  | .assign => "Assign"
  | .sequence => "Sequence"
  | .endOfRule => "EndOfRule"
  | .endOfStream => "EndOfStream"

def ofName? (text : String) : Option TokenKind :=
  all.find? fun kind => kind.name == text

def tokenClass : TokenKind → TokenClass
  | .terminalSymbol | .nonTerminalSymbol => .symbol
  | .productionRuleOp | .or | .and | .not | .assign | .sequence => .operator
  | .action | .actionArg => .action
  | .parenLeft | .parenRight | .bracketLeft | .bracketRight => .group
  | .endOfRule | .endOfStream => .marker

def isSymbol (kind : TokenKind) : Bool := kind.tokenClass = .symbol

def isOperator (kind : TokenKind) : Bool := kind.tokenClass = .operator

def compare (a b : TokenKind) : Ordering :=
  Ord.compare (all.idxOf a) (all.idxOf b)

end TokenKind

end GrammarLex
