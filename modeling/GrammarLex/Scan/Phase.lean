/-!
# Phases of the scanner

A phase names the handler that runs next. Between two constructs the phase is `dispatch`, and the
next character alone selects the handler.
-/
namespace GrammarLex

inductive Phase where
  -- Select a handler from the next character.
  | dispatch
  | whitespace
  -- `!` or `!!`
  | endOfRule
  -- `::=`
  | productionRuleOp
  -- `|`
  | or
  -- `=`
  | assign
  -- `&`
  | and
  | sequence
  -- `<` or a quote.
  | openEnclosure
  | scanEnclosed
  -- The closer of a quoted or angle-bracketed text.
  | closeEnclosure
  -- `(` or `[`
  | openGroup
  -- `)` or `]`
  | closeGroup
  -- `{`
  | actionOpen
  | actionName
  -- One argument of an action, or the end of the arguments.
  | actionArgs
  -- The `}` of an action.
  | actionClose
  -- A word, or one punctuation character.
  | bareTerminal
  | finished
  deriving DecidableEq, Repr

/-- White space that separates tokens. A carriage return counts only if it is accepted. -/
def isSeparator (acceptReturn : Bool) (c : Char) : Bool :=
  c == ' ' || c == '\t' || c == '\n' || (acceptReturn && c == '\r')

namespace Phase

def name : Phase → String
  | .dispatch => "Dispatch"
  | .whitespace => "Whitespace"
  | .endOfRule => "EndOfRule"
  | .productionRuleOp => "ProductionRuleOp"
  | .or => "Or"
  | .assign => "Assign"
  | .and => "And"
  | .sequence => "Sequence"
  | .openEnclosure => "OpenEnclosure"
  | .scanEnclosed => "ScanEnclosed"
  | .closeEnclosure => "CloseEnclosure"
  | .openGroup => "OpenGroup"
  | .closeGroup => "CloseGroup"
  | .actionOpen => "ActionOpen"
  | .actionName => "ActionName"
  | .actionArgs => "ActionArgs"
  | .actionClose => "ActionClose"
  | .bareTerminal => "BareTerminal"
  | .finished => "Finished"

/-- The handler that the next character selects between constructs. -/
def ofLookahead (acceptReturn : Bool) (c : Char) : Phase :=
  match c with
  | '!' => .endOfRule
  | ':' => .productionRuleOp
  | '|' => .or
  | '=' => .assign
  | '&' => .and
  | '.' => .sequence
  | '"' | '\'' | '<' => .openEnclosure
  | '{' => .actionOpen
  | '(' | '[' => .openGroup
  | ')' | ']' => .closeGroup
  | c => if isSeparator acceptReturn c then .whitespace else .bareTerminal

end Phase

end GrammarLex
