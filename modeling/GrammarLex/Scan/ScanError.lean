import GrammarLex.Text.Position
import GrammarLex.Unicode.Escaped
import GrammarLex.Settings.Limits

/-!
# Scanning errors

One constructor per cause, each with the position it is reported at. A soft error never leaves the
scanner: it only makes the scanner read the same character in another way.
-/
namespace GrammarLex

/-- What was there instead of what the grammar needs. -/
inductive Found where
  | char (c : Char)
  | endOfInput
  deriving DecidableEq, Repr

namespace Found

def ofNext : Option Char → Found
  | some c => .char c
  | none => .endOfInput

/-- A quoted character, or the words for the end. -/
def render : Found → String
  | .char c => "'" ++ Unicode.escaped c ++ "'"
  | .endOfInput => "end of input"

end Found

inductive ScanError where
  -- A character, or the end, where something else is required.
  | unexpected (found : Found) (expected : String) (position : Position)
  -- A closing delimiter of the other kind than the innermost open group.
  | mismatched (expected found : Char) (position : Position)
  -- A check whose failure has another reading.
  | conditionFailed (expected : String) (position : Position)
  | decode (reason : String) (position : Position)
  -- More characters in one lexeme than allowed.
  | lexemeTooLong (length : Nat) (position : Position)
  -- More constructs open than allowed.
  | nestedTooDeep (depth : Nat) (position : Position)
  | tooManyTokens (count : Nat) (position : Position)
  deriving DecidableEq, Repr

namespace ScanError

def position : ScanError → Position
  | .unexpected _ _ p | .mismatched _ _ p | .conditionFailed _ p | .decode _ p
  | .lexemeTooLong _ p | .nestedTooDeep _ p | .tooManyTokens _ p => p

def isSoft : ScanError → Bool
  | .conditionFailed .. => true
  | _ => false

def code : ScanError → String
  | .unexpected .. => "E020"
  | .mismatched .. => "E022"
  | .conditionFailed .. => "E023"
  | .decode .. => "E024"
  | .lexemeTooLong .. => "E025"
  | .tooManyTokens .. => "E026"
  | .nestedTooDeep .. => "E027"

def name : ScanError → String
  | .unexpected .. => "UnexpectedCharacter"
  | .mismatched .. => "MismatchedDelimiter"
  | .conditionFailed .. => "ConditionFailed"
  | .decode .. => "Decode"
  | .lexemeTooLong .. => "LexemeTooLong"
  | .nestedTooDeep .. => "EnclosureTooDeep"
  | .tooManyTokens .. => "TooManyTokens"

def message (limits : ScanLimits) : ScanError → String
  | .unexpected found expected p =>
    "Unexpected " ++ found.render ++ " at " ++ p.render ++ ", expected " ++ expected
  | .mismatched expected found p =>
    "Mismatched delimiter '" ++ found.toString ++ "' at " ++ p.render ++ ", expected '" ++
      expected.toString ++ "'"
  | .conditionFailed expected p =>
    "Condition failed at " ++ p.render ++ ": expected " ++ expected
  | .decode reason p => "Decode error at " ++ p.render ++ ": " ++ reason
  | .lexemeTooLong length p =>
    "Lexeme too long at " ++ p.render ++ ": " ++ toString length ++ " characters (max " ++
      toString limits.maxLexeme ++ ")"
  | .nestedTooDeep depth p =>
    "Enclosures nested too deep at " ++ p.render ++ ": " ++ toString depth ++ " (max " ++
      toString limits.maxDepth ++ ")"
  | .tooManyTokens count p =>
    "Too many tokens at " ++ p.render ++ ": " ++ toString count ++ " (max " ++
      toString limits.maxTokens ++ ")"

end ScanError

end GrammarLex
