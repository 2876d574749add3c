/-!
# Arithmetic faults

Positions are kept in machine words: byte offsets in 64 bits, lines and columns in 32. The library
computes with natural numbers, and the operations that must respect the word sizes answer a
`Fault` instead of a number that does not fit.
-/
namespace GrammarLex

/-- Why a word-sized computation has no answer. -/
inductive Fault where
  | additionOverflow
  | subtractionOverflow
  -- A span was asked to start behind its end.
  | spanReversed
  deriving DecidableEq, Repr

def Fault.message : Fault → String
  | .additionOverflow => "attempt to add with overflow"
  | .subtractionOverflow => "attempt to subtract with overflow"
  | .spanReversed => "Span start must not be after end"

def maxWord64 : Nat := 18446744073709551615

def maxWord32 : Nat := 4294967295

end GrammarLex
