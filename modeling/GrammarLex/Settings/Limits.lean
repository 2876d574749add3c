/-!
# Limits

Two sets of bounds keep hostile input from exhausting memory: one for scanning, one for logging.
Both come from a build profile; the development profile is the one in force by default.
-/
namespace GrammarLex

structure ScanLimits where
  maxLexeme : Nat
  maxTokens : Nat
  maxDepth : Nat
  metricsBuffer : Nat
  deriving DecidableEq, Repr

structure LogLimits where
  bufferSize : Nat
  maxMessage : Nat
  -- The least verbose level that may be in force, as a number.
  securityLevel : Nat
  deriving DecidableEq, Repr

structure Limits where
  scan : ScanLimits
  log : LogLimits
  deriving DecidableEq, Repr

namespace ScanLimits

def development : ScanLimits := ⟨65536, 1000000, 256, 1000⟩

/-- The bounds are tight enough for grammars from untrusted hands. -/
def isConservative (limits : ScanLimits) : Bool :=
  limits.maxLexeme ≤ 1048576 && limits.maxTokens ≤ 5000000 && limits.maxDepth ≤ 1024

/-- What makes the bounds unusable, in words. -/
def complaint? (limits : ScanLimits) : Option String :=
  if limits.maxLexeme = 0 then some "MAX_LEXEME_LENGTH cannot be zero"
  else if limits.maxTokens = 0 then some "MAX_TOKEN_COUNT cannot be zero"
  else if limits.maxDepth = 0 then some "MAX_ENCLOSURE_DEPTH cannot be zero"
  else if limits.maxTokens > 10000000 then some "MAX_TOKEN_COUNT exceeds reasonable limit"
  else none

end ScanLimits

namespace LogLimits

def development : LogLimits := ⟨10000, 4096, 1⟩

/-- What makes the bounds unusable, in words. -/
def complaint? (limits : LogLimits) : Option String :=
  if limits.bufferSize > 100000 then
    some ("Log buffer size too large: " ++ toString limits.bufferSize)
  else if limits.bufferSize < 100 then
    some ("Log buffer size too small: " ++ toString limits.bufferSize)
  else if limits.maxMessage < 80 then
    some ("Max log message length too small: " ++ toString limits.maxMessage)
  else none

end LogLimits

def Limits.development : Limits := ⟨.development, .development⟩

end GrammarLex
