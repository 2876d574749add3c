import GrammarLex.Journal.Level
import GrammarLex.Settings.Environment

/-!
# Preferences

What a user may choose at run time. Limits are not among it: they belong to the build profile. Each
preference has a built-in value that a variable of the environment replaces.
-/
namespace GrammarLex

structure LexicalPreferences where
  collectDetailedMetrics : Bool := true
  trackKindPatterns : Bool := false
  includePositionInErrors : Bool := true
  logTokenEvents : Bool := false
  -- A carriage return separates tokens like other white space.
  acceptCarriageReturn : Bool := true
  deriving DecidableEq, Repr

structure LoggingPreferences where
  useStructuredLogging : Bool := false
  enableConsoleLogging : Bool := false
  minLogLevel : LogLevel := .info
  deriving DecidableEq, Repr

structure RuntimeConfig where
  lexical : LexicalPreferences := {}
  logging : LoggingPreferences := {}
  deriving DecidableEq, Repr

/-- The built-in choices about scanning as far as the environment does not replace them. -/
def LexicalPreferences.ofEnvironment (env : Environment) : LexicalPreferences where
  collectDetailedMetrics := env.flag "GBNF_LEXICAL_DETAILED_METRICS" true
  trackKindPatterns := env.flag "GBNF_LEXICAL_TRACK_KINDS" false
  includePositionInErrors := env.flag "GBNF_LEXICAL_INCLUDE_POSITIONS" true
  logTokenEvents := env.flag "GBNF_LEXICAL_LOG_TOKENS" false
  acceptCarriageReturn := env.flag "GBNF_LEXICAL_ACCEPT_CR" true

/-- The built-in choices about logging as far as the environment does not replace them. -/
def LoggingPreferences.ofEnvironment (env : Environment) : LoggingPreferences where
  useStructuredLogging := env.flag "GBNF_LOGGING_USE_STRUCTURED" false
  enableConsoleLogging := env.flag "GBNF_LOGGING_ENABLE_CONSOLE" false
  minLogLevel := ((env.get? "GBNF_LOGGING_MIN_LEVEL").bind LogLevel.ofWord?).getD .info

/-- The built-in choices as far as the environment does not replace them. -/
def RuntimeConfig.ofEnvironment (env : Environment) : RuntimeConfig where
  lexical := .ofEnvironment env
  logging := .ofEnvironment env

end GrammarLex
