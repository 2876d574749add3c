import GrammarLex.Journal.Level
import GrammarLex.Journal.Registry
import GrammarLex.Text.Span

/-!
# Notices

A notice is what some part of the library wants to have logged. It does not know the time, and
whether anybody reads it is not its concern.
-/
namespace GrammarLex

structure Notice where
  level : LogLevel
  code : String
  message : String
  span : Option Span := none
  -- Named details, in the order they were given. A later one replaces an earlier one.
  details : List (String × String) := []
  deriving DecidableEq, Repr

namespace Notice

def error (code message : String) : Notice := { level := .error, code, message }

/-- Something looks wrong, for a reason that has a code. -/
def coded (code message : String) : Notice := { level := .warning, code, message }

def warning (message : String) : Notice := coded Code.plainWarning message

def success (code message : String) : Notice := { level := .info, code, message }

def info (message : String) : Notice := success Code.plainInfo message

def debug (message : String) : Notice := { level := .debug, code := Code.plainDebug, message }

def about (span : Span) (n : Notice) : Notice := { n with span := some span }

def detail (key value : String) (n : Notice) : Notice :=
  { n with details := n.details ++ [(key, value)] }

end Notice

end GrammarLex
