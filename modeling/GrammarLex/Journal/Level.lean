/-!
# Levels of events

Levels run from the most severe to the most talkative. An outlet set to a level passes every event
that is at most as talkative.
-/
namespace GrammarLex

inductive LogLevel where
  | error
  | warning
  | info
  -- Something only a developer wants to know.
  | debug
  deriving DecidableEq, Repr, Inhabited

namespace LogLevel

/-- Place in the order, from the most severe. -/
def rank : LogLevel → Nat
  | .error => 0
  | .warning => 1
  | .info => 2
  | .debug => 3

/-- The level of a number; every number from three on is the most talkative one. -/
def ofRank : Nat → LogLevel
  | 0 => .error
  | 1 => .warning
  | 2 => .info
  | _ => .debug

instance : LE LogLevel := ⟨fun a b => a.rank ≤ b.rank⟩

instance : LT LogLevel := ⟨fun a b => a.rank < b.rank⟩

instance (a b : LogLevel) : Decidable (a ≤ b) := inferInstanceAs (Decidable (a.rank ≤ b.rank))

instance (a b : LogLevel) : Decidable (a < b) := inferInstanceAs (Decidable (a.rank < b.rank))

def max (a b : LogLevel) : LogLevel := if a < b then b else a

def all : List LogLevel := [.error, .warning, .info, .debug]

def tag : LogLevel → String
  | .error => "ERROR"
  | .warning => "WARN"
  | .info => "INFO"
  | .debug => "DEBUG"

def name : LogLevel → String
  | .error => "error"
  | .warning => "warning"
  | .info => "info"
  | .debug => "debug"

/-- The levels by the names that documents have for them. -/
def variants : List (String × LogLevel) := all.map fun level => (level.name, level)

/-- The level meant by a word or digit, in any letter case. No letter outside ASCII has one of
these words' letters as its lower case, so folding ASCII letters is enough. -/
def ofWord? (word : String) : Option LogLevel :=
  match String.ofList (word.toList.map Char.toLower) with
  | "error" | "0" => some .error
  | "warning" | "warn" | "1" => some .warning
  | "info" | "2" => some .info
  | "debug" | "3" => some .debug
  | _ => none

end LogLevel

end GrammarLex
