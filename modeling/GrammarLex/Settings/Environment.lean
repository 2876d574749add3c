/-!
# The environment

Named texts set from outside. A variable that is not set and one that cannot be read as what it
should be have the same effect: none.
-/
namespace GrammarLex

/-- Variables and their values. The first entry of a name counts. -/
structure Environment where
  bindings : List (String × String) := []
  deriving Repr

namespace Environment

def get? (env : Environment) (name : String) : Option String := env.bindings.lookup name

/-- A truth value is written exactly `true` or `false`. -/
def parseFlag? : String → Option Bool
  | "true" => some true
  | "false" => some false
  | _ => none

def flag (env : Environment) (name : String) (fallback : Bool) : Bool :=
  ((env.get? name).bind parseFlag?).getD fallback

end Environment

end GrammarLex
