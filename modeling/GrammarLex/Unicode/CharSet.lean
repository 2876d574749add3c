/-!
# Sets of characters as boundary tables

A property of the Unicode Character Database holds on long runs of code points. A set is therefore
kept as the ascending table of the code points where membership changes: a code point is inside
when an odd number of table entries are at most that code point. The count is found by bisection.
-/
namespace GrammarLex.Unicode

/-- A set of code points, given by the places where membership changes. -/
structure CharSet where
  -- Ascending; the first entry is the least member.
  bounds : Array Nat
  -- Bisection steps that narrow any window of the table down to nothing.
  steps : Nat

namespace CharSet

def ofBounds (bounds : Array Nat) : CharSet := ⟨bounds, bounds.size.log2 + 1⟩

/-- Narrow the window `[low, high)` until it is empty; entries before `low` are at most `n`, entries
from `high` on are above it. -/
def bisect (bounds : Array Nat) (n : Nat) : Nat → Nat → Nat → Nat
  | 0, low, _ => low
  | steps + 1, low, high =>
    if low < high then
      let middle := (low + high) / 2
      if bounds.getD middle 0 ≤ n then bisect bounds n steps (middle + 1) high
      else bisect bounds n steps low middle
    else low

def contains (s : CharSet) (n : Nat) : Bool :=
  bisect s.bounds n s.steps 0 s.bounds.size % 2 == 1

end CharSet

end GrammarLex.Unicode
