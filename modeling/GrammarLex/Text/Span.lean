import GrammarLex.Text.Position

/-!
# Spans of text

A span reaches from one position up to, not including, another. Two spans merge into the smallest
one that covers both, judged by byte offsets.
-/
namespace GrammarLex

/-- A stretch of text between two positions. -/
structure Span where
  start : Position
  -- Where the stretch ends; the character here is outside.
  stop : Position
  deriving DecidableEq, Repr, Inhabited

namespace Span

/-- The span between two positions, refused when the second lies before the first. -/
def between? (start stop : Position) : Except Fault Span :=
  if start.offset ≤ stop.offset then .ok ⟨start, stop⟩ else .error .spanReversed

/-- The span of one single-byte character that stays on its line. -/
def single (p : Position) : Span :=
  ⟨p, ⟨p.offset + 1, p.line, p.column + 1⟩⟩

def single? (p : Position) : Except Fault Span :=
  if (single p).stop.Fits then .ok (single p) else .error .additionOverflow

def zero : Span := ⟨.zero, .zero⟩

/-- The least offset starts the merged span and the greatest ends it; on a tie the second span's
position is taken. -/
def merge (a b : Span) : Span where
  start := if a.start.offset < b.start.offset then a.start else b.start
  stop := if a.stop.offset > b.stop.offset then a.stop else b.stop

def size? (s : Span) : Except Fault Nat :=
  if s.start.offset ≤ s.stop.offset then .ok (s.stop.offset - s.start.offset)
  else .error .subtractionOverflow

def isEmpty (s : Span) : Bool :=
  s.start.offset == s.stop.offset

def render (s : Span) : String :=
  if s.start.line = s.stop.line then s.start.render ++ "-" ++ toString s.stop.column
  else s.start.render ++ "-" ++ s.stop.render

end Span

end GrammarLex
