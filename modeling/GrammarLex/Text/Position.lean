import GrammarLex.Text.Fault

/-!
# Positions in a text

A position counts bytes from the start of the text and names a line and a column, both from one. It
moves once per character and never backwards: a newline leads to column one of the next line, every
other character (a tab included) takes one column.
-/
namespace GrammarLex

/-- A place between two characters of a text. -/
structure Position where
  offset : Nat
  -- Line number, from one.
  line : Nat
  -- Column number, from one.
  column : Nat
  deriving DecidableEq, Repr, Inhabited

namespace Position

def start : Position := ⟨0, 1, 1⟩

/-- The position whose three numbers are zero; no text reaches it. -/
def zero : Position := ⟨0, 0, 0⟩

def advance (p : Position) (c : Char) : Position :=
  if c = '\n' then ⟨p.offset + 1, p.line + 1, 1⟩
  else ⟨p.offset + c.utf8Size, p.line, p.column + 1⟩

def advanceBy (p : Position) (text : List Char) : Position :=
  text.foldl advance p

def Fits (p : Position) : Prop :=
  p.offset ≤ maxWord64 ∧ p.line ≤ maxWord32 ∧ p.column ≤ maxWord32

instance (p : Position) : Decidable p.Fits :=
  inferInstanceAs (Decidable (_ ∧ _ ∧ _))

def advance? (p : Position) (c : Char) : Except Fault Position :=
  let next := p.advance c
  if next.Fits then .ok next else .error .additionOverflow

/-- The positions behind each character of a run, within the word sizes. -/
def trace? (p : Position) : List Char → Except Fault (List Position)
  | [] => .ok []
  | c :: rest => do
    let next ← p.advance? c
    return next :: (← trace? next rest)

def advanceBy? (p : Position) (text : List Char) : Except Fault Position :=
  text.foldlM advance? p

def render (p : Position) : String :=
  toString p.line ++ ":" ++ toString p.column

/-- Positions are ordered by offset, then line, then column. -/
def compare (p q : Position) : Ordering :=
  (Ord.compare p.offset q.offset).then
    ((Ord.compare p.line q.line).then (Ord.compare p.column q.column))

@[simp] theorem advanceBy_nil (p : Position) : p.advanceBy [] = p := rfl

@[simp] theorem advanceBy_cons (p : Position) (c : Char) (text : List Char) :
    p.advanceBy (c :: text) = (p.advance c).advanceBy text := rfl

theorem offset_advance (p : Position) (c : Char) : (p.advance c).offset = p.offset + c.utf8Size := by
  unfold advance
  split
  next newline => rw [newline]; rfl
  next => rfl

theorem advanceBy_append (p : Position) (first second : List Char) :
    p.advanceBy (first ++ second) = (p.advanceBy first).advanceBy second :=
  List.foldl_append

end Position

end GrammarLex
