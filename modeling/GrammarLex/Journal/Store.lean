import GrammarLex.Journal.Entry

/-!
# Bounded logs

A store keeps the latest entries, up to its capacity. A full one lets its oldest entries go before it
takes one in, as many as leave room for one. Where the capacity is zero there are never as many, and
taking an entry in has no answer.
-/
namespace GrammarLex

structure Store where
  capacity : Nat
  -- The entries, the oldest first.
  held : Array Entry := #[]
  deriving Repr

namespace Store

def empty (capacity : Nat) : Store := { capacity }

def size (s : Store) : Nat := s.held.size

def entries (s : Store) : List Entry := s.held.toList

/-- Let so many of the oldest entries go; `none` if there are fewer. -/
def drain? (count : Nat) (held : Array Entry) : Option (Array Entry) :=
  if count ≤ held.size then some (held.extract count held.size) else none

/-- Take an entry in, after making room for it if the store is full. -/
def push? (s : Store) (e : Entry) : Option Store :=
  match s with
  | ⟨capacity, held⟩ =>
    if held.size < capacity then some ⟨capacity, held.push e⟩
    else do
      let kept ← drain? (held.size - capacity + 1) held
      return ⟨capacity, kept.push e⟩

def clear (s : Store) : Store := empty s.capacity

def warnings (s : Store) : List Entry := s.entries.filter fun e => e.level = .warning

def hasError (s : Store) (code : String) : Bool :=
  s.entries.any fun e => e.level = .error && e.code == code

def hasSuccess (s : Store) (code : String) : Bool :=
  s.entries.any fun e => e.level = .info && e.code == code

end Store

end GrammarLex
