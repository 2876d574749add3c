/-!
# Bytes as they are delivered

A reader does not hand over a byte sequence but a series of deliveries: bytes, interruptions that
mean nothing, failures, and empty reads that count as an end of input although later reads may
still bring bytes. A feed is the series still to come and the number of bytes taken so far.
Decoding takes one UTF-8 code point off a feed, byte by byte; a byte that does not continue the
code point is taken as well, and the code point is refused at the offset of its lead byte.
-/
namespace GrammarLex

inductive Delivery where
  | byte (value : UInt8)
  -- The read was interrupted and is to be repeated.
  | interrupted
  | failed (reason : String)
  | drained
  deriving DecidableEq, Repr

/-- Why no further character can be had. -/
inductive DecodeError where
  -- The bytes from `offset` on do not start with a code point.
  | invalidUtf8 (offset : Nat)
  -- A read failed after `offset` bytes.
  | readFailed (offset : Nat) (reason : String)
  deriving DecidableEq, Repr

namespace DecodeError

def message : DecodeError → String
  | .invalidUtf8 offset => "invalid UTF-8 sequence at byte " ++ toString offset
  | .readFailed offset reason => "read failed at byte " ++ toString offset ++ ": " ++ reason

def offset : DecodeError → Nat
  | .invalidUtf8 offset => offset
  | .readFailed offset _ => offset

end DecodeError

/-- Deliveries still to come, and how many bytes came before them. -/
structure Feed where
  -- The reads still to come; behind them is the end of the input.
  deliveries : List Delivery
  offset : Nat := 0
  deriving DecidableEq, Repr

namespace Feed

def ofBytes (bytes : List UInt8) : Feed := ⟨bytes.map .byte, 0⟩

def ofText (text : String) : Feed := ofBytes text.toUTF8.toList

/-- Take the next byte out of the deliveries; `none` when a read brings nothing. -/
def takeByte (offset : Nat) : List Delivery → EStateM.Result DecodeError Feed (Option UInt8)
  | [] => .ok none ⟨[], offset⟩
  | .byte value :: rest => .ok (some value) ⟨rest, offset + 1⟩
  | .interrupted :: rest => takeByte offset rest
  | .failed reason :: rest => .error (.readFailed offset reason) ⟨rest, offset⟩
  | .drained :: rest => .ok none ⟨rest, offset⟩

def nextByte : EStateM DecodeError Feed (Option UInt8) :=
  fun feed => takeByte feed.offset feed.deliveries

/-- What a lead byte announces: how many bytes follow, and the bits of the code point it holds. -/
def announced? (lead : UInt8) : Option (Nat × Nat) :=
  let n := lead.toNat
  if n < 0x80 then some (0, n)
  else if 0xC2 ≤ n ∧ n ≤ 0xDF then some (1, n - 0xC0)
  else if 0xE0 ≤ n ∧ n ≤ 0xEF then some (2, n - 0xE0)
  else if 0xF0 ≤ n ∧ n ≤ 0xF4 then some (3, n - 0xF0)
  else none

def continuation? (b : UInt8) : Option Nat :=
  let n := b.toNat
  if 0x80 ≤ n ∧ n ≤ 0xBF then some (n - 0x80) else none

/-- Take the announced continuation bytes and add their bits; `none` when one is missing or is no
continuation byte. -/
def takeTail : Nat → Nat → EStateM DecodeError Feed (Option Nat)
  | 0, bits => return some bits
  | count + 1, bits => do
    match (← nextByte).bind continuation? with
    | some low => takeTail count (bits * 64 + low)
    | none => return none

/-- The least code point that needs a given number of continuation bytes. -/
def leastOf : Nat → Nat
  | 0 => 0
  | 1 => 0x80
  | 2 => 0x800
  | _ => 0x10000

/-- The character of a code point, refused when a shorter form exists or no character has it. -/
def scalar? (count bits : Nat) : Option Char :=
  if leastOf count ≤ bits ∧ bits.isValidChar then some (Char.ofNat bits) else none

/-- Take one code point; `none` at an end of input. -/
def decode : EStateM DecodeError Feed (Option Char) := do
  let start := (← get).offset
  match ← nextByte with
  | none => return none
  | some lead =>
    match announced? lead with
    | none => throw (.invalidUtf8 start)
    | some (count, bits) =>
      match (← takeTail count bits).bind (scalar? count) with
      | some c => return some c
      | none => throw (.invalidUtf8 start)

end Feed

/-- The characters of a feed with one character of lookahead. An error stays: once met it is
reported by every later call. -/
structure CharSource where
  feed : Feed
  -- The character looked at but not consumed, or the end of input looked at.
  lookahead : Option (Option Char) := none
  failure : Option DecodeError := none
  deriving DecidableEq, Repr

namespace CharSource

/-- Bytes taken from the feed, those of the lookahead included. -/
def bytesRead (s : CharSource) : Nat := s.feed.offset

/-- Look at the next character; `none` is an end of input. -/
def peek : EStateM DecodeError CharSource (Option Char) := fun source =>
  match source with
  | ⟨feed, lookahead, some e⟩ => .error e ⟨feed, lookahead, some e⟩
  | ⟨feed, some next, none⟩ => .ok next ⟨feed, some next, none⟩
  | ⟨feed, none, none⟩ =>
    match Feed.decode feed with
    | .ok next feed => .ok next ⟨feed, some next, none⟩
    | .error e feed => .error e ⟨feed, none, some e⟩

/-- Consume the next character. An end of input is consumed as well: a later call reads on. -/
def next : EStateM DecodeError CharSource (Option Char) := fun source =>
  match source with
  | ⟨feed, lookahead, some e⟩ => .error e ⟨feed, lookahead, some e⟩
  | ⟨feed, some next, none⟩ => .ok next ⟨feed, none, none⟩
  | ⟨feed, none, none⟩ =>
    match Feed.decode feed with
    | .ok next feed => .ok next ⟨feed, none, none⟩
    | .error e feed => .error e ⟨feed, none, some e⟩

end CharSource

end GrammarLex
