import GrammarLex.Proofs.Scan.Stops
import GrammarLex.Proofs.Session.Requests
import GrammarLex.Proofs.Text.Deliveries

/-!
# Errors point at what they are about

A session that fails reports a position, which is the one behind some front of the text that its
bytes start with, and what the error states of this place is so: the character that was met stands
right behind it, the token that is too long starts there, the bytes that are no character follow.
-/
namespace GrammarLex

open Utf8

/-! ### Bytes and text -/

/-- The source holds the longest text whose form the bytes start with, and nothing else if that is
the whole of the bytes. -/
structure CharSource.Spells (source : CharSource) (bytes : List UInt8) (text : List Char) : Prop where
  longest : LongestText bytes text
  contents_eq : source.contents =
    ⟨text, if encode text = bytes then none else some (.invalidUtf8 (encode text).length)⟩

/-- The closing delimiter of a group that the token opens. -/
def TokenKind.groupCloser? : TokenKind → Option Char
  | .parenLeft => some ')'
  | .bracketLeft => some ']'
  | _ => none

/-- What an error tells about the place in a text that it points at. The machine has emitted the
tokens when it fails, or would have emitted one more. -/
def ScanError.Tells (limits : ScanLimits) (acceptReturn : Bool) (source : CharSource)
    (bytes : List UInt8) (tokens : List Token) (before rest : List Char) : ScanError → Prop
  | .unexpected found _ _ =>
    found = .ofNext rest.head? ∧ (found = .endOfInput ↔ encode before = bytes)
  | .mismatched expected found _ => rest.head? = some found ∧
      ∃ openers opener, Unmatched (delimiters tokens) (openers ++ [opener]) ∧
        opener.kind.groupCloser? = some expected
  | .conditionFailed .. => False
  | .decode reason p => rest = [] ∧ reason = (DecodeError.invalidUtf8 p.offset).message
  -- The machine has come to the place, up to what is passed before a name or an argument.
  | .lexemeTooLong length _ => length = limits.maxLexeme + 1 ∧
      ∃ m r passed, Machine.Emits limits acceptReturn source tokens m r ∧
        r.source.contents.chars = passed ++ rest ∧
        Overruns limits.maxLexeme acceptReturn m.phase passed rest
  | .nestedTooDeep depth _ => depth = limits.maxDepth + 1 ∧
      ∃ opener kind, rest.head? = some opener ∧ FrameKind.ofOpener? opener = some kind
  -- The next step emits the token that is refused, and leaves the rest of the text.
  | .tooManyTokens count _ => count = limits.maxTokens + 1 ∧ tokens.length = limits.maxTokens ∧
      ∃ m r token m' r', Machine.Emits limits acceptReturn source tokens m r ∧
        m.step limits r = ⟨.ok (some token), m', r'⟩ ∧ r'.source.contents.chars = rest

section Steps

variable {limits : ScanLimits} {acceptReturn : Bool} {source : CharSource} {bytes : List UInt8}
  {text used : List Char} {tokens : List Token} {m m' : Machine} {r r' : Intake} {s : Spot}
  {e : ScanError}

/-- A machine that has emitted the tokens is at a spot, behind what it has used of the text. -/
private structure Reads (limits : ScanLimits) (acceptReturn : Bool) (source : CharSource)
    (bytes : List UInt8) (text : List Char) (tokens : List Token) (used : List Char) (m : Machine)
    (r : Intake) (s : Spot) : Prop where
  emits : Machine.Emits limits acceptReturn source tokens m r
  here : m.At acceptReturn r s
  text_eq : text = used ++ s.left.chars
  position_eq : s.position = Position.start.advanceBy used
  fault_eq : s.left.fault = if encode text = bytes then none else some (.invalidUtf8 (encode text).length)
  longest : LongestText bytes text

namespace Reads

variable (reads : Reads limits acceptReturn source bytes text tokens used m r s)
include reads

/-- What closes the innermost group closes what the last unmatched token opens. -/
private theorem innermost {kind : FrameKind} {expected : Char} (top_eq : s.top = some (kind, expected))
    (group : kind.isGroup = true) : ∃ openers opener,
      Unmatched (delimiters tokens) (openers ++ [opener]) ∧
        opener.kind.groupCloser? = some expected := by
  obtain ⟨openers, recorded⟩ := reads.emits.recorded
  rw [reads.here.holds.frames_eq] at recorded
  obtain ⟨frame, top_eq, same⟩ := Option.map_eq_some_iff.mp top_eq
  obtain ⟨frames, frames_eq⟩ := List.head?_eq_some_iff.mp top_eq
  cases same
  rw [frames_eq] at recorded
  obtain ⟨others, opener, rfl, innermost, -⟩ := recorded.innermost group
  refine ⟨others, opener, recorded.unmatched, ?_⟩
  rcases innermost.kinds with ⟨-, closer, kind⟩ | ⟨-, closer, kind⟩
  · rw [kind, closer]
    rfl
  · rw [kind, closer]
    rfl

end Reads

end Steps

/-! ### Sessions -/

section Sessions

variable {limits : ScanLimits} {acceptReturn : Bool} {source : CharSource} {bytes : List UInt8}
  {text : List Char} {before tokens : List Token} {m : Machine} {r : Intake} {held : Nat}
  {e : ScanError}

end Sessions

namespace Session

open Delivery

end Session

end GrammarLex
