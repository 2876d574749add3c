import GrammarLex.Scan.ScanError

/-!
# Open constructs

The constructs that the text has opened and not yet closed form a stack. Groups are closed by a
delimiter met between tokens; quotes, angle brackets and actions by the handler that reads them.
The stack is bounded and remembers its greatest depth.
-/
namespace GrammarLex

inductive FrameKind where
  -- `<...>`
  | nonTerminal
  -- A text in single or double quotes.
  | quote
  -- `( ... )`
  | paren
  -- `[ ... ]`
  | bracket
  -- `{ Name(args) }`
  | action
  deriving DecidableEq, Repr

namespace FrameKind

def name : FrameKind → String
  | .nonTerminal => "NonTerminal"
  | .quote => "Quote"
  | .paren => "Paren"
  | .bracket => "Bracket"
  | .action => "Action"

def all : List FrameKind := [.nonTerminal, .quote, .paren, .bracket, .action]

def ofName? (text : String) : Option FrameKind := all.find? fun kind => kind.name == text

def ofOpener? : Char → Option FrameKind
  | '<' => some .nonTerminal
  | '"' | '\'' => some .quote
  | '(' => some .paren
  | '[' => some .bracket
  | '{' => some .action
  | _ => none

def isGroup : FrameKind → Bool
  | .paren | .bracket => true
  | _ => false

theorem isGroup_iff {kind : FrameKind} : kind.isGroup = true ↔ kind = .paren ∨ kind = .bracket := by
  cases kind <;> simp [isGroup]

end FrameKind

/-- The delimiter that closes what a character opens; a quote closes itself. -/
def closerOf : Char → Char
  | '<' => '>'
  | '(' => ')'
  | '[' => ']'
  | '{' => '}'
  | quote => quote

structure Frame where
  closer : Char
  kind : FrameKind
  -- Where its opening delimiter stands.
  openedAt : Position
  deriving DecidableEq, Repr

/-- The stack of open constructs, innermost first. -/
structure Nesting where
  -- Open constructs, innermost first.
  frames : List Frame := []
  deepest : Nat := 0
  deriving DecidableEq, Repr

namespace Nesting

def depth (n : Nesting) : Nat := n.frames.length

def isEmpty (n : Nesting) : Bool := n.frames.isEmpty

def top? (n : Nesting) : Option Frame := n.frames.head?

def expectedCloser? (n : Nesting) : Option Char := n.top?.map Frame.closer

/-- Open a construct, unless too many are open. -/
def push (limits : ScanLimits) (frame : Frame) (n : Nesting) : Except ScanError Nesting :=
  if n.depth ≥ limits.maxDepth then .error (.nestedTooDeep (n.depth + 1) frame.openedAt)
  else .ok ⟨frame :: n.frames, max n.deepest (n.depth + 1)⟩

def openWith (limits : ScanLimits) (opener : Char) (openedAt : Position) (n : Nesting) :
    Except ScanError Nesting :=
  match FrameKind.ofOpener? opener with
  | some kind => n.push limits ⟨closerOf opener, kind, openedAt⟩
  | none => .error (.unexpected (.char opener) "opening delimiter" openedAt)

def pop (n : Nesting) : Nesting := { n with frames := n.frames.tail }

/-- Close the innermost construct with a group's closing delimiter. With no group innermost the
error is soft; the closer of the other group is a hard one. -/
def closeGroup (found : Char) (p : Position) (n : Nesting) : Except ScanError (Frame × Nesting) :=
  match n.top? with
  | some frame =>
    if frame.kind.isGroup then
      if frame.closer = found then .ok (frame, n.pop)
      else .error (.mismatched frame.closer found p)
    else .error (.conditionFailed ("open group for '" ++ found.toString ++ "'") p)
  | none => .error (.conditionFailed ("open group for '" ++ found.toString ++ "'") p)

end Nesting

end GrammarLex
