import GrammarLex.Format.Toml.Number
import GrammarLex.Format.Toml.Text
import GrammarLex.Format.Toml.Tree

/-!
# TOML documents

A document is a list of statements: blank lines, comments, headers and assignments, each on lines of
its own. Arrays and tables in braces may be nested, but only to a bound, which is also the bound on
the length of a dotted key; so values are read by recursion on the depth that is left. Every
statement takes at least one character, so a document has no more statements than characters.
-/
namespace GrammarLex.Toml

/-- A reader takes what it reads off the front of a text, or refuses the text. -/
abbrev Reader (α : Type) := StateT (List Char) Option α

namespace Reader

def refuse {α : Type} : Reader α := fun _ => none

def peek : Reader (Option Char) := return (← get).head?

/-- Take a character off if it comes next, and say whether it did. -/
def takes (c : Char) : Reader Bool := fun s =>
  match s with
  | first :: rest => if first = c then some (true, rest) else some (false, s)
  | [] => some (false, s)

def exactly (c : Char) : Reader Unit := do
  unless ← takes c do refuse

def takeWhile (keep : Char → Bool) : Reader (List Char) := fun s => some (s.span keep)

def space : Reader Unit := do
  let _ ← takeWhile isSpace

def newline : Reader Unit := fun s =>
  match s with
  | '\n' :: rest | '\r' :: '\n' :: rest => some ((), rest)
  | _ => none

def comment : Reader Unit := do
  if ← takes '#' then
    let _ ← takeWhile isPlain

def lineEnd : Reader Unit := do
  space
  comment
  unless (← get).isEmpty do newline

/-- Pass over white space, comments and a number of newlines. -/
def blanks : Nat → Reader Unit
  | 0 => refuse
  | fuel + 1 => do
    space
    match ← peek with
    | some '#' | some '\n' | some '\r' =>
      comment
      newline
      blanks fuel
    | _ => return ()

end Reader

open Reader

/-! ### Keys -/

def isKeyChar (c : Char) : Bool := c.isAlphanum || c == '_' || c == '-'

/-- Arrays and tables in braces are nested less deep than this, and keys have fewer parts. -/
def depthBound : Nat := 80

def keyPart : Reader String := do
  if ← takes '"' then lineText basic
  else if ← takes '\'' then lineText literal
  else
    let part ← takeWhile isKeyChar
    if part.isEmpty then refuse else return String.ofList part

/-- The parts of a key, with white space around each. -/
def keyParts : Nat → Reader (List String)
  | 0 => refuse
  | fuel + 1 => do
    space
    let part ← keyPart
    space
    if ← takes '.' then return part :: (← keyParts fuel) else return [part]

/-- A dotted key: the tables on its way, and its last part. -/
def key : Reader (List String × String) := do
  let parts ← keyParts (depthBound - 1)
  match parts.getLast? with
  | some last => return (parts.dropLast, last)
  | none => refuse

/-! ### Values -/

def text (style : Style) : Reader String := fun s =>
  match s with
  | a :: b :: rest =>
    if a = style.quote ∧ b = style.quote then blockText style rest else lineText style s
  | _ => lineText style s

/-- A word. A date may be followed by a space and a time of day. -/
def word : Reader Datum := do
  let first ← takeWhile isWordChar
  match ← get with
  | ' ' :: c :: _ =>
    if isDate first ∧ c.isDigit then
      exactly ' '
      let second ← takeWhile isWordChar
      if isDayTime second then return .moment (String.ofList first ++ " " ++ String.ofList second)
      else refuse
    else word? first
  | _ => word? first

/-- The items of an array, behind its bracket or a comma. A comma may stand behind the last item. At
most `bound` newlines stand between two items. -/
def arrayItems (bound : Nat) (item : Reader Datum) (items : List Datum) : Nat → Reader Datum
  | 0 => refuse
  | fuel + 1 => do
    blanks bound
    if ← takes ']' then return .array items.reverse
    let next ← item
    blanks bound
    if ← takes ',' then arrayItems bound item (next :: items) fuel
    else
      exactly ']'
      return .array (next :: items).reverse

/-- The entries of a table, behind a brace or a comma. -/
def tableEntries (item : Reader Datum) (entries : Entries) : Nat → Reader Datum
  | 0 => refuse
  | fuel + 1 => do
    let (path, last) ← key
    exactly '='
    space
    let value ← item
    space
    let entries ← entries.addDotted? last value path
    if ← takes ',' then tableEntries item entries fuel
    else
      exactly '\x7d'
      return .table (Entries.toData entries)

/-- A value, given how many containers it may still hold in one another. No container has more than
`bound` parts. -/
def value (bound : Nat) (depth : Nat) : Reader Datum := do
  if ← takes '"' then return .text (← text basic)
  else if ← takes '\'' then return .text (← text literal)
  else match depth with
    | 0 => word
    | depth + 1 =>
      if ← takes '[' then arrayItems bound (value bound depth) [] bound
      else if ← takes '\x7b' then
        space
        if ← takes '\x7d' then return .table []
        else tableEntries (value bound depth) [] bound
      else word

/-! ### Statements -/

/-- What has been read of a document: the tree, and the table that assignments go to. -/
structure Draft where
  root : Entries := []
  current : List String := []

def header (draft : Draft) : Reader Draft := do
  let repeated ← takes '['
  let (path, last) ← key
  exactly ']'
  if repeated then exactly ']'
  lineEnd
  let change := if repeated then Entries.renew? last else Entries.define? last
  return ⟨← draft.root.within? change path, path ++ [last]⟩

def assignment (bound : Nat) (draft : Draft) : Reader Draft := do
  let (path, last) ← key
  exactly '='
  space
  let assigned ← value bound (depthBound - 1)
  lineEnd
  return { draft with
    root := ← draft.root.within? (Entries.addDotted? last assigned path) draft.current }

def statement (bound : Nat) (draft : Draft) : Reader Draft := do
  match ← peek with
  | some '#' | some '\n' | some '\r' =>
    lineEnd
    return draft
  | some '[' =>
    exactly '['
    header draft
  | _ => assignment bound draft

def statements (bound : Nat) (draft : Draft) : Nat → Reader Draft
  | 0 => refuse
  | fuel + 1 => do
    space
    if (← get).isEmpty then return draft
    else
      let draft ← statement bound draft
      statements bound draft fuel

def dropMark : List Char → List Char
  | '\ufeff' :: rest => rest
  | rest => rest

def parse? (content : String) : Option Datum := do
  let bound := content.length + 1
  let (draft, _) ← statements bound {} bound (dropMark content.toList)
  return .table (Entries.toData draft.root)

end GrammarLex.Toml
