import GrammarLex.Format.Datum
import GrammarLex.Format.Json.Mark

/-!
# JSON documents

A document is one value. Its containers may be nested to any depth: those that are still open are
kept in a list, not on the call stack, and every mark is read once.
-/
namespace GrammarLex.Json

abbrev Key := Option String

/-- A container that is still open. Contents come latest first. -/
inductive OpenContainer where
  -- An array, waiting for its next item.
  | array (items : List Datum)
  -- An object, waiting for the value of a key.
  | object (members : List (Key × Datum)) (key : Key)
  deriving Repr

/-- What a reader of documents has got and what must follow. -/
inductive DocumentReader where
  | wantValue (outer : List OpenContainer)
  -- An array has just been opened: a value or its end must follow.
  | wantItem (outer : List OpenContainer)
  -- A key must follow; in an object without members the end may as well.
  | wantKey (members : List (Key × Datum)) (outer : List OpenContainer)
  | wantColon (key : Key) (members : List (Key × Datum)) (outer : List OpenContainer)
  | complete (value : Datum) (outer : List OpenContainer)
  deriving Repr

namespace DocumentReader

def wordValue : Word → Datum
  | .null => .null
  | .boolean value => .boolean value
  | .integer value => .integer value
  | .decimal written => .decimal written

def beginValue? (outer : List OpenContainer) : Mark → Option DocumentReader
  | .openArray => some (.wantItem outer)
  | .openObject => some (.wantKey [] outer)
  | .string content => some (.complete (.string content) outer)
  | .word word => some (.complete (wordValue word) outer)
  | _ => none

def step : DocumentReader → Mark → Option DocumentReader
  | .wantValue outer, mark => beginValue? outer mark
  | .wantItem outer, .closeArray => some (.complete (.array []) outer)
  | .wantItem outer, mark => beginValue? (.array [] :: outer) mark
  | .wantKey members outer, .string key => some (.wantColon key members outer)
  | .wantKey [] outer, .closeObject => some (.complete (.table []) outer)
  | .wantColon key members outer, .colon => some (.wantValue (.object members key :: outer))
  | .complete item (.array items :: outer), .comma =>
    some (.wantValue (.array (item :: items) :: outer))
  | .complete item (.array items :: outer), .closeArray =>
    some (.complete (.array (item :: items).reverse) outer)
  | .complete value (.object members key :: outer), .comma =>
    some (.wantKey ((key, value) :: members) outer)
  | .complete value (.object members key :: outer), .closeObject =>
    some (.complete (.table ((key, value) :: members).reverse) outer)
  | _, _ => none

def finish? : DocumentReader → Option Datum
  | .complete value [] => some value
  | _ => none

end DocumentReader

def parse? (text : String) : Option Datum := do
  let marks ← marks? text.toList
  let reader ← marks.foldlM DocumentReader.step (.wantValue [])
  reader.finish?

end GrammarLex.Json
