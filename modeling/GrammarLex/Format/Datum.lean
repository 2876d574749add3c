/-!
# Data without a type

What a document says before anybody knows what it means. JSON and TOML documents are both read as a
`Datum`, and the records of this library are written as one. Entries of a table keep their order and
their repetitions: whether a repetition matters is for the reader of the record to say.

A string or a key may hold an escape that names no character. It is kept as `none`, because such a
string is an error only where its text is needed.
-/
namespace GrammarLex

inductive Datum where
  | null
  | boolean (value : Bool)
  | integer (value : Int)
  -- A number with a fraction or an exponent, as it was written.
  | decimal (written : String)
  -- A text, unless an escape in it names no character.
  | string (content : Option String)
  -- A date, a time or both, as it was written.
  | moment (written : String)
  | array (items : List Datum)
  | table (entries : List (Option String × Datum))
  deriving Repr, Inhabited

namespace Datum

def text (content : String) : Datum := .string (some content)

def natural (value : Nat) : Datum := .integer (Int.ofNat value)

def record (entries : List (String × Datum)) : Datum :=
  .table (entries.map fun (key, value) => (some key, value))

def option {α : Type} (encode : α → Datum) : Option α → Datum
  | some value => encode value
  | none => .null

def sequence {α : Type} (encode : α → Datum) (items : List α) : Datum :=
  .array (items.map encode)

end Datum

end GrammarLex
