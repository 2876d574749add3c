import GrammarLex.Format.Datum
import GrammarLex.Format.Json.Document
import GrammarLex.Format.Library
import GrammarLex.Format.Toml.Document

/-!
# Reading records from data

A record is written as a table of its fields or as an array of them in order. Unknown entries of a
table say nothing. A choice among names is written as the name, or as a table that gives the name an
empty payload. A dialect holds the points in which formats differ.

So there is a library for JSON and one for TOML to run programs with. What is proved of programs that read
documents is proved for every library that is documented in the same way.
-/
namespace GrammarLex

namespace Datum

def boolean? : Datum → Option Bool
  | .boolean value => some value
  | _ => none

def text? : Datum → Option String
  | .string content => content
  | _ => none

def natural? (greatest : Nat) : Datum → Option Nat
  | .integer (.ofNat value) => if value ≤ greatest then some value else none
  | _ => none

/-- The entry of a name in a table, if there is one; `none` if there are several. -/
def single? (entries : List (Option String × Datum)) (name : String) : Option (Option Datum) :=
  match entries.filter fun entry => entry.1 == some name with
  | [] => some none
  | [entry] => some (some entry.2)
  | _ => none

/-- A date is a table without known entries. -/
def present : Datum → Presented Datum
  | .table entries => .table fun key => entries.lookup (some key)
  | .array items => .array items
  | .moment _ => .table fun _ => none
  | _ => .neither

end Datum

/-- The points in which formats differ when records are read. -/
structure Dialect where
  -- The entry of a name in a table, if there is one; `none` if the table is at fault.
  find? : List (Option String × Datum) → String → Option (Option Datum)
  -- An array may hold more items than the record has fields; the surplus says nothing.
  surplusItems : Bool
  -- The datum is an empty payload of a name.
  isEmptyPayload : Datum → Bool

namespace Dialect

/-- In JSON a key may be no text or be repeated, which is found out only here. Arrays have the exact
length, and an empty payload is a null. -/
def json : Dialect where
  find? entries name :=
    if entries.any fun entry => entry.1.isNone then none else Datum.single? entries name
  surplusItems := false
  isEmptyPayload
    | .null => true
    | _ => false

/-- Documents in TOML are parsed to tables that name each key once. Arrays may be longer, and an empty
payload is an empty table or array. -/
def toml : Dialect where
  find? entries name := some (entries.lookup (some name))
  surplusItems := true
  isEmptyPayload
    | .table [] | .array [] => true
    | _ => false

end Dialect

namespace Datum

/-- The name of a choice. -/
def name? (dialect : Dialect) : Datum → Option String
  | .string content => content
  | .table [(name, payload)] => if dialect.isEmptyPayload payload then name else none
  | _ => none

/-- One of some names, as `known?` tells them. -/
def choice? {α : Type} (dialect : Dialect) (known? : String → Option α) (d : Datum) : Option α :=
  (d.name? dialect).bind known?

/-- The data of a record's fields, each of which may be missing; `none` if the datum is no record. -/
def fields? (dialect : Dialect) (names : List String) : Datum → Option (List (Option Datum))
  | .table entries => names.mapM (dialect.find? entries)
  | .array items =>
    if items.length ≤ names.length || dialect.surplusItems then
      some ((List.range names.length).map fun i => items[i]?)
    else none
  | .moment _ => some (names.map fun _ => none)
  | _ => none

/-- Read a record whose fields may be missing. -/
def record? {Rec : Type} (dialect : Dialect) (fields : List (Field Datum Rec)) (default : Rec)
    (d : Datum) : Option Rec := do
  let given ← d.fields? dialect (fields.map Field.key)
  (fields.zip given).foldlM (fun r f => f.1.setGiven? f.2 r) default

end Datum

def required? {α : Type} (decode : Datum → Option α) (field : Option Datum) : Option α :=
  field.bind decode

/-- The library of a format: how its documents are parsed, and what is particular to it. -/
def Dialect.library (dialect : Dialect) (parse? : String → Option Datum) : Library where
  Value := Datum
  parse? := parse?
  present := Datum.present
  flag? := Datum.boolean?
  name? := Datum.name? dialect
  record? := Datum.record? dialect
  choice? variants := Datum.choice? dialect fun name => variants.lookup name

def Json.library : Library := Dialect.json.library Json.parse?

def Toml.library : Library := Dialect.toml.library Toml.parse?

end GrammarLex
