import GrammarLex.Format.Datum

/-!
# Tables under construction

A TOML document builds a tree of tables, piece by piece, and each table may be defined in one place
only. So a table remembers how it came to be: under a header of its own, on the way to the header of
a table inside it, or on the way of a dotted key. A table that only lay on the way to a header may
still get its own; one that a dotted key made is complete once its surroundings are.
-/
namespace GrammarLex.Toml

inductive Origin where
  -- It has a header, or braces.
  | defined
  | implied
  -- It lies on the way of a dotted key.
  | dotted
  deriving DecidableEq, Repr

inductive Node where
  | value (datum : Datum)
  | table (origin : Origin) (entries : List (String × Node))
  -- Tables under repeated headers, the latest first.
  | tables (list : List (List (String × Node)))
  deriving Inhabited

abbrev Entries := List (String × Node)

namespace Entries

/-- Replace what stands under a key, or add it. -/
def replace (key : String) (node : Node) : Entries → Entries
  | [] => [(key, node)]
  | (known, old) :: rest =>
    if known = key then (key, node) :: rest else (known, old) :: replace key node rest

def add? (key : String) (node : Node) (entries : Entries) : Option Entries :=
  match entries.lookup key with
  | some _ => none
  | none => some (entries.replace key node)

/-- Add a value under a dotted key. Every table on the way must still be open to dotted keys, and
the last one must have been made by one. -/
def addDotted? (key : String) (value : Datum) : List String → Entries → Option Entries
  | [], entries => entries.add? key (.value value)
  | name :: path, entries => do
    match entries.lookup name with
    | none => return entries.replace name (.table .dotted (← addDotted? key value path []))
    | some (.table .dotted inner) =>
      return entries.replace name (.table .dotted (← addDotted? key value path inner))
    | some (.table .implied inner) =>
      -- A table on the way to a header lets dotted keys through, but takes none in.
      if path.isEmpty then none
      else return entries.replace name (.table .implied (← addDotted? key value path inner))
    | some (.tables (last :: before)) =>
      if path.isEmpty then none
      else return entries.replace name (.tables ((← addDotted? key value path last) :: before))
    | _ => none

/-- Change the table at the end of a path. Tables that are missing on the way are added, and of
repeated tables the latest is taken. -/
def within? (change : Entries → Option Entries) : List String → Entries → Option Entries
  | [], entries => change entries
  | name :: path, entries => do
    match entries.lookup name with
    | none => return entries.replace name (.table .implied (← within? change path []))
    | some (.table origin inner) =>
      return entries.replace name (.table origin (← within? change path inner))
    | some (.tables (last :: before)) =>
      return entries.replace name (.tables ((← within? change path last) :: before))
    | _ => none

def define? (key : String) (entries : Entries) : Option Entries :=
  match entries.lookup key with
  | none => some (entries.replace key (.table .defined []))
  | some (.table .implied inner) => some (entries.replace key (.table .defined inner))
  | _ => none

def renew? (key : String) (entries : Entries) : Option Entries :=
  match entries.lookup key with
  | none => some (entries.replace key (.tables [[]]))
  | some (.tables list) => some (entries.replace key (.tables ([] :: list)))
  | _ => none

end Entries

mutual

def Node.toDatum : Node → Datum
  | .value datum => datum
  | .table _ entries => .table (Entries.toData entries)
  | .tables list => .array (tableData list).reverse

def Entries.toData : List (String × Node) → List (Option String × Datum)
  | [] => []
  | (key, node) :: rest => (some key, node.toDatum) :: Entries.toData rest

def tableData : List (List (String × Node)) → List Datum
  | [] => []
  | entries :: rest => .table (Entries.toData entries) :: tableData rest

end

end GrammarLex.Toml
