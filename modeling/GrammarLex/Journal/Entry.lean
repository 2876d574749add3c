import GrammarLex.Format.Json.Compact
import GrammarLex.Journal.Instant
import GrammarLex.Journal.Notice

/-!
# Entries of a log

An entry is a notice at a point in time. Its message is cut at a bound, and its details are sorted
by name, each name once.
-/
namespace GrammarLex

structure Entry where
  time : Instant
  level : LogLevel
  code : String
  message : String
  span : Option Span
  -- Named details, sorted by name.
  details : List (String × String)
  deriving DecidableEq, Repr

namespace Entry

/-- A message of at most `limit` characters; dots stand for the rest of a longer one. -/
def cutMessage (limit : Nat) (message : String) : String :=
  match message.toList.drop limit with
  | [] => message
  | _ :: _ => String.ofList (message.toList.take limit) ++ "..."

/-- Put a detail at its place; an earlier one of the same name is replaced. -/
def insertDetail (key value : String) : List (String × String) → List (String × String)
  | [] => [(key, value)]
  | (known, old) :: rest =>
    if key < known then (key, value) :: (known, old) :: rest
    else if key = known then (key, value) :: rest
    else (known, old) :: insertDetail key value rest

/-- Details sorted by name; of one name the last counts. -/
def sortDetails (details : List (String × String)) : List (String × String) :=
  details.foldl (fun sorted (key, value) => insertDetail key value sorted) []

def ofNotice (maxMessage : Nat) (time : Instant) (notice : Notice) : Entry where
  time := time
  level := notice.level
  code := notice.code
  message := cutMessage maxMessage notice.message
  span := notice.span
  details := sortDetails notice.details

def record? (e : Entry) : Option CodeRecord := Code.record? e.code

def render (e : Entry) : String :=
  let place := match e.span with
    | some span => " at " ++ span.start.render
    | none => ""
  "[" ++ e.level.tag ++ "] " ++ e.code ++ " - " ++ e.message ++ place

def adviceDatum (record : CodeRecord) : Datum :=
  .record [
    ("description", .text record.description),
    ("recommended_action", .text record.recommendedAction),
    ("recoverable", .boolean record.recoverable),
    ("requires_halt", .boolean record.requiresHalt)]

def spanDatum (span : Span) : Datum :=
  .record [
    ("end_column", .natural span.stop.column),
    ("end_line", .natural span.stop.line),
    ("start_column", .natural span.start.column),
    ("start_line", .natural span.start.line)]

/-- An entry as data, with the names sorted. What is not there is left out; advice is given only
with errors. -/
def toDatum (e : Entry) : Datum :=
  let registered (f : CodeRecord → List (String × Datum)) : List (String × Datum) :=
    match e.record? with
    | some record => f record
    | none => []
  .record (
    registered (fun record => [("category", .text record.category)]) ++
    [("code", .text e.code)] ++
    (if e.details.isEmpty then []
      else [("context", .record (e.details.map fun (key, value) => (key, .text value)))]) ++
    registered (fun record =>
      if e.level = .error then [("error_metadata", adviceDatum record)] else []) ++
    [("level", .text e.level.tag), ("message", .text e.message)] ++
    registered (fun record => [("severity", .text record.severity.name)]) ++
    (match e.span with
      | some span => [("span", spanDatum span)]
      | none => []) ++
    [("timestamp", .text e.time.render)])

def renderJson (e : Entry) : String := Json.render e.toDatum

end Entry

end GrammarLex
