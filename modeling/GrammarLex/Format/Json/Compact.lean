import GrammarLex.Format.Datum
import GrammarLex.Format.Digits

/-!
# Compact JSON

A datum is written without white space. In a string only quotes, backslashes and the characters
below the space are escaped, by a letter where there is one.
-/
namespace GrammarLex.Json

def writeChar (out : String) (c : Char) : String :=
  match c with
  | '"' => out ++ "\\\""
  | '\\' => out ++ "\\\\"
  | '\x08' => out ++ "\\b"
  | '\x0c' => out ++ "\\f"
  | '\n' => out ++ "\\n"
  | '\r' => out ++ "\\r"
  | '\t' => out ++ "\\t"
  | c =>
    if c.toNat < 0x20 then
      ((out ++ "\\u00").push (Digits.hexOf (c.toNat / 16))).push (Digits.hexOf (c.toNat % 16))
    else out.push c

def writeString (out content : String) : String :=
  (content.toList.foldl writeChar (out.push '"')).push '"'

mutual

def write (out : String) : Datum → String
  | .null => out ++ "null"
  | .boolean value => out ++ (if value then "true" else "false")
  | .integer value => out ++ toString value
  | .decimal written => out ++ written
  | .string content => writeString out (content.getD "")
  | .moment written => writeString out written
  | .array items => (writeItems (out.push '[') true items).push ']'
  | .table entries => (writeEntries (out.push '\x7b') true entries).push '\x7d'

/-- Append the items of a sequence; all but the first follow a comma. -/
def writeItems (out : String) (first : Bool) : List Datum → String
  | [] => out
  | item :: rest => writeItems (write (if first then out else out.push ',') item) false rest

/-- Append the entries of a table; all but the first follow a comma. -/
def writeEntries (out : String) (first : Bool) : List (Option String × Datum) → String
  | [] => out
  | (key, value) :: rest =>
    let out := writeString (if first then out else out.push ',') (key.getD "")
    writeEntries (write (out.push ':') value) false rest

end

def render (d : Datum) : String := write "" d

end GrammarLex.Json
