import GrammarLex.Format.Json.Compact

/-!
# Writing TOML

A record of records is written section by section: a header with the name of the record, then one
line for each of its fields. A blank line separates sections. Texts are written between double
quotes, with the escapes that JSON has, all of which TOML reads too.
-/
namespace GrammarLex.Toml

def renderField (name : String) (value : Datum) : String :=
  name ++ " = " ++ Json.render value ++ "\n"

def renderSection (name : String) (fields : List (Option String × Datum)) : String :=
  "[" ++ name ++ "]\n" ++
    String.join (fields.map fun (key, value) => renderField (key.getD "") value)

def renderSections : Datum → String
  | .table sections =>
    "\n".intercalate (sections.map fun (name, fields) =>
      match fields with
      | .table fields => renderSection (name.getD "") fields
      | _ => "")
  | _ => ""

end GrammarLex.Toml
