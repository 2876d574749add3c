/-!
# Libraries for documents

Documents are read by a library that is not part of this one. It parses a text to a value, and from the
declaration of a record or of a choice among names it derives how one is read from a value. Whatever
reads documents here takes such a library as a parameter. What its documentation promises, and all that
is relied on, is `Library.Documented`.
-/
namespace GrammarLex

/-- How a value presents itself to the reader of a record. -/
inductive Presented (Value : Type) where
  -- By what it holds under each key.
  | table (value? : String → Option Value)
  -- By what it holds in order.
  | array (values : List Value)
  | neither

namespace Presented

variable {Value : Type}

/-- What stands under a key. -/
def under? (key : String) : Presented Value → Option Value
  | .table value? => value? key
  | _ => none

/-- What is given for a field. An array gives it by its place. -/
def field? (place : Nat) (key : String) : Presented Value → Option Value
  | .table value? => value? key
  | .array values => values[place]?
  | .neither => none

end Presented

/-- Read a field that may be missing. -/
def optional? {Value α : Type} (fallback : α) (read? : Value → Option α) : Option Value → Option α
  | none => some fallback
  | some v => read? v

/-- The declaration of a field: its key, and how a value is read and set in a record. A value of the wrong
shape cannot be. -/
structure Field (Value Rec : Type) where
  key : String
  set? : Value → Rec → Option Rec

namespace Field

variable {Value Rec α : Type}

def of (key : String) (read? : Value → Option α) (put : α → Rec → Rec) : Field Value Rec where
  key := key
  set? v r := (read? v).map fun a => put a r

/-- Set the field if there is a value for it. -/
def setGiven? (field : Field Value Rec) (given : Option Value) (r : Rec) : Option Rec :=
  optional? r (fun v => field.set? v r) given

end Field

structure Library where
  Value : Type
  /-- The value of a document; `none` if the text is no document. -/
  parse? : String → Option Value
  present : Value → Presented Value
  flag? : Value → Option Bool
  /-- The name by which a value presents itself to the reader of a choice. -/
  name? : Value → Option String
  /-- The derived reader of a record whose fields are declared and may be missing; the record that is given
  is the default. -/
  record? : {Rec : Type} → List (Field Value Rec) → Rec → Value → Option Rec
  /-- The derived reader of a choice among declared names. -/
  choice? : {α : Type} → List (String × α) → Value → Option α

/-- What is documented of the readers that a library derives. -/
structure Library.Documented (lib : Library) : Prop where
  /-- A field is set to what is given for it, and one for which nothing is given is filled in from the
  default. Keys of no field are ignored, and so are values behind the last field. -/
  record_given {Rec : Type} (fields : List (Field lib.Value Rec)) (default : Rec) {v : lib.Value}
    (isRecord : lib.present v ≠ .neither) :
    lib.record? fields default v =
      fields.zipIdx.foldlM (fun r f => f.1.setGiven? ((lib.present v).field? f.2 f.1.key) r) default
  /-- A value that presents itself as neither a table nor an array is an error. -/
  record_neither {Rec : Type} (fields : List (Field lib.Value Rec)) (default : Rec) {v : lib.Value}
    (noRecord : lib.present v = .neither) : lib.record? fields default v = none
  /-- A choice is made by one of the declared names. -/
  choice_named {α : Type} (variants : List (String × α)) (v : lib.Value) :
    lib.choice? variants v = (lib.name? v).bind fun name => variants.lookup name

end GrammarLex
