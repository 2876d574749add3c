import GrammarLex.Format.Dialect
import Mathlib.Data.List.Basic

/-!
# Derived readers

To read a record is to read each of its fields, where something is given for it, and to put what has been
read into the default. What this project has for reading TOML keeps to what is documented of libraries.
-/
namespace GrammarLex

/-- To set fields is to read what is given for the first one, or to leave it as it is, to put it into the
record, and to go on. -/
theorem Field.foldlM_setGiven?_of {Value Rec α : Type} {put : α → Rec → Rec} (get : Rec → α)
    (same : ∀ r, put (get r) r = r) (given : Presented Value) (key : String) (read? : Value → Option α)
    (place : Nat) (fields : List (Field Value Rec × Nat)) (r : Rec) :
    ((of key read? put, place) :: fields).foldlM
        (fun r f => f.1.setGiven? (given.field? f.2 f.1.key) r) r =
      optional? (get r) read? (given.field? place key) >>= fun a =>
        fields.foldlM (fun r f => f.1.setGiven? (given.field? f.2 f.1.key) r) (put a r) := by
  have set_eq : (of key read? put).setGiven? (given.field? place key) r =
      (optional? (get r) read? (given.field? place key)).map fun a => put a r := by
    cases given.field? place key with
    | none => exact congrArg some (same r).symm
    | some v => rfl
  rw [List.foldlM_cons]
  change (of key read? put).setGiven? (given.field? place key) r >>= _ = _
  rw [set_eq, Option.bind_eq_bind, Option.bind_eq_bind, Option.bind_map]
  rfl

namespace Datum

/-- A datum gives a record's fields as it presents them. -/
theorem fields?_eq_mapIdx {d : Datum} (isRecord : d.present ≠ .neither) (names : List String) :
    d.fields? .toml names = some (names.mapIdx fun i name => d.present.field? i name) := by
  have constant {f : String → Option Datum} : names.map f = names.mapIdx fun _ name => f name := by
    apply List.ext_getElem <;> simp
  cases d with
  | table entries =>
    simp only [fields?, Dialect.toml]
    exact (List.mapM_pure ..).trans (congrArg some constant)
  | array items =>
    -- Surplus items are not looked at, and a place behind the last item says nothing.
    have fits : (items.length ≤ names.length || Dialect.toml.surplusItems) = true := Bool.or_true _
    simp only [fields?, fits, if_true]
    congr 1
    apply List.ext_getElem <;> simp [present, Presented.field?]
  | moment written => exact congrArg some constant
  | _ => exact absurd rfl isRecord

theorem fields?_eq_none {d : Datum} (noRecord : d.present = .neither) (names : List String) :
    d.fields? .toml names = none := by
  cases d with
  | table | array | moment => cases noRecord
  | _ => rfl

variable {Rec : Type} {d : Datum}

theorem record?_given (fields : List (Field Datum Rec)) (default : Rec) (isRecord : d.present ≠ .neither) :
    record? .toml fields default d =
      fields.zipIdx.foldlM (fun r f => f.1.setGiven? (d.present.field? f.2 f.1.key) r) default := by
  have given_eq : fields.zip ((fields.map Field.key).mapIdx fun i name => d.present.field? i name) =
      fields.zipIdx.map fun f => (f.1, d.present.field? f.2 f.1.key) := by
    apply List.ext_getElem <;> simp
  rw [record?, fields?_eq_mapIdx isRecord, Option.bind_eq_bind, Option.bind_some, given_eq,
    List.foldlM_map]

theorem record?_neither (fields : List (Field Datum Rec)) (default : Rec)
    (noRecord : d.present = .neither) : record? .toml fields default d = none := by
  rw [record?, fields?_eq_none noRecord]
  rfl

end Datum

theorem Toml.library_documented : library.Documented where
  record_given fields default _ isRecord := Datum.record?_given fields default isRecord
  record_neither fields default _ noRecord := Datum.record?_neither fields default noRecord
  choice_named _ _ := rfl

end GrammarLex
