import GrammarLex.Format.Datum
import GrammarLex.Format.Digits

/-!
# Numbers and dates in TOML

A number, a date or a time is one word of letters, digits and a few marks, and a word is read as a
whole. Whole numbers fit a signed 64-bit word. A number with a fraction or an exponent is kept as it
was written, unless it is positive and too large for a double. Whether it is too large is decided
exactly, by the digits in front of the point; only the exponent is cut when it is out of all reason.
-/
namespace GrammarLex.Toml

/-- The digits at the front of a word, and the rest. A single underscore may stand between two
digits. -/
def digitRun (base : Nat) : List Char → List Char × List Char
  | '_' :: c :: rest =>
    if Digits.isDigit base c then
      let (digits, rest) := digitRun base rest
      (c :: digits, rest)
    else ([], '_' :: c :: rest)
  | c :: rest =>
    if Digits.isDigit base c then
      let (digits, rest) := digitRun base rest
      (c :: digits, rest)
    else ([], c :: rest)
  | [] => ([], [])

def digits? (base : Nat) (word : List Char) : Option (List Char × List Char) :=
  match word with
  | c :: _ => if Digits.isDigit base c then some (digitRun base word) else none
  | [] => none

/-- A run of decimal digits without a superfluous zero in front. -/
def integerPart? (word : List Char) : Option (List Char × List Char) :=
  match word with
  | '0' :: rest => some (['0'], rest)
  | word => digits? 10 word

def splitSign : List Char → Bool × List Char
  | '-' :: rest => (true, rest)
  | '+' :: rest => (false, rest)
  | word => (false, word)

/-! ### Whole numbers -/

/-- A number in a base other than ten has no sign and fits 63 bits. -/
def basedInteger? (base : Nat) (word : List Char) : Option Datum := do
  let (digits, rest) ← digits? base word
  if !rest.isEmpty then none
  else (Digits.below? base (Nat.pow 2 63) digits).map Datum.natural

def decimalInteger? (word : List Char) : Option Datum := do
  let (negative, word) := splitSign word
  let (digits, rest) ← integerPart? word
  if !rest.isEmpty then none
  else if negative then (Digits.below? 10 (Nat.pow 2 63 + 1) digits).map fun n => .integer (-n)
  else (Digits.below? 10 (Nat.pow 2 63) digits).map Datum.natural

def integer? : List Char → Option Datum
  | '0' :: 'x' :: rest => basedInteger? 16 rest
  | '0' :: 'o' :: rest => basedInteger? 8 rest
  | '0' :: 'b' :: rest => basedInteger? 2 rest
  | word => decimalInteger? word

/-! ### Fractions and exponents -/

/-- A decimal number: the digits in front of the point, those behind it, and the exponent. -/
structure Decimal where
  whole : List Char
  fraction : List Char
  exponent : Int

/-- The least number that a double rounds to infinity: half a step above the greatest double. -/
def doubleBound : Nat := Nat.pow 2 1024 - Nat.pow 2 970

namespace Decimal

def significant (d : Decimal) : List Char := (d.whole ++ d.fraction).dropWhile (· == '0')

/-- The number is too large for a double. The bound is a whole number of 309 digits, so only numbers
with as many digits in front of the point are compared with it, and only by those digits. -/
def exceedsDouble (d : Decimal) : Bool :=
  let digits := d.significant
  let leading := d.exponent - d.fraction.length + digits.length
  if digits.isEmpty || leading < 309 then false
  else if leading > 309 then true
  else doubleBound ≤ Digits.value 10 (digits.take 309) * Nat.pow 10 (309 - digits.length)

end Decimal

/-- The magnitude of an exponent. Its digits count until they have reached 65536; those behind are
passed over, so that an exponent never has more than six digits. -/
def exponentMagnitude (digits : List Char) : Nat :=
  digits.foldl (fun n c => if n < 65536 then n * 10 + Digits.value 10 [c] else n) 0

/-- The exponent at the front of a word, and the rest; without one it is zero. -/
def exponent? : List Char → Option (Int × List Char)
  | c :: rest =>
    if c = 'e' ∨ c = 'E' then do
      let (negative, rest) := splitSign rest
      let (digits, rest) ← digits? 10 rest
      let magnitude := Int.ofNat (exponentMagnitude digits)
      some (if negative then -magnitude else magnitude, rest)
    else some (0, c :: rest)
  | [] => some (0, [])

/-- The fraction at the front of a word, and the rest; without one there are no digits. -/
def fraction? : List Char → Option (List Char × List Char)
  | '.' :: rest => digits? 10 rest
  | rest => some ([], rest)

/-- A number with a fraction, an exponent or both. -/
def float? (word : List Char) : Option Datum := do
  let (negative, magnitude) := splitSign word
  let (whole, rest) ← integerPart? magnitude
  if rest.isEmpty then none
  let (fraction, rest) ← fraction? rest
  let (exponent, rest) ← exponent? rest
  if !rest.isEmpty || (!negative && Decimal.exceedsDouble ⟨whole, fraction, exponent⟩) then none
  else some (.decimal (String.ofList word))

def special? (word : List Char) : Option Datum :=
  match (splitSign word).2 with
  | ['i', 'n', 'f'] | ['n', 'a', 'n'] => some (.decimal (String.ofList word))
  | _ => none

/-! ### Dates and times -/

def twoDigits? (low high : Nat) : List Char → Option (Nat × List Char)
  | a :: b :: rest =>
    let value := Digits.value 10 [a, b]
    if Digits.isDigit 10 a ∧ Digits.isDigit 10 b ∧ low ≤ value ∧ value ≤ high then
      some (value, rest)
    else none
  | _ => none

def after? (c : Char) : List Char → Option (List Char)
  | first :: rest => if first = c then some rest else none
  | [] => none

def daysOfMonth (year month : Nat) : Nat :=
  if month = 2 then if year % 4 = 0 ∧ (year % 100 ≠ 0 ∨ year % 400 = 0) then 29 else 28
  else if month ∈ [4, 6, 9, 11] then 30
  else 31

def date? : List Char → Option (List Char)
  | a :: b :: c :: d :: rest => do
    let year := [a, b, c, d]
    if !year.all (Digits.isDigit 10) then none
    let rest ← after? '-' rest
    let (month, rest) ← twoDigits? 1 12 rest
    let rest ← after? '-' rest
    let (_, rest) ← twoDigits? 1 (daysOfMonth (Digits.value 10 year) month) rest
    some rest
  | _ => none

def secondFraction? : List Char → Option (List Char)
  | '.' :: rest =>
    match rest.span (Digits.isDigit 10) with
    | ([], _) => none
    | (_, rest) => some rest
  | rest => some rest

/-- A time of day, and the rest. A minute may have a leap second. -/
def time? (word : List Char) : Option (List Char) := do
  let (_, rest) ← twoDigits? 0 23 word
  let (_, rest) ← twoDigits? 0 59 (← after? ':' rest)
  let (_, rest) ← twoDigits? 0 60 (← after? ':' rest)
  secondFraction? rest

def offset? : List Char → Option (List Char)
  | c :: rest =>
    if c = 'Z' ∨ c = 'z' then some rest
    else if c = '+' ∨ c = '-' then do
      let (_, rest) ← twoDigits? 0 23 rest
      let (_, rest) ← twoDigits? 0 59 (← after? ':' rest)
      some rest
    else some (c :: rest)
  | [] => some []

def isDate (word : List Char) : Bool :=
  match date? word with
  | some rest => rest.isEmpty
  | none => false

/-- The word is a time of day, perhaps with its distance from the zero meridian. -/
def isDayTime (word : List Char) : Bool :=
  match (time? word).bind offset? with
  | some rest => rest.isEmpty
  | none => false

/-- A date, a time of day, or both joined by a letter. -/
def moment? (word : List Char) : Option Datum :=
  let written : Datum := .moment (String.ofList word)
  match date? word with
  | some [] => some written
  | some (c :: rest) => if (c = 'T' ∨ c = 't') ∧ isDayTime rest then some written else none
  | none => if time? word = some [] then some written else none

/-! ### Words -/

def isWordChar (c : Char) : Bool :=
  c.isAlphanum || c == '+' || c == '-' || c == '.' || c == ':' || c == '_'

def word? (word : List Char) : Option Datum :=
  match word with
  | ['t', 'r', 'u', 'e'] => some (.boolean true)
  | ['f', 'a', 'l', 's', 'e'] => some (.boolean false)
  | word => (moment? word).orElse fun _ => (integer? word).orElse fun _ =>
    (float? word).orElse fun _ => special? word

end GrammarLex.Toml
