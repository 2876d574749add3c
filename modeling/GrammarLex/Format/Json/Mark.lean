import GrammarLex.Format.Digits

/-!
# The marks of JSON

A JSON text is a sequence of structural characters, strings and bare words. A bare word reaches to
the next white space, quote or structural character; it must be a number or one of three names.
Reading goes through the text once, character by character, so it ends where the text ends.
-/
namespace GrammarLex.Json

inductive Word where
  -- `null`
  | null
  -- `true` or `false`
  | boolean (value : Bool)
  -- A number without fraction and exponent, its magnitude below 2 ^ 64; minus zero is none.
  | integer (value : Int)
  | decimal (written : String)
  deriving DecidableEq, Repr

inductive Mark where
  -- `[`
  | openArray
  -- `]`
  | closeArray
  -- `{`
  | openObject
  -- `}`
  | closeObject
  -- `:`
  | colon
  -- `,`
  | comma
  -- A string, unless an escape in it names no character.
  | string (content : Option String)
  | word (word : Word)
  deriving DecidableEq, Repr

/-! ### Bare words -/

/-- The digits at the front of a word, and the rest. -/
def spanDigits (word : List Char) : List Char × List Char := word.span (Digits.isDigit 10)

/-- A fraction may follow the integer part: a point and at least one digit. -/
def afterFraction? : List Char → Option (List Char)
  | '.' :: rest =>
    match spanDigits rest with
    | ([], _) => none
    | (_, rest) => some rest
  | rest => some rest

def afterExponentDigits? (word : List Char) : Option (List Char) :=
  match spanDigits word with
  | ([], _) => none
  | (_, rest) => some rest

/-- An exponent may follow: a letter, a sign if wanted, and at least one digit. -/
def afterExponent? : List Char → Option (List Char)
  | 'e' :: '+' :: rest | 'e' :: '-' :: rest | 'E' :: '+' :: rest | 'E' :: '-' :: rest
  | 'e' :: rest | 'E' :: rest => afterExponentDigits? rest
  | rest => some rest

/-- The whole number that digits write, but for minus zero and numbers of more than 64 bits. -/
def whole? (negative : Bool) (digits : List Char) : Option Int :=
  match Digits.below? 10 (Nat.pow 2 64) digits with
  | some 0 => if negative then none else some 0
  | some magnitude => some (if negative then -(Int.ofNat magnitude) else Int.ofNat magnitude)
  | none => none

/-- A number without its sign. The integer part has no superfluous zero in front. -/
def unsigned? (negative : Bool) (word : List Char) : Option Word :=
  let written := (if negative then "-" else "") ++ String.ofList word
  match spanDigits word with
  | ([], _) => none
  | ('0' :: _ :: _, _) => none
  | (digits, []) =>
    match whole? negative digits with
    | some value => some (.integer value)
    | none => some (.decimal written)
  | (_, rest) =>
    match (afterFraction? rest).bind afterExponent? with
    | some [] => some (.decimal written)
    | _ => none

def word? : List Char → Option Word
  | ['n', 'u', 'l', 'l'] => some .null
  | ['t', 'r', 'u', 'e'] => some (.boolean true)
  | ['f', 'a', 'l', 's', 'e'] => some (.boolean false)
  | '-' :: rest => unsigned? true rest
  | word => unsigned? false word

/-! ### Strings -/

def shortEscape? : Char → Option Char
  | '"' => some '"'
  | '\\' => some '\\'
  | '/' => some '/'
  | 'b' => some '\x08'
  | 'f' => some '\x0c'
  | 'n' => some '\n'
  | 'r' => some '\r'
  | 't' => some '\t'
  | _ => none

def isLeading (unit : Nat) : Bool := 0xD800 ≤ unit && unit ≤ 0xDBFF

def isTrailing (unit : Nat) : Bool := 0xDC00 ≤ unit && unit ≤ 0xDFFF

/-- The text of a list of code units: halves of pairs are joined, and a half alone is no
character. `text` holds the characters before. -/
def textOfUnits? (text : String) : List Nat → Option String
  | [] => some text
  | unit :: rest =>
    if isLeading unit then
      -- Each half of a pair carries ten bits of the code point above the first plane.
      match rest with
      | low :: rest =>
        if isTrailing low then
          textOfUnits? (text.push (Char.ofNat (0x10000 + (unit - 0xD800) * 0x400 + (low - 0xDC00))))
            rest
        else none
      | [] => none
    else if isTrailing unit then none
    else textOfUnits? (text.push (Char.ofNat unit)) rest

/-! ### Reading marks -/

/-- What the characters read last belong to. -/
inductive Within where
  -- A bare word, or nothing; its characters, the latest first.
  | plain (word : List Char)
  -- A string; its code units, the latest first.
  | string (units : List Nat)
  -- A string, behind a backslash.
  | escape (units : List Nat)
  -- A string, inside an escape with `missing` more hexadecimal digits to come.
  | hex (units : List Nat) (missing value : Nat)
  deriving Repr

/-- A reader of marks: what it is within, and the marks so far, the latest first. -/
structure MarkReader where
  -- What the next character continues.
  within : Within := .plain []
  -- The marks so far, the latest first.
  marks : List Mark := []
  deriving Repr

namespace MarkReader

def endWord? (word : List Char) (marks : List Mark) : Option (List Mark) :=
  if word.isEmpty then some marks
  else (word? word.reverse).map fun meaning => .word meaning :: marks

def structural? : Char → Option Mark
  | '[' => some .openArray
  | ']' => some .closeArray
  | '{' => some .openObject
  | '}' => some .closeObject
  | ':' => some .colon
  | ',' => some .comma
  | _ => none

def isSpace (c : Char) : Bool := c == ' ' || c == '\n' || c == '\r' || c == '\t'

def step (r : MarkReader) (c : Char) : Option MarkReader :=
  match r.within with
  | .plain word =>
    if c = '"' then (endWord? word r.marks).map fun marks => ⟨.string [], marks⟩
    else if isSpace c then (endWord? word r.marks).map fun marks => ⟨.plain [], marks⟩
    else match structural? c with
      | some mark => (endWord? word r.marks).map fun marks => ⟨.plain [], mark :: marks⟩
      | none => some ⟨.plain (c :: word), r.marks⟩
  | .string units =>
    if c = '"' then some ⟨.plain [], .string (textOfUnits? "" units.reverse) :: r.marks⟩
    else if c = '\\' then some ⟨.escape units, r.marks⟩
    else if c.toNat < 0x20 then none
    else some ⟨.string (c.toNat :: units), r.marks⟩
  | .escape units =>
    if c = 'u' then some ⟨.hex units 3 0, r.marks⟩
    else (shortEscape? c).map fun e => ⟨.string (e.toNat :: units), r.marks⟩
  | .hex units missing value =>
    (Digits.hex? c).map fun digit =>
      let value := value * 16 + digit
      match missing with
      | 0 => ⟨.string (value :: units), r.marks⟩
      | missing + 1 => ⟨.hex units missing value, r.marks⟩

def finish? (r : MarkReader) : Option (List Mark) :=
  match r.within with
  | .plain word => (endWord? word r.marks).map List.reverse
  | _ => none

end MarkReader

def marks? (text : List Char) : Option (List Mark) :=
  (text.foldlM MarkReader.step {}).bind MarkReader.finish?

end GrammarLex.Json
