import GrammarLex.Format.Digits

/-!
# Texts in TOML

Four ways to write a text: on one line or over many, with escapes between double quotes or verbatim
between single ones. Reading starts behind the opening quotes, goes through the characters once and
yields the text and what follows the closing quotes.
-/
namespace GrammarLex.Toml

def isSpace (c : Char) : Bool := c == ' ' || c == '\t'

/-- A character that may stand as it is in comments and texts: no control character but the tab. -/
def isPlain (c : Char) : Bool := c == '\t' || (0x20 ≤ c.toNat && c.toNat ≠ 0x7F)

/-- The quote of a text, and whether a backslash starts an escape. -/
structure Style where
  -- The character that begins and ends a text.
  quote : Char
  escapes : Bool

def basic : Style := ⟨'"', true⟩

def literal : Style := ⟨'\'', false⟩

def shortEscape? : Char → Option Char
  | 'b' => some '\x08'
  | 't' => some '\t'
  | 'n' => some '\n'
  | 'f' => some '\x0c'
  | 'r' => some '\r'
  | '"' => some '"'
  | '\\' => some '\\'
  | _ => none

inductive Escape where
  | letter
  -- More hexadecimal digits follow: `missing` and the next one.
  | hex (missing value : Nat)

/-- What one more character makes of an escape: an escape still, or the character it stands for. -/
def Escape.step? (c : Char) : Escape → Option (Escape ⊕ Char)
  | .letter =>
    match c with
    | 'u' => some (.inl (.hex 3 0))
    | 'U' => some (.inl (.hex 7 0))
    | c => (shortEscape? c).map .inr
  | .hex missing value => do
    let value := value * 16 + (← Digits.hex? c)
    match missing with
    | 0 => if value.isValidChar then some (.inr (Char.ofNat value)) else none
    | missing + 1 => some (.inl (.hex missing value))

/-! ### Texts on one line -/

/-- Read the rest of a text on one line; `text` holds what has been read of it. -/
def lineTextFrom (style : Style) (escape : Option Escape) (text : String) :
    List Char → Option (String × List Char)
  | [] => none
  | c :: rest =>
    match escape with
    | some escape =>
      match escape.step? c with
      | none => none
      | some (.inl escape) => lineTextFrom style (some escape) text rest
      | some (.inr c) => lineTextFrom style none (text.push c) rest
    | none =>
      if c = style.quote then some (text, rest)
      else if style.escapes && c == '\\' then lineTextFrom style (some .letter) text rest
      else if isPlain c then lineTextFrom style none (text.push c) rest
      else none

def lineText (style : Style) (s : List Char) : Option (String × List Char) :=
  lineTextFrom style none "" s

/-! ### Texts over many lines -/

/-- What the characters read last belong to, in a text over many lines. -/
inductive Block where
  -- The text; its last characters are `quotes` quotes that may end it.
  | body (quotes : Nat)
  -- A carriage return: the newline must follow.
  | newline
  | escape (escape : Escape)
  -- A backslash in front of the end of its line: white space is passed over. Whether the newline
  -- has come is told.
  | gap (broken : Bool)
  -- The carriage return of a newline within a gap.
  | gapNewline

def pushQuotes (style : Style) (count : Nat) (text : String) : String :=
  text.pushn style.quote count

def blockStep? (style : Style) (text : String) (c : Char) : Option (Block × String) :=
  if style.escapes && c == '\\' then some (.escape .letter, text)
  else if c = '\n' then some (.body 0, text.push '\n')
  else if c = '\r' then some (.newline, text)
  else if isPlain c then some (.body 0, text.push c)
  else none

/-- What a character makes of a text; none of it ends the text. -/
def blockNext? (style : Style) (block : Block) (text : String) (c : Char) :
    Option (Block × String) :=
  let here (text : String) : Option (Block × String) :=
    if c = style.quote then some (.body 1, text) else blockStep? style text c
  match block with
  | .body quotes =>
    if c = style.quote then some (.body (quotes + 1), text)
    else blockStep? style (pushQuotes style quotes text) c
  | .newline => if c = '\n' then some (.body 0, text.push '\n') else none
  | .escape .letter =>
    if isSpace c then some (.gap false, text)
    else if c = '\n' then some (.gap true, text)
    else if c = '\r' then some (.gapNewline, text)
    else escaped text (Escape.letter.step? c)
  | .escape escape => escaped text (escape.step? c)
  | .gap broken =>
    if isSpace c then some (.gap broken, text)
    else if c = '\n' then some (.gap true, text)
    else if c = '\r' then some (.gapNewline, text)
    else if broken then here text
    else none
  | .gapNewline => if c = '\n' then some (.gap true, text) else none
where
  -- The text behind a step of an escape.
  escaped (text : String) : Option (Escape ⊕ Char) → Option (Block × String)
    | none => none
    | some (.inl escape) => some (.escape escape, text)
    | some (.inr c) => some (.body 0, text.push c)

/-- Read the rest of a text over many lines. Three quotes end it; up to two more in front of them
belong to it. -/
def blockTextFrom (style : Style) (block : Block) (text : String) :
    List Char → Option (String × List Char)
  | [] =>
    match block with
    | .body quotes => if quotes ≥ 3 then some (pushQuotes style (quotes - 3) text, []) else none
    | _ => none
  | c :: rest =>
    match block with
    | .body quotes =>
      -- Only the character behind a run of quotes shows which three of them end the text.
      if quotes = 5 ∨ (quotes ≥ 3 ∧ c ≠ style.quote) then
        some (pushQuotes style (quotes - 3) text, c :: rest)
      else match blockNext? style block text c with
        | none => none
        | some (block, text) => blockTextFrom style block text rest
    | block =>
      match blockNext? style block text c with
      | none => none
      | some (block, text) => blockTextFrom style block text rest

/-- Read a text over many lines. A newline right behind the opening quotes is no part of it. -/
def blockText (style : Style) : List Char → Option (String × List Char)
  | '\n' :: rest | '\r' :: '\n' :: rest => blockTextFrom style (.body 0) "" rest
  | rest => blockTextFrom style (.body 0) "" rest

end GrammarLex.Toml
