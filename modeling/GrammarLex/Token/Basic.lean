import GrammarLex.Text.Position
import GrammarLex.Token.Kind

/-!
# Tokens

A token is a lexeme with its kind and the place where its construct starts.
-/
namespace GrammarLex

/-- A recognised piece of grammar text. -/
structure Token where
  -- The text of the token, without delimiters.
  lexeme : String
  kind : TokenKind
  -- Line of the construct's first character.
  line : Nat
  -- Column of the construct's first character.
  column : Nat
  deriving DecidableEq, Repr, Inhabited

namespace Token

def ofPosition (lexeme : String) (kind : TokenKind) (p : Position) : Token :=
  ⟨lexeme, kind, p.line, p.column⟩

def isEndOfStream (t : Token) : Bool := t.kind = .endOfStream

/-- A token on one line: lexeme, kind, line and column. -/
def render (t : Token) : String :=
  "[" ++ t.lexeme ++ ":" ++ t.kind.name ++ ":" ++ toString t.line ++ ":" ++ toString t.column ++ "]"

/-- The place of the first token lies before the place of the second. -/
def before (a b : Token) : Bool :=
  a.line < b.line || (a.line == b.line && a.column < b.column)

end Token

/-- The first neighbouring pair of tokens whose places run backwards. -/
def misplacedPair? : List Token → Option (Token × Token)
  | first :: second :: rest =>
    if second.before first then some (first, second) else misplacedPair? (second :: rest)
  | _ => none

/-- What is wrong with the order of the tokens' places, in words. -/
def orderComplaint? (tokens : List Token) : Option String :=
  (misplacedPair? tokens).map fun (first, second) =>
    "Position order violation: " ++ first.render ++ " is followed by " ++ second.render

def endMarkers (tokens : List Token) : Nat := tokens.countP Token.isEndOfStream

/-- What is wrong with the end of the token list, in words: it must close with its only end
marker. -/
def endComplaint? (tokens : List Token) : Option String :=
  let closed := tokens.getLast?.any Token.isEndOfStream
  if closed && endMarkers tokens == 1 then none
  else some ("Expected exactly one trailing EndOfStream, found " ++ toString (endMarkers tokens))

end GrammarLex
