/-!
# The registry of codes

Every event carries a code. The registered codes have a category, a severity, advice for the reader
and flags that say how to go on.
-/
namespace GrammarLex

/-- How bad a registered condition is, worst first. -/
inductive Severity where
  | critical
  | high
  -- Something falls back to a default.
  | medium
  | low
  deriving DecidableEq, Repr

namespace Severity

def name : Severity → String
  | .critical => "Critical"
  | .high => "High"
  | .medium => "Medium"
  | .low => "Low"

def rank : Severity → Nat
  | .critical => 0
  | .high => 1
  | .medium => 2
  | .low => 3

def compare (a b : Severity) : Ordering := Ord.compare a.rank b.rank

end Severity

structure CodeRecord where
  code : String
  -- The part of the library it belongs to.
  category : String
  severity : Severity
  recoverable : Bool
  requiresHalt : Bool
  description : String
  recommendedAction : String
  deriving DecidableEq, Repr

namespace Code

def internalError : String := "ERR001"

def initializationFailure : String := "ERR002"

def configReadError : String := "E005"

def configParseError : String := "E006"

def unexpectedCharacter : String := "E020"

def unclosedConstruct : String := "E021"

def initialized : String := "I004"

def configurationLoaded : String := "I010"

def scanComplete : String := "I020"

def plainWarning : String := "W000"

def plainInfo : String := "I000"

def plainDebug : String := "D000"

def lexical : List String :=
  ["E020", "E021", "E022", "E023", "E024", "E025", "E026", "E027"]

/-- The codes without which nothing is to be logged. -/
def required : List String := [internalError, unexpectedCharacter, scanComplete]

def registry : List CodeRecord := [
  ⟨"ERR001", "System", .critical, false, true, "Critical internal system error",
    "File a bug report with the input that triggered it"⟩,
  ⟨"ERR002", "System", .critical, false, true, "System initialization failure",
    "Check logging configuration and initialise it only once"⟩,
  ⟨"E005", "Configuration", .medium, true, false, "Runtime configuration file could not be read",
    "Check the configuration path and file permissions"⟩,
  ⟨"E006", "Configuration", .medium, true, false, "Runtime configuration file is not valid TOML",
    "Fix the reported key or remove it to use the default"⟩,
  ⟨"E020", "Lexical", .high, false, true, "Character not allowed at this point of the grammar",
    "Check operators such as '::=' and the shape of action blocks"⟩,
  ⟨"E021", "Lexical", .low, true, false,
    "Input ended while a quoted, angle-bracket, group or action construct was open",
    "Close every opened construct before the end of the grammar"⟩,
  ⟨"E022", "Lexical", .high, false, true,
    "Closing delimiter does not match the innermost open group",
    "Balance '(' with ')' and '[' with ']'"⟩,
  ⟨"E023", "Lexical", .low, true, false, "Soft expectation check failed",
    "None; the lexer falls back to another interpretation"⟩,
  ⟨"E024", "Lexical", .high, false, true, "Input is not valid UTF-8 or could not be read",
    "Re-encode the grammar as UTF-8 and check the input source"⟩,
  ⟨"E025", "Lexical", .high, false, true, "Lexeme exceeds the compile-time length limit",
    "Split the symbol or raise max_lexeme_length in the build profile"⟩,
  ⟨"E026", "Lexical", .high, false, true, "Token count exceeds the compile-time limit",
    "Split the grammar or raise max_token_count in the build profile"⟩,
  ⟨"E027", "Lexical", .high, false, true, "Enclosure nesting exceeds the compile-time depth limit",
    "Flatten nested groups or raise max_enclosure_depth"⟩,
  ⟨"I004", "System", .low, true, false, "System initialization completed", "No action required"⟩,
  ⟨"I010", "Configuration", .low, true, false, "Runtime configuration loaded",
    "No action required"⟩,
  ⟨"I020", "Lexical", .low, true, false, "Tokenization completed successfully",
    "Token stream ready for parsing"⟩]

def record? (code : String) : Option CodeRecord :=
  registry.find? fun entry => entry.code == code

def description (code : String) : String :=
  ((record? code).map CodeRecord.description).getD "Unknown error"

/-- What is missing from the registry for anything to be logged, in words. -/
def requiredComplaint? : Option String :=
  (required.find? fun code => description code == "Unknown error").map fun code =>
    "Missing metadata for code: " ++ code

/-- What is missing from the registry for scanning to be logged, in words. -/
def lexicalComplaint? : Option String :=
  (lexical.find? fun code => (record? code).isNone).map fun code =>
    "Lexical error code " ++ code ++ " not found in metadata registry"

/-- What is missing from the registry for scanning errors to be explained, in words. -/
def descriptionComplaint? : Option String :=
  (lexical.find? fun code => description code == "Unknown error").map fun code =>
    "Lexical error code " ++ code ++ " has no description"

end Code

end GrammarLex
