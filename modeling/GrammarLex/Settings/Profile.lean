import GrammarLex.Files.FileTree
import GrammarLex.Settings.Environment
import GrammarLex.Settings.Limits

/-!
# Build profiles

The bounds on scanning and logging come from a profile: a TOML document that is read when a program
is built. How bounds are read from a document is up to a library. The profile is refused when a bound is
zero or out of all reason, and the one for production is held to a tighter bound. An accepted profile
becomes a table of constants.
-/
namespace GrammarLex

/-- Which profile is asked for, and where its document is. -/
structure ProfileRequest where
  name : String
  -- The directory of profiles, below the root.
  directory : String
  root : String
  deriving DecidableEq, Repr

inductive ProfileRefusal where
  | notFound
  | unreadable (reason : FileError)
  | malformed
  -- The bound on lexemes is zero or too large.
  | lexemeOutOfRange
  -- The bound on tokens is zero or too large.
  | tokensOutOfRange
  -- The bound on open constructs is zero or too large.
  | depthOutOfRange
  -- The level that security asks for is too talkative.
  | levelTooHigh
  -- The bound on lexemes is too large for production.
  | lexemeTooLongForProduction
  deriving DecidableEq, Repr

namespace ProfileRequest

/-- What the environment asks for: the profile for development in the directory `config` unless it
says otherwise. -/
def ofEnvironment (env : Environment) (root : String) : ProfileRequest where
  name := (env.get? "GBNF_BUILD_PROFILE").getD "development"
  directory := (env.get? "GBNF_CONFIG_DIR").getD "config"
  root := root

def path (request : ProfileRequest) : String :=
  joinPath (joinPath request.root request.directory) (request.name ++ ".toml")

/-- Where the constants of a built program come from, in words. -/
def source (request : ProfileRequest) : String :=
  "Generated from " ++ request.directory ++ "/" ++ request.name ++ ".toml"

def complaint (request : ProfileRequest) : ProfileRefusal → String
  | .notFound =>
    "Configuration file not found: " ++ request.path ++ "\nWorkspace root: " ++ request.root ++
      "\nLooking for: " ++ request.root ++ "/" ++ request.directory ++ "/" ++ request.name ++
      ".toml"
  | .unreadable reason => "Failed to read " ++ request.path ++ ": " ++ reason.message
  | .malformed => "Invalid TOML in " ++ request.path
  | .lexemeOutOfRange => "SECURITY: max_lexeme_length out of range"
  | .tokensOutOfRange => "SECURITY: max_token_count out of range"
  | .depthOutOfRange => "SECURITY: max_enclosure_depth out of range"
  | .levelTooHigh => "SECURITY: security_min_log_level too high (max: 2)"
  | .lexemeTooLongForProduction => "PRODUCTION: max_lexeme_length too high for production"

/-- What is announced, line by line, while the profile is looked for: what the constants depend
on. -/
def announcements (request : ProfileRequest) : List String :=
  ["cargo:rerun-if-changed=build.rs",
    "cargo:rerun-if-env-changed=GBNF_BUILD_PROFILE",
    "cargo:rerun-if-env-changed=GBNF_CONFIG_DIR",
    "cargo:rerun-if-changed=" ++ request.path]

end ProfileRequest

namespace Limits

/-- The first thing that forbids building with these bounds under the name of a profile. -/
def refusal? (name : String) (limits : Limits) : Option ProfileRefusal :=
  if limits.scan.maxLexeme = 0 ∨ limits.scan.maxLexeme > 100000000 then some .lexemeOutOfRange
  else if limits.scan.maxTokens = 0 ∨ limits.scan.maxTokens > 10000000 then some .tokensOutOfRange
  else if limits.scan.maxDepth = 0 ∨ limits.scan.maxDepth > 100000 then some .depthOutOfRange
  else if limits.log.securityLevel > 2 then some .levelTooHigh
  else if name = "production" ∧ limits.scan.maxLexeme > 1000000 then
    some .lexemeTooLongForProduction
  else none

/-- The constants of a profile, as source text. -/
def constants (name : String) (limits : Limits) : String :=
  let constant (key kind : String) (value : Nat) : String :=
    "        pub const " ++ key ++ ": " ++ kind ++ " = " ++ toString value ++ ";\n"
  "\n// Generated compile-time constants from TOML configuration\n// Profile: " ++ name ++
    "\n// DO NOT EDIT - Generated by build.rs\n\n" ++
    "pub mod compile_time \x7b\n    pub mod lexical \x7b\n" ++
    constant "MAX_LEXEME_LENGTH" "usize" limits.scan.maxLexeme ++
    constant "MAX_TOKEN_COUNT" "usize" limits.scan.maxTokens ++
    constant "MAX_ENCLOSURE_DEPTH" "usize" limits.scan.maxDepth ++
    constant "METRICS_BUFFER_SIZE" "usize" limits.scan.metricsBuffer ++
    "    \x7d\n\n    pub mod logging \x7b\n" ++
    constant "LOG_BUFFER_SIZE" "usize" limits.log.bufferSize ++
    constant "MAX_LOG_MESSAGE_LENGTH" "usize" limits.log.maxMessage ++
    constant "SECURITY_MIN_LOG_LEVEL" "u8" limits.log.securityLevel ++
    "    \x7d\n\x7d\n"

end Limits

namespace ProfileRequest

/-- Read the profile with a library that reads bounds from a text, and check them. -/
def load (request : ProfileRequest) (read? : String → Option Limits) (tree : FileTree) :
    Except ProfileRefusal Limits := do
  if !tree.contains request.path then throw .notFound
  let content ← (tree.readText request.path).mapError ProfileRefusal.unreadable
  match read? content with
  | none => throw .malformed
  | some limits =>
    match limits.refusal? request.name with
    | some refusal => throw refusal
    | none => return limits

def generate (request : ProfileRequest) (read? : String → Option Limits) (tree : FileTree) :
    Except ProfileRefusal String := do
  return (← request.load read? tree).constants request.name

end ProfileRequest

end GrammarLex
