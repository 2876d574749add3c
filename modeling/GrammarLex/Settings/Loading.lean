import GrammarLex.Files.FileTree
import GrammarLex.Format.Library
import GrammarLex.Format.Records
import GrammarLex.Format.Toml.Sections
import GrammarLex.Journal.Station

/-!
# Loading preferences

Preferences are written as a TOML document with one section for scanning and one for logging. They are
declared here, field by field, and a library derives how they are read. What a document does not say
comes from the environment. Loading a file is logged, whatever comes of it.
-/
namespace GrammarLex

inductive ConfigError where
  | unreadable (path : String) (reason : FileError)
  | malformed
  deriving DecidableEq, Repr

namespace ConfigError

def message : ConfigError → String
  | .unreadable path reason =>
    "Cannot read configuration file '" ++ path ++ "': " ++ reason.message
  | .malformed => "Invalid configuration: not a document of preferences"

def code : ConfigError → String
  | .unreadable .. => Code.configReadError
  | .malformed => Code.configParseError

end ConfigError

/-! ### Declarations -/

def LogLevel.read? (lib : Library) : lib.Value → Option LogLevel := lib.choice? variants

namespace LexicalPreferences

def fields (lib : Library) : List (Field lib.Value LexicalPreferences) := [
  .of "collect_detailed_metrics" lib.flag? fun value p => { p with collectDetailedMetrics := value },
  .of "track_kind_patterns" lib.flag? fun value p => { p with trackKindPatterns := value },
  .of "include_position_in_errors" lib.flag? fun value p => { p with includePositionInErrors := value },
  .of "log_token_events" lib.flag? fun value p => { p with logTokenEvents := value },
  .of "accept_carriage_return" lib.flag? fun value p => { p with acceptCarriageReturn := value }]

/-- Read choices about scanning; the environment has those that are missing. -/
def read? (lib : Library) (env : Environment) : lib.Value → Option LexicalPreferences :=
  lib.record? (fields lib) (.ofEnvironment env)

end LexicalPreferences

namespace LoggingPreferences

def fields (lib : Library) : List (Field lib.Value LoggingPreferences) := [
  .of "use_structured_logging" lib.flag? fun value p => { p with useStructuredLogging := value },
  .of "enable_console_logging" lib.flag? fun value p => { p with enableConsoleLogging := value },
  .of "min_log_level" (LogLevel.read? lib) fun level p => { p with minLogLevel := level }]

/-- Read choices about logging; the environment has those that are missing. -/
def read? (lib : Library) (env : Environment) : lib.Value → Option LoggingPreferences :=
  lib.record? (fields lib) (.ofEnvironment env)

end LoggingPreferences

namespace RuntimeConfig

def fields (lib : Library) (env : Environment) : List (Field lib.Value RuntimeConfig) := [
  .of "lexical" (LexicalPreferences.read? lib env) fun lexical config => { config with lexical },
  .of "logging" (LoggingPreferences.read? lib env) fun logging config => { config with logging }]

/-- Read all choices; the environment has those that are missing. -/
def read? (lib : Library) (env : Environment) : lib.Value → Option RuntimeConfig :=
  lib.record? (fields lib env) (.ofEnvironment env)

/-! ### Documents -/

def ofToml (lib : Library) (env : Environment) (content : String) : Except ConfigError RuntimeConfig :=
  match (lib.parse? content).bind (read? lib env) with
  | some config => .ok config
  | none => .error .malformed

def toToml (config : RuntimeConfig) : String := Toml.renderSections config.toDatum

def ofFile (lib : Library) (env : Environment) (tree : FileTree) (path : String) :
    Except ConfigError RuntimeConfig :=
  match tree.readText path with
  | .ok content => ofToml lib env content
  | .error reason => .error (.unreadable path reason)

end RuntimeConfig

namespace Station

/-- Read a file of preferences, and log what came of it. The preferences are not installed. -/
def loadConfig (lib : Library) (now : Instant) (tree : FileTree) (path : String) (s : Station) :
    Except ConfigError RuntimeConfig × Station :=
  -- The environment fills in what the file leaves open, not the installed preferences.
  let loaded := RuntimeConfig.ofFile lib s.environment tree path
  let notice := match loaded with
    | .ok _ => Notice.success Code.configurationLoaded "Runtime configuration loaded"
    | .error e => .error e.code e.message
  (loaded, s.publish now (notice.detail "path" path))

end Station

end GrammarLex
