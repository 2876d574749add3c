import GrammarLex.Format.Dialect
import GrammarLex.Settings.Limits
import GrammarLex.Settings.Preferences
import GrammarLex.Text.Span
import GrammarLex.Token.Basic

/-!
# Records as data

How tokens, places and preferences are written as data, and how tokens, places and the bounds of a
build profile are read. Fields are written in a fixed order, and all that are read here are required.
-/
namespace GrammarLex

/-! ### Kinds, levels and tokens -/

def TokenKind.toDatum (kind : TokenKind) : Datum := .text kind.name

def TokenKind.ofDatum? (dialect : Dialect) : Datum → Option TokenKind :=
  Datum.choice? dialect ofName?

def LogLevel.toDatum (level : LogLevel) : Datum := .text level.name

def Token.toDatum (t : Token) : Datum :=
  .record [("lexeme", .text t.lexeme), ("kind", t.kind.toDatum), ("line", .natural t.line),
    ("column", .natural t.column)]

def Token.ofDatum? (dialect : Dialect) (d : Datum) : Option Token :=
  match d.fields? dialect ["lexeme", "kind", "line", "column"] with
  | some [lexeme, kind, line, column] => do
    return {
      lexeme := ← required? Datum.text? lexeme
      kind := ← required? (TokenKind.ofDatum? dialect) kind
      line := ← required? (Datum.natural? maxWord32) line
      column := ← required? (Datum.natural? maxWord32) column }
  | _ => none

/-! ### Places -/

def Position.toDatum (p : Position) : Datum :=
  .record [("offset", .natural p.offset), ("line", .natural p.line), ("column", .natural p.column)]

def Position.ofDatum? (dialect : Dialect) (d : Datum) : Option Position :=
  match d.fields? dialect ["offset", "line", "column"] with
  | some [offset, line, column] => do
    return {
      offset := ← required? (Datum.natural? maxWord64) offset
      line := ← required? (Datum.natural? maxWord32) line
      column := ← required? (Datum.natural? maxWord32) column }
  | _ => none

def Span.toDatum (s : Span) : Datum :=
  .record [("start", s.start.toDatum), ("end", s.stop.toDatum)]

def Span.ofDatum? (dialect : Dialect) (d : Datum) : Option Span :=
  match d.fields? dialect ["start", "end"] with
  | some [start, stop] => do
    return {
      start := ← required? (Position.ofDatum? dialect) start
      stop := ← required? (Position.ofDatum? dialect) stop }
  | _ => none

/-! ### Preferences -/

def LexicalPreferences.toDatum (p : LexicalPreferences) : Datum :=
  .record [
    ("collect_detailed_metrics", .boolean p.collectDetailedMetrics),
    ("track_kind_patterns", .boolean p.trackKindPatterns),
    ("include_position_in_errors", .boolean p.includePositionInErrors),
    ("log_token_events", .boolean p.logTokenEvents),
    ("accept_carriage_return", .boolean p.acceptCarriageReturn)]

def LoggingPreferences.toDatum (p : LoggingPreferences) : Datum :=
  .record [
    ("use_structured_logging", .boolean p.useStructuredLogging),
    ("enable_console_logging", .boolean p.enableConsoleLogging),
    ("min_log_level", p.minLogLevel.toDatum)]

def RuntimeConfig.toDatum (config : RuntimeConfig) : Datum :=
  .record [("lexical", config.lexical.toDatum), ("logging", config.logging.toDatum)]

/-! ### Bounds -/

def ScanLimits.ofDatum? (dialect : Dialect) (d : Datum) : Option ScanLimits :=
  match d.fields? dialect
    ["max_lexeme_length", "max_token_count", "max_enclosure_depth", "metrics_buffer_size"] with
  | some [lexeme, tokens, depth, metrics] => do
    return {
      maxLexeme := ← required? (Datum.natural? maxWord64) lexeme
      maxTokens := ← required? (Datum.natural? maxWord64) tokens
      maxDepth := ← required? (Datum.natural? maxWord64) depth
      metricsBuffer := ← required? (Datum.natural? maxWord64) metrics }
  | _ => none

def LogLimits.ofDatum? (dialect : Dialect) (d : Datum) : Option LogLimits :=
  match d.fields? dialect
    ["log_buffer_size", "max_log_message_length", "security_min_log_level"] with
  | some [buffer, message, level] => do
    return {
      bufferSize := ← required? (Datum.natural? maxWord64) buffer
      maxMessage := ← required? (Datum.natural? maxWord64) message
      securityLevel := ← required? (Datum.natural? 255) level }
  | _ => none

def Limits.ofDatum? (dialect : Dialect) (d : Datum) : Option Limits :=
  match d.fields? dialect ["lexical", "logging"] with
  | some [scan, log] => do
    return {
      scan := ← required? (ScanLimits.ofDatum? dialect) scan
      log := ← required? (LogLimits.ofDatum? dialect) log }
  | _ => none

/-- The bounds that a TOML document tells. -/
def Toml.limits? (content : String) : Option Limits :=
  (parse? content).bind (Limits.ofDatum? .toml)

end GrammarLex
