import GrammarLex.Journal.Service

/-!
# Logging stations

A station is where all parts of a program log. Its preferences and its service are each installed at
most once. Until a service is installed notices go nowhere, so that scanning needs no logging; only
errors that are reported safely are then printed.

A panic in the service is noted, and the station goes on as one would that caught it. What it does
afterwards counts only as long as there was none.
-/
namespace GrammarLex

structure Station where
  -- The variables that built-in preferences depend on.
  environment : Environment := {}
  limits : Limits := .development
  -- The preferences that were installed.
  installed : Option LoggingPreferences := none
  service : Option Service := none
  -- The lines printed and not yet collected, the latest first.
  printed : List Line := []
  -- The service has panicked.
  panicked : Bool := false
  deriving Repr

inductive StationRefusal where
  -- The bounds of the build profile are unusable.
  | unusableLimits (complaint : String)
  | serviceInstalled
  | preferencesInstalled
  | incompleteRegistry (complaint : String)
  deriving DecidableEq, Repr

def StationRefusal.message : StationRefusal → String
  | .unusableLimits complaint => "Configuration validation failed: " ++ complaint
  | .serviceInstalled => "Global logger already initialized"
  | .preferencesInstalled => "Runtime preferences already initialized"
  | .incompleteRegistry complaint => complaint

namespace Station

/-- A request to a station. It may be refused, and what it changed stays changed. -/
abbrev Action (α : Type) := EStateM StationRefusal Station α

def preferences (s : Station) : LoggingPreferences :=
  s.installed.getD (.ofEnvironment s.environment)

def securityLevel (s : Station) : LogLevel := .ofRank s.limits.log.securityLevel

/-- The level in force: the preferred one, but at least the one that security asks for. -/
def level (s : Station) : LogLevel := s.preferences.minLogLevel.max s.securityLevel

def isInitialized (s : Station) : Bool := s.service.isSome

/-- What makes scanning unusable here, in words: a code without a description, or a bound. -/
def scanComplaint? (s : Station) : Option String :=
  Code.descriptionComplaint?.orElse fun _ => s.limits.scan.complaint?

def configuredService (s : Station) : Service := .configured s.limits.log s.preferences s.level

/-- The lines printed and not yet collected, in order. -/
def lines (s : Station) : List Line := s.printed.reverse

/-- Forget the lines; they have been collected. -/
def clearLines (s : Station) : Station := { s with printed := [] }

/-- Note what comes of an entry. -/
def note (effect : Effect) (s : Station) : Station :=
  match effect with
  | .silent => s
  | .prints line => { s with printed := line :: s.printed }
  | .panics => { s with panicked := true }

def entry (s : Station) (now : Instant) (notice : Notice) : Entry :=
  .ofNotice s.limits.log.maxMessage now notice

/-! ### Logging -/

def log (now : Instant) (notice : Notice) (s : Station) : Station :=
  match s with
  | ⟨environment, limits, installed, some service, printed, panicked⟩ =>
    match service.log (.ofNotice limits.log.maxMessage now notice) with
    | (service, effect) =>
      note effect ⟨environment, limits, installed, some service, printed, panicked⟩
  | s => s

/-- Hand a notice to the service. One for developers is not even looked at unless the level in force
asks for it. -/
def publish (now : Instant) (s : Station) (notice : Notice) : Station :=
  if notice.level = .debug ∧ s.level < .debug then s else s.log now notice

def publishAll (now : Instant) (notices : List Notice) (s : Station) : Station :=
  notices.foldl (publish now) s

/-- Report an error to the service, or print it when there is none. -/
def reportError (now : Instant) (code message : String) (s : Station) : Station :=
  if s.isInitialized then s.log now (.error code message)
  else s.note (.prints ⟨.err, .plain ("[ERROR] FALLBACK: [" ++ code ++ "] " ++ message)⟩)

/-! ### Installing -/

def installPreferences (preferences : LoggingPreferences) : Action Unit := fun s =>
  match s.installed with
  | some _ => .error .preferencesInstalled s
  | none => .ok () { s with installed := some preferences }

def installService (service : Service) : Action Unit := fun s =>
  match s.service with
  | some _ => .error .serviceInstalled s
  | none => .ok () { s with service := some service }

/-- Install the service that the preferences in force ask for, and say so. The codes it will need are
looked up only then. -/
def setUp (now : Instant) : Action Unit := fun s =>
  match s.limits.log.complaint? with
  | some complaint =>
    let refusal := StationRefusal.unusableLimits complaint
    .error refusal (s.reportError now Code.initializationFailure refusal.message)
  | none =>
    match installService s.configuredService s with
    | .error refusal s => .error refusal s
    | .ok () s =>
      match Code.requiredComplaint? with
      | some complaint => .error (.incompleteRegistry complaint) s
      | none => .ok () (s.log now (.success Code.initialized "Global logging system initialized"))

/-- Install preferences, then the service they ask for. The preferences stay installed even if the
service is refused. -/
def setUpWith (now : Instant) (preferences : LoggingPreferences) : Action Unit := do
  installPreferences preferences
  setUp now

/-- Check that scanning errors are registered, and note the bounds on scanning. -/
def announceScanning (now : Instant) : Action Unit := fun s =>
  match Code.lexicalComplaint? with
  | some complaint => .error (.incompleteRegistry complaint) s
  | none =>
    let limits := s.limits.scan
    .ok () (s.publish now ((Notice.debug "Lexical security limits initialized")
      |>.detail "max_lexeme_length" (toString limits.maxLexeme)
      |>.detail "max_token_count" (toString limits.maxTokens)
      |>.detail "max_enclosure_depth" (toString limits.maxDepth)))

end Station

end GrammarLex
