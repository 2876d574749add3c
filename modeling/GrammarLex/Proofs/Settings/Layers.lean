import GrammarLex.Proofs.Format.Library
import GrammarLex.Settings.Loading

/-!
# Layers of preferences

Each preference is chosen by the first of three layers that speaks of it: the document, the environment
and the built-in choices. The layers are laid over each other preference by preference, so a document
that speaks of one leaves the others to the layers below. It is refused only where it speaks of a
preference, or of a group of them, in a form that has no meaning. All this holds of every library that
derives readers as documented.
-/
namespace GrammarLex

/-- What a user may choose. -/
inductive Preference where
  | detailedMetrics
  | kindPatterns
  | positionsInErrors
  | tokenEvents
  | carriageReturn
  | structuredLogging
  | consoleLogging
  -- The only one that is no flag.
  | minLevel

inductive Choice where
  | flag (value : Bool)
  | level (value : LogLevel)

def RuntimeConfig.choice (config : RuntimeConfig) : Preference → Choice
  | .detailedMetrics => .flag config.lexical.collectDetailedMetrics
  | .kindPatterns => .flag config.lexical.trackKindPatterns
  | .positionsInErrors => .flag config.lexical.includePositionInErrors
  | .tokenEvents => .flag config.lexical.logTokenEvents
  | .carriageReturn => .flag config.lexical.acceptCarriageReturn
  | .structuredLogging => .flag config.logging.useStructuredLogging
  | .consoleLogging => .flag config.logging.enableConsoleLogging
  | .minLevel => .level config.logging.minLogLevel

theorem RuntimeConfig.eq_of_choice {config config' : RuntimeConfig}
    (same : ∀ p, config.choice p = config'.choice p) : config = config' := by
  obtain ⟨⟨metrics, kinds, positions, tokens, returns⟩, ⟨structured, console, level⟩⟩ := config
  obtain ⟨⟨metrics', kinds', positions', tokens', returns'⟩, ⟨structured', console', level'⟩⟩ :=
    config'
  cases same .detailedMetrics
  cases same .kindPatterns
  cases same .positionsInErrors
  cases same .tokenEvents
  cases same .carriageReturn
  cases same .structuredLogging
  cases same .consoleLogging
  cases same .minLevel
  rfl

namespace Preference

/-- What is fixed about a preference: the name of its group, its place in the group, its key there,
the variable that stands for it, and the built-in choice. -/
structure Row where
  group : String
  place : Nat
  key : String
  variableName : String
  builtIn : Choice

def row : Preference → Row
  | .detailedMetrics =>
    ⟨"lexical", 0, "collect_detailed_metrics", "GBNF_LEXICAL_DETAILED_METRICS", .flag true⟩
  | .kindPatterns => ⟨"lexical", 1, "track_kind_patterns", "GBNF_LEXICAL_TRACK_KINDS", .flag false⟩
  | .positionsInErrors =>
    ⟨"lexical", 2, "include_position_in_errors", "GBNF_LEXICAL_INCLUDE_POSITIONS", .flag true⟩
  | .tokenEvents => ⟨"lexical", 3, "log_token_events", "GBNF_LEXICAL_LOG_TOKENS", .flag false⟩
  | .carriageReturn =>
    ⟨"lexical", 4, "accept_carriage_return", "GBNF_LEXICAL_ACCEPT_CR", .flag true⟩
  | .structuredLogging =>
    ⟨"logging", 0, "use_structured_logging", "GBNF_LOGGING_USE_STRUCTURED", .flag false⟩
  | .consoleLogging =>
    ⟨"logging", 1, "enable_console_logging", "GBNF_LOGGING_ENABLE_CONSOLE", .flag false⟩
  | .minLevel => ⟨"logging", 2, "min_log_level", "GBNF_LOGGING_MIN_LEVEL", .level .info⟩

/-- The value says the choice, in the form of the preference. -/
inductive States (lib : Library) : Preference → lib.Value → Choice → Prop where
  | flag {p : Preference} {v : lib.Value} {value : Bool} (isFlag : p ≠ .minLevel)
      (told : lib.flag? v = some value) : States lib p v (.flag value)
  | level {v : lib.Value} {level : LogLevel} (told : lib.name? v = some level.name) :
      States lib .minLevel v (.level level)

end Preference

/-- How a level is spelled in the environment. -/
def LogLevel.words : LogLevel → List String
  | .error => ["error", "0"]
  | .warning => ["warning", "warn", "1"]
  | .info => ["info", "2"]
  | .debug => ["debug", "3"]

/-- The text spells the choice, in the form of the preference. A level may have letters of any case. -/
inductive Preference.Spells : Preference → String → Choice → Prop where
  | yes {p : Preference} (isFlag : p ≠ .minLevel) : Spells p "true" (.flag true)
  | no {p : Preference} (isFlag : p ≠ .minLevel) : Spells p "false" (.flag false)
  | level {level : LogLevel} {word text : String} (known : word ∈ level.words)
      (folded : text.toList.map Char.toLower = word.toList) : Spells .minLevel text (.level level)

/-! ### Layers -/

namespace Library

variable (lib : Library)

/-- What a document says of a preference. -/
def said? (d : lib.Value) (p : Preference) : Option lib.Value :=
  ((lib.present d).under? p.row.group).bind fun g => (lib.present g).field? p.row.place p.row.key

/-- The group of a preference is there and has not the form of a record. -/
def SpoilsGroup (d : lib.Value) (p : Preference) : Prop :=
  ∃ g, (lib.present d).under? p.row.group = some g ∧ lib.present g = .neither

/-- A key that is known holds a value of the wrong shape. -/
inductive Misshapen (d : lib.Value) : Prop
  | group {p : Preference} (spoilt : lib.SpoilsGroup d p)
  | field {p : Preference} {v : lib.Value} (found : lib.said? d p = some v)
      (wrong : ∀ c, ¬p.States lib v c)

variable {lib}

/-- Whether a document is misshapen depends on what it holds under keys that are known. -/
theorem misshapen_congr {d d' : lib.Value}
    (same : ∀ p, lib.said? d' p = lib.said? d p ∧ (lib.SpoilsGroup d' p ↔ lib.SpoilsGroup d p)) :
    lib.Misshapen d' ↔ lib.Misshapen d := by
  constructor
  · intro misshapen
    cases misshapen with
    | group spoilt => exact .group ((same _).2.mp spoilt)
    | field found wrong => exact .field ((same _).1.symm.trans found) wrong
  · intro misshapen
    cases misshapen with
    | group spoilt => exact .group ((same _).2.mpr spoilt)
    | field found wrong => exact .field ((same _).1.trans found) wrong

end Library

/-- The variable of a preference is set to something that spells a choice. -/
def Environment.Sets (env : Environment) (p : Preference) (c : Choice) : Prop :=
  ∃ text, env.get? p.row.variableName = some text ∧ p.Spells text c

/-- What is chosen for a preference, by the first layer that speaks of it. -/
inductive Layered (lib : Library) (env : Environment) (d : lib.Value) (p : Preference) : Choice → Prop where
  | document {v : lib.Value} {c : Choice} (found : lib.said? d p = some v) (states : p.States lib v c) :
      Layered lib env d p c
  | environment {c : Choice} (silent : lib.said? d p = none) (sets : env.Sets p c) :
      Layered lib env d p c
  | builtIn (silent : lib.said? d p = none) (unset : ∀ c, ¬env.Sets p c) :
      Layered lib env d p p.row.builtIn

/-! ### Single values -/

theorem LogLevel.lookup_variants_eq_some_iff {text : String} {level : LogLevel} :
    variants.lookup text = some level ↔ text = level.name := by
  constructor
  · intro known
    obtain ⟨before, behind, variants_eq, -⟩ := List.lookup_eq_some_iff.mp known
    have member : (text, level) ∈ variants := variants_eq ▸ List.mem_append_right _ List.mem_cons_self
    obtain ⟨_, -, same⟩ := List.mem_map.mp member
    cases same
    rfl
  · rintro rfl
    cases level <;> rfl

theorem LogLevel.read?_eq_some_iff {lib : Library} (documented : lib.Documented) {v : lib.Value}
    {level : LogLevel} : read? lib v = some level ↔ lib.name? v = some level.name := by
  rw [read?, documented.choice_named, Option.bind_eq_some_iff]
  simp only [lookup_variants_eq_some_iff]
  constructor
  · rintro ⟨_, named, rfl⟩
    exact named
  · intro named
    exact ⟨_, named, rfl⟩

theorem LogLevel.ofWord?_eq_some_iff {text : String} {level : LogLevel} :
    ofWord? text = some level ↔
      ∃ word ∈ level.words, text.toList.map Char.toLower = word.toList := by
  constructor
  · intro known
    have folded {word : String} (same : String.ofList (text.toList.map Char.toLower) = word) :
        text.toList.map Char.toLower = word.toList := same ▸ String.toList_ofList.symm
    unfold ofWord? at known
    split at known
    next same => cases known; exact ⟨_, .head _, folded same⟩
    next same => cases known; exact ⟨_, .tail _ (.head _), folded same⟩
    next same => cases known; exact ⟨_, .head _, folded same⟩
    next same => cases known; exact ⟨_, .tail _ (.head _), folded same⟩
    next same => cases known; exact ⟨_, .tail _ (.tail _ (.head _)), folded same⟩
    next same => cases known; exact ⟨_, .head _, folded same⟩
    next same => cases known; exact ⟨_, .tail _ (.head _), folded same⟩
    next same => cases known; exact ⟨_, .head _, folded same⟩
    next same => cases known; exact ⟨_, .tail _ (.head _), folded same⟩
    next => cases known
  · rintro ⟨word, known, folded⟩
    unfold ofWord?
    rw [folded, String.ofList_toList]
    revert word
    cases level <;> simp [words]

namespace Preference

variable {lib : Library} {p : Preference} {v : lib.Value} {text : String} {c : Choice}

/-- A value is read in the form of the preference. -/
def read? (lib : Library) : Preference → lib.Value → Option Choice
  | .minLevel, v => (LogLevel.read? lib v).map .level
  | _, v => (lib.flag? v).map .flag

def parse? : Preference → String → Option Choice
  | .minLevel, text => (LogLevel.ofWord? text).map .level
  | _, text => (Environment.parseFlag? text).map .flag

theorem read?_of_flag (isFlag : p ≠ .minLevel) (v : lib.Value) :
    p.read? lib v = (lib.flag? v).map .flag := by
  unfold read?
  split
  · exact absurd rfl isFlag
  · rfl

theorem parse?_of_flag (isFlag : p ≠ .minLevel) (text : String) :
    p.parse? text = (Environment.parseFlag? text).map .flag := by
  unfold parse?
  split
  · exact absurd rfl isFlag
  · rfl

theorem read?_eq_some_iff (documented : lib.Documented) :
    p.read? lib v = some c ↔ p.States lib v c := by
  by_cases level : p = .minLevel
  · subst level
    constructor
    · intro read
      obtain ⟨level, known, rfl⟩ := Option.map_eq_some_iff.mp read
      exact .level ((LogLevel.read?_eq_some_iff documented).mp known)
    · intro states
      cases states with
      | flag isFlag => exact absurd rfl isFlag
      | level told =>
        exact Option.map_eq_some_iff.mpr ⟨_, (LogLevel.read?_eq_some_iff documented).mpr told, rfl⟩
  · rw [read?_of_flag level]
    constructor
    · intro read
      obtain ⟨value, told, rfl⟩ := Option.map_eq_some_iff.mp read
      exact .flag level told
    · intro states
      cases states with
      | flag _ told => exact Option.map_eq_some_iff.mpr ⟨_, told, rfl⟩
      | level => exact absurd rfl level

theorem parse?_eq_some_iff : p.parse? text = some c ↔ p.Spells text c := by
  by_cases level : p = .minLevel
  · subst level
    constructor
    · intro parsed
      obtain ⟨level, known, rfl⟩ := Option.map_eq_some_iff.mp parsed
      obtain ⟨word, known, folded⟩ := LogLevel.ofWord?_eq_some_iff.mp known
      exact .level known folded
    · intro spells
      cases spells with
      | yes isFlag => exact absurd rfl isFlag
      | no isFlag => exact absurd rfl isFlag
      | level known folded =>
        exact Option.map_eq_some_iff.mpr ⟨_, LogLevel.ofWord?_eq_some_iff.mpr ⟨_, known, folded⟩, rfl⟩
  · rw [parse?_of_flag level]
    constructor
    · intro parsed
      obtain ⟨value, known, rfl⟩ := Option.map_eq_some_iff.mp parsed
      unfold Environment.parseFlag? at known
      split at known
      next => cases known; exact .yes level
      next => cases known; exact .no level
      next => cases known
    · intro spells
      cases spells with
      | yes => rfl
      | no => rfl
      | level => exact absurd rfl level

end Preference

namespace Environment

/-- What the environment chooses for a preference. -/
def choice? (env : Environment) (p : Preference) : Option Choice :=
  (env.get? p.row.variableName).bind p.parse?

theorem choice?_eq_some_iff {env : Environment} {p : Preference} {c : Choice} :
    env.choice? p = some c ↔ env.Sets p c := by
  rw [choice?, Option.bind_eq_some_iff]
  simp only [Preference.parse?_eq_some_iff]
  rfl

end Environment

/-- What is chosen for a preference, unless the document speaks of it in a form without meaning. -/
def choose? (lib : Library) (env : Environment) (d : lib.Value) (p : Preference) : Option Choice :=
  optional? ((env.choice? p).getD p.row.builtIn) (p.read? lib) (lib.said? d p)

section

variable {lib : Library} {env : Environment} {d : lib.Value} {p : Preference}

theorem choose?_eq_some_iff (documented : lib.Documented) {c : Choice} :
    choose? lib env d p = some c ↔ Layered lib env d p c := by
  constructor
  · intro chosen
    unfold choose? at chosen
    cases found : lib.said? d p with
    | some v =>
      rw [found] at chosen
      exact .document found ((Preference.read?_eq_some_iff documented).mp chosen)
    | none =>
      rw [found] at chosen
      cases set : env.choice? p with
      | some c' =>
        rw [set] at chosen
        cases chosen
        exact .environment found (Environment.choice?_eq_some_iff.mp set)
      | none =>
        rw [set] at chosen
        cases chosen
        refine .builtIn found fun c sets => ?_
        cases set.symm.trans (Environment.choice?_eq_some_iff.mpr sets)
  · intro layered
    unfold choose?
    cases layered with
    | document found states =>
      rw [found]
      exact (Preference.read?_eq_some_iff documented).mpr states
    | environment silent sets =>
      rw [silent, Environment.choice?_eq_some_iff.mpr sets]
      rfl
    | builtIn silent unset =>
      have set : env.choice? p = none :=
        Option.eq_none_iff_forall_ne_some.mpr fun c set => unset c (Environment.choice?_eq_some_iff.mp set)
      rw [silent, set]
      rfl

theorem choose?_eq_none_iff (documented : lib.Documented) :
    choose? lib env d p = none ↔ ∃ v, lib.said? d p = some v ∧ ∀ c, ¬p.States lib v c := by
  unfold choose?
  cases found : lib.said? d p with
  | none => simp [optional?]
  | some v =>
    simp only [optional?, Option.some.injEq, exists_eq_left', ← Preference.read?_eq_some_iff documented]
    exact Option.eq_none_iff_forall_ne_some

end

/-! ### Values on their own -/

/-- A flag, with what the environment says of it in reserve. -/
def flag? (lib : Library) (env : Environment) (d : lib.Value) (p : Preference) (builtIn : Bool) :
    Option Bool :=
  optional? (env.flag p.row.variableName builtIn) lib.flag? (lib.said? d p)

def minLevel? (lib : Library) (env : Environment) (d : lib.Value) : Option LogLevel :=
  optional? (LoggingPreferences.ofEnvironment env).minLogLevel (LogLevel.read? lib)
    (lib.said? d .minLevel)

/-- To choose in the form of a preference is to choose a value and to put it in that form. -/
private theorem optional?_map {Value α : Type} (form : α → Choice) (builtIn : α)
    (known : Option String) (parse? : String → Option α) (read? : Value → Option α)
    (field : Option Value) :
    optional? ((known.bind fun text => (parse? text).map form).getD (form builtIn))
        (fun v => (read? v).map form) field =
      (optional? ((known.bind parse?).getD builtIn) read? field).map form := by
  cases field with
  | some v => rfl
  | none =>
    cases known with
    | none => rfl
    | some text => exact congrArg some (Option.getD_map form builtIn (parse? text))

section

variable (lib : Library) (env : Environment) (d : lib.Value)

theorem choose?_eq_flag? {p : Preference} {builtIn : Bool} (isFlag : p ≠ .minLevel)
    (builtIn_eq : p.row.builtIn = .flag builtIn) :
    choose? lib env d p = (flag? lib env d p builtIn).map .flag := by
  have read_eq : p.read? lib = fun v => (lib.flag? v).map .flag :=
    funext (Preference.read?_of_flag isFlag)
  have parse_eq : p.parse? = fun text => (Environment.parseFlag? text).map .flag :=
    funext (Preference.parse?_of_flag isFlag)
  rw [choose?, Environment.choice?, builtIn_eq, read_eq, parse_eq]
  exact optional?_map Choice.flag builtIn _ Environment.parseFlag? lib.flag? _

theorem choose?_eq_minLevel? : choose? lib env d .minLevel = (minLevel? lib env d).map .level :=
  optional?_map Choice.level .info _ LogLevel.ofWord? (LogLevel.read? lib) _

end

/-! ### Records -/

/-- The choices about scanning, each on its own. -/
def LexicalPreferences.layered? (lib : Library) (env : Environment) (d : lib.Value) :
    Option LexicalPreferences := do
  return {
    collectDetailedMetrics := ← flag? lib env d .detailedMetrics true
    trackKindPatterns := ← flag? lib env d .kindPatterns false
    includePositionInErrors := ← flag? lib env d .positionsInErrors true
    logTokenEvents := ← flag? lib env d .tokenEvents false
    acceptCarriageReturn := ← flag? lib env d .carriageReturn true }

/-- The choices about logging, each on its own. -/
def LoggingPreferences.layered? (lib : Library) (env : Environment) (d : lib.Value) :
    Option LoggingPreferences := do
  return {
    useStructuredLogging := ← flag? lib env d .structuredLogging false
    enableConsoleLogging := ← flag? lib env d .consoleLogging false
    minLogLevel := ← minLevel? lib env d }

section

variable {lib : Library} {env : Environment} {d : lib.Value}

/-- A group that is missing leaves each of its preferences to the environment. -/
theorem LexicalPreferences.optional?_eq_layered? (documented : lib.Documented)
    (group : ∀ g, (lib.present d).under? "lexical" = some g → lib.present g ≠ .neither) :
    optional? (ofEnvironment env) (read? lib env) ((lib.present d).under? "lexical") =
      layered? lib env d := by
  cases found : (lib.present d).under? "lexical" with
  | none =>
    simp only [layered?, flag?, Library.said?, Preference.row, found]
    rfl
  | some g =>
    simp only [layered?, flag?, Library.said?, Preference.row, found, Option.bind_some]
    refine (documented.record_given _ _ (group g found)).trans ?_
    refine (Field.foldlM_setGiven?_of (·.collectDetailedMetrics) (fun _ => rfl) ..).trans
      (bind_congr fun metrics => ?_)
    refine (Field.foldlM_setGiven?_of (·.trackKindPatterns) (fun _ => rfl) ..).trans
      (bind_congr fun kinds => ?_)
    refine (Field.foldlM_setGiven?_of (·.includePositionInErrors) (fun _ => rfl) ..).trans
      (bind_congr fun positions => ?_)
    refine (Field.foldlM_setGiven?_of (·.logTokenEvents) (fun _ => rfl) ..).trans
      (bind_congr fun tokens => ?_)
    exact Field.foldlM_setGiven?_of LexicalPreferences.acceptCarriageReturn (fun _ => rfl) ..

theorem LoggingPreferences.optional?_eq_layered? (documented : lib.Documented)
    (group : ∀ g, (lib.present d).under? "logging" = some g → lib.present g ≠ .neither) :
    optional? (ofEnvironment env) (read? lib env) ((lib.present d).under? "logging") =
      layered? lib env d := by
  cases found : (lib.present d).under? "logging" with
  | none =>
    simp only [layered?, flag?, minLevel?, Library.said?, Preference.row, found]
    rfl
  | some g =>
    simp only [layered?, flag?, minLevel?, Library.said?, Preference.row, found, Option.bind_some]
    refine (documented.record_given _ _ (group g found)).trans ?_
    refine (Field.foldlM_setGiven?_of (·.useStructuredLogging) (fun _ => rfl) ..).trans
      (bind_congr fun structured => ?_)
    refine (Field.foldlM_setGiven?_of (·.enableConsoleLogging) (fun _ => rfl) ..).trans
      (bind_congr fun console => ?_)
    exact Field.foldlM_setGiven?_of LoggingPreferences.minLogLevel (fun _ => rfl) ..

end

namespace RuntimeConfig

variable {lib : Library} {env : Environment} {d : lib.Value} {config : RuntimeConfig}

/-- All choices, each on its own. -/
def layered? (lib : Library) (env : Environment) (d : lib.Value) : Option RuntimeConfig := do
  return {
    lexical := ← LexicalPreferences.layered? lib env d
    logging := ← LoggingPreferences.layered? lib env d }

/-- A document is read group by group. -/
theorem read?_eq (documented : lib.Documented) {value? : String → Option lib.Value}
    (table : lib.present d = .table value?) :
    read? lib env d = do
      return {
        lexical := ← optional? (.ofEnvironment env) (LexicalPreferences.read? lib env)
          ((lib.present d).under? "lexical")
        logging := ← optional? (.ofEnvironment env) (LoggingPreferences.read? lib env)
          ((lib.present d).under? "logging") } := by
  have isRecord : lib.present d ≠ .neither := by
    rw [table]
    exact nofun
  refine (documented.record_given _ _ isRecord).trans ?_
  rw [table]
  refine (Field.foldlM_setGiven?_of (·.lexical) (fun _ => rfl) ..).trans (bind_congr fun lexical => ?_)
  exact Field.foldlM_setGiven?_of RuntimeConfig.logging (fun _ => rfl) ..

theorem read?_eq_layered? (documented : lib.Documented) {value? : String → Option lib.Value}
    (table : lib.present d = .table value?)
    (groups : ∀ (p : Preference) g, (lib.present d).under? p.row.group = some g →
      lib.present g ≠ .neither) :
    read? lib env d = layered? lib env d := by
  rw [read?_eq documented table,
    LexicalPreferences.optional?_eq_layered? documented (groups .detailedMetrics),
    LoggingPreferences.optional?_eq_layered? documented (groups .minLevel)]
  rfl

/-- A group that has not the form of a record spoils the document. -/
theorem read?_eq_none (documented : lib.Documented) {value? : String → Option lib.Value}
    (table : lib.present d = .table value?) {p : Preference} (spoilt : lib.SpoilsGroup d p) :
    read? lib env d = none := by
  obtain ⟨g, found, noRecord⟩ := spoilt
  have lexical : LexicalPreferences.read? lib env g = none := documented.record_neither _ _ noRecord
  have logging : LoggingPreferences.read? lib env g = none := documented.record_neither _ _ noRecord
  have named : p.row.group = "lexical" ∨ p.row.group = "logging" := by
    cases p <;> decide
  rw [read?_eq documented table]
  rcases named with named | named
  · rw [← named, found]
    simp only [optional?, lexical]
    rfl
  · rw [← named, found]
    simp only [optional?, logging]
    exact Option.bind_fun_none _

theorem choose?_of_layered? (layered : layered? lib env d = some config) (p : Preference) :
    choose? lib env d p = some (config.choice p) := by
  obtain ⟨lexical, scanning, rest⟩ := Option.bind_eq_some_iff.mp layered
  obtain ⟨logging, telling, same⟩ := Option.bind_eq_some_iff.mp rest
  cases same
  obtain ⟨metrics, metrics_eq, rest⟩ := Option.bind_eq_some_iff.mp scanning
  obtain ⟨kinds, kinds_eq, rest⟩ := Option.bind_eq_some_iff.mp rest
  obtain ⟨positions, positions_eq, rest⟩ := Option.bind_eq_some_iff.mp rest
  obtain ⟨tokens, tokens_eq, rest⟩ := Option.bind_eq_some_iff.mp rest
  obtain ⟨returns, returns_eq, same⟩ := Option.bind_eq_some_iff.mp rest
  cases same
  obtain ⟨structured, structured_eq, rest⟩ := Option.bind_eq_some_iff.mp telling
  obtain ⟨console, console_eq, rest⟩ := Option.bind_eq_some_iff.mp rest
  obtain ⟨level, level_eq, same⟩ := Option.bind_eq_some_iff.mp rest
  cases same
  have flag {p : Preference} {builtIn value : Bool} (isFlag : p ≠ .minLevel)
      (builtIn_eq : p.row.builtIn = .flag builtIn) (value_eq : flag? lib env d p builtIn = some value) :
      choose? lib env d p = some (.flag value) := by
    rw [choose?_eq_flag? lib env d isFlag builtIn_eq, value_eq]
    rfl
  cases p with
  | detailedMetrics => exact flag nofun rfl metrics_eq
  | kindPatterns => exact flag nofun rfl kinds_eq
  | positionsInErrors => exact flag nofun rfl positions_eq
  | tokenEvents => exact flag nofun rfl tokens_eq
  | carriageReturn => exact flag nofun rfl returns_eq
  | structuredLogging => exact flag nofun rfl structured_eq
  | consoleLogging => exact flag nofun rfl console_eq
  | minLevel =>
    rw [choose?_eq_minLevel?, level_eq]
    rfl

theorem exists_layered? (chosen : ∀ p, choose? lib env d p ≠ none) :
    ∃ config, layered? lib env d = some config := by
  have flag {p : Preference} {builtIn : Bool} (isFlag : p ≠ .minLevel)
      (builtIn_eq : p.row.builtIn = .flag builtIn) :
      ∃ value, flag? lib env d p builtIn = some value := by
    have some := chosen p
    rw [choose?_eq_flag? lib env d isFlag builtIn_eq, ne_eq, Option.map_eq_none_iff] at some
    exact Option.ne_none_iff_exists'.mp some
  obtain ⟨metrics, metrics_eq⟩ := flag (p := .detailedMetrics) nofun rfl
  obtain ⟨kinds, kinds_eq⟩ := flag (p := .kindPatterns) nofun rfl
  obtain ⟨positions, positions_eq⟩ := flag (p := .positionsInErrors) nofun rfl
  obtain ⟨tokens, tokens_eq⟩ := flag (p := .tokenEvents) nofun rfl
  obtain ⟨returns, returns_eq⟩ := flag (p := .carriageReturn) nofun rfl
  obtain ⟨structured, structured_eq⟩ := flag (p := .structuredLogging) nofun rfl
  obtain ⟨console, console_eq⟩ := flag (p := .consoleLogging) nofun rfl
  obtain ⟨level, level_eq⟩ : ∃ level, minLevel? lib env d = some level := by
    have some := chosen .minLevel
    rw [choose?_eq_minLevel?, ne_eq, Option.map_eq_none_iff] at some
    exact Option.ne_none_iff_exists'.mp some
  refine ⟨⟨⟨metrics, kinds, positions, tokens, returns⟩, ⟨structured, console, level⟩⟩, ?_⟩
  simp only [layered?, LexicalPreferences.layered?, LoggingPreferences.layered?, metrics_eq, kinds_eq,
    positions_eq, tokens_eq, returns_eq, structured_eq, console_eq, level_eq]
  rfl

/-! ### Documents -/

section

variable {content : String} {value? : String → Option lib.Value}

theorem ofToml_of_misshapen (documented : lib.Documented) (env : Environment)
    (parsed : lib.parse? content = some d) (table : lib.present d = .table value?)
    (misshapen : lib.Misshapen d) : ofToml lib env content = .error .malformed := by
  have refused : read? lib env d = none := by
    -- A field can only be read where its group is one.
    by_cases groups : ∀ (p : Preference) g, (lib.present d).under? p.row.group = some g →
        lib.present g ≠ .neither
    · cases misshapen with
      | group spoilt =>
        obtain ⟨g, found, noRecord⟩ := spoilt
        exact absurd noRecord (groups _ g found)
      | field found wrong =>
        rw [read?_eq_layered? documented table groups, Option.eq_none_iff_forall_ne_some]
        intro config layered
        have nothing : choose? lib env d _ = none :=
          (choose?_eq_none_iff documented).mpr ⟨_, found, wrong⟩
        cases nothing.symm.trans (choose?_of_layered? layered _)
    · push Not at groups
      obtain ⟨p, g, found, noRecord⟩ := groups
      exact read?_eq_none documented table ⟨g, found, noRecord⟩
  simp only [ofToml, parsed, Option.bind_some, refused]

/-- Whatever a well-shaped document leaves open, something is chosen for each preference. -/
theorem exists_ofToml (documented : lib.Documented) (env : Environment)
    (parsed : lib.parse? content = some d) (table : lib.present d = .table value?)
    (wellShaped : ¬lib.Misshapen d) :
    ∃ config, ofToml lib env content = .ok config ∧
      ∀ p, choose? lib env d p = some (config.choice p) := by
  have groups (p : Preference) g (found : (lib.present d).under? p.row.group = some g) :
      lib.present g ≠ .neither :=
    fun noRecord => wellShaped (.group ⟨g, found, noRecord⟩)
  obtain ⟨config, layered⟩ : ∃ config, layered? lib env d = some config := by
    refine exists_layered? fun p nothing => ?_
    obtain ⟨v, found, wrong⟩ := (choose?_eq_none_iff documented).mp nothing
    exact wellShaped (.field found wrong)
  refine ⟨config, ?_, choose?_of_layered? layered⟩
  simp only [ofToml, parsed, Option.bind_some, read?_eq_layered? documented table groups, layered]

end

/-- **Layers apply preference by preference.** Whatever library reads a document as documented, and parses
it to a table: the document is refused just if a known key of it holds a value of the wrong shape.
Otherwise each preference has, independently of the others, what the document says of it, else what its
variable is set to, else the built-in choice. So what the document says holds under every environment; and
documents that hold the same under the keys that are known, whatever others they have, come to the same
under environments that set the same, whatever else these hold. -/
theorem ofToml_layered (lib : Library) (documented : lib.Documented) (env : Environment)
    (content : String) (d : lib.Value) (value? : String → Option lib.Value)
    (parsed : lib.parse? content = some d) (table : lib.present d = .table value?) :
    (lib.Misshapen d ∧ ofToml lib env content = .error .malformed ∨
      ¬lib.Misshapen d ∧ ∃ config, ofToml lib env content = .ok config ∧
        ∀ p c, Layered lib env d p c ↔ c = config.choice p) ∧
    (∀ env' config config' p, ofToml lib env content = .ok config →
      ofToml lib env' content = .ok config' → lib.said? d p ≠ none →
      config.choice p = config'.choice p) ∧
    ∀ env' content' d' value?', lib.parse? content' = some d' → lib.present d' = .table value?' →
      (∀ p, lib.said? d' p = lib.said? d p ∧ (lib.SpoilsGroup d' p ↔ lib.SpoilsGroup d p)) →
      (∀ p c, env'.Sets p c ↔ env.Sets p c) →
      ofToml lib env' content' = ofToml lib env content := by
  refine ⟨?_, ?_, ?_⟩
  · by_cases misshapen : lib.Misshapen d
    · exact .inl ⟨misshapen, ofToml_of_misshapen documented env parsed table misshapen⟩
    · obtain ⟨config, loaded, chosen⟩ := exists_ofToml documented env parsed table misshapen
      refine .inr ⟨misshapen, config, loaded, fun p c => ?_⟩
      rw [← choose?_eq_some_iff documented, chosen p, Option.some_inj]
      exact eq_comm
  · intro env' config config' p loaded loaded' said
    by_cases misshapen : lib.Misshapen d
    · cases loaded.symm.trans (ofToml_of_misshapen documented env parsed table misshapen)
    · obtain ⟨_, again, chosen⟩ := exists_ofToml documented env parsed table misshapen
      obtain ⟨_, again', chosen'⟩ := exists_ofToml documented env' parsed table misshapen
      cases loaded.symm.trans again
      cases loaded'.symm.trans again'
      obtain ⟨v, found⟩ := Option.ne_none_iff_exists'.mp said
      have same : choose? lib env d p = choose? lib env' d p := by
        simp only [choose?, found, optional?]
      exact Option.some.inj ((chosen p).symm.trans (same.trans (chosen' p)))
  · intro env' content' d' value?' parsed' table' same sets
    have shapes := Library.misshapen_congr same
    by_cases misshapen : lib.Misshapen d
    · rw [ofToml_of_misshapen documented env parsed table misshapen,
        ofToml_of_misshapen documented env' parsed' table' (shapes.mpr misshapen)]
    · obtain ⟨config, loaded, chosen⟩ := exists_ofToml documented env parsed table misshapen
      obtain ⟨config', loaded', chosen'⟩ :=
        exists_ofToml documented env' parsed' table' fun spoiled => misshapen (shapes.mp spoiled)
      have chosen_eq (p : Preference) : choose? lib env' d' p = choose? lib env d p := by
        have variable_eq : env'.choice? p = env.choice? p := by
          refine Option.ext fun c => ?_
          rw [Environment.choice?_eq_some_iff, Environment.choice?_eq_some_iff, sets]
        rw [choose?, choose?, (same p).1, variable_eq]
      rw [loaded, loaded']
      refine congrArg _ (eq_of_choice fun p => ?_)
      exact Option.some.inj ((chosen' p).symm.trans ((chosen_eq p).trans (chosen p)))

/-- An array says its leading fields, a variable that cannot be read is as good as none, and a key that
nobody knows says nothing. -/
theorem ofToml_layered_of_array :
    let content := "lexical = [false]\nother = 1\n[logging]\nmin_log_level = \"debug\"\n"
    let env : Environment := ⟨[("GBNF_LEXICAL_TRACK_KINDS", "true"),
      ("GBNF_LEXICAL_DETAILED_METRICS", "true"), ("GBNF_LOGGING_USE_STRUCTURED", "TRUE")]⟩
    let config : RuntimeConfig :=
      ⟨{ collectDetailedMetrics := false, trackKindPatterns := true }, { minLogLevel := .debug }⟩
    Toml.library.Documented ∧ ∃ entries, Toml.parse? content = some (.table entries) ∧
      ofToml Toml.library env content = .ok config ∧
      ∀ p c, Layered Toml.library env (.table entries) p c ↔ c = config.choice p := by
  intro content env config
  have parses : (Toml.parse? content).isSome = true := by decide +kernel
  obtain ⟨d, parsed⟩ := Option.isSome_iff_exists.mp parses
  obtain ⟨entries, rfl⟩ : ∃ entries, d = .table entries := by
    obtain ⟨_, -, same⟩ := Option.bind_eq_some_iff.mp parsed
    exact ⟨_, (Option.some.inj same).symm⟩
  have read : (Toml.library.parse? content).bind (read? Toml.library env) = some config := by
    decide +kernel
  have loaded : ofToml Toml.library env content = .ok config := by
    rw [ofToml, read]
  obtain ⟨⟨-, refused⟩ | ⟨-, config', loaded', layered⟩, -, -⟩ :=
    ofToml_layered Toml.library Toml.library_documented env content (.table entries) _ parsed rfl
  · cases loaded.symm.trans refused
  · cases loaded.symm.trans loaded'
    exact ⟨Toml.library_documented, entries, parsed, loaded, layered⟩

end RuntimeConfig

end GrammarLex
