import GrammarLex.Format.Records
import GrammarLex.Proofs.Journal.Installing
import GrammarLex.Settings.Profile

/-!
# What an accepted profile is good for

A profile is checked twice, when a program is built and when it runs. Building checks every bound on
scanning, and more strictly than running does, but of the bounds on logging it only looks at the level.
So a built program can always scan, and whether it can log is open: its service is refused, and its
store panics, for bounds that no check has looked at. How the bounds are read makes no difference to this.
-/
namespace GrammarLex

/-- A file that holds the form of a text is read as that text. -/
theorem FileTree.readText_of_text {tree : FileTree} {path text : String}
    (located : tree.locate path = .ok (.file text.toUTF8.data.toList)) :
    tree.readText path = .ok text := by
  have decoded : String.fromUTF8? ⟨text.toUTF8.data.toList.toArray⟩ = some text := by
    rw [Array.toArray_toList]
    exact dif_pos text.isValidUTF8
  simp only [readText, located, bind, Except.bind, decoded]
  rfl

/-! ### Bounds -/

/-- A series of checks finds nothing if the first one does not and the others do not. -/
private theorem check_eq_none_iff {α : Type} {failed : Prop} [Decidable failed] {refusal : α}
    {others : Option α} :
    (if failed then some refusal else others) = none ↔ ¬failed ∧ others = none := by
  by_cases fails : failed
  · rw [if_pos fails]
    exact ⟨nofun, fun passes => absurd fails passes.1⟩
  · rw [if_neg fails]
    exact (and_iff_right fails).symm

/-- The bounds that are checked when a program is built, under the name of a profile. -/
structure Limits.Buildable (name : String) (limits : Limits) : Prop where
  lexeme : 0 < limits.scan.maxLexeme ∧ limits.scan.maxLexeme ≤ 100000000
  tokens : 0 < limits.scan.maxTokens ∧ limits.scan.maxTokens ≤ 10000000
  depth : 0 < limits.scan.maxDepth ∧ limits.scan.maxDepth ≤ 100000
  level : limits.log.securityLevel ≤ 2
  production : name = "production" → limits.scan.maxLexeme ≤ 1000000

theorem Limits.refusal?_eq_none_iff (name : String) (limits : Limits) :
    limits.refusal? name = none ↔ limits.Buildable name := by
  simp only [refusal?, check_eq_none_iff, and_true]
  constructor
  · rintro ⟨lexeme, tokens, depth, level, production⟩
    refine ⟨by omega, by omega, by omega, by omega, ?_⟩
    intro strict
    exact Nat.le_of_not_lt fun long => production ⟨strict, long⟩
  · rintro ⟨lexeme, tokens, depth, level, production⟩
    refine ⟨by omega, by omega, by omega, by omega, ?_⟩
    rintro ⟨strict, long⟩
    exact absurd long (Nat.not_lt_of_le (production strict))

/-- What can be built can be used for scanning. -/
theorem Limits.Buildable.complaint?_scan {name : String} {limits : Limits}
    (buildable : limits.Buildable name) : limits.scan.complaint? = none := by
  obtain ⟨lexeme, tokens, depth, -, -⟩ := buildable
  simp only [ScanLimits.complaint?, check_eq_none_iff, and_true]
  omega

/-- The bounds on logging that a service can be set up with. -/
structure LogLimits.Usable (limits : LogLimits) : Prop where
  buffer : 100 ≤ limits.bufferSize ∧ limits.bufferSize ≤ 100000
  message : 80 ≤ limits.maxMessage

theorem LogLimits.complaint?_eq_none_iff (limits : LogLimits) :
    limits.complaint? = none ↔ limits.Usable := by
  simp only [complaint?, check_eq_none_iff, and_true]
  constructor
  · rintro ⟨large, small, short⟩
    exact ⟨by omega, by omega⟩
  · rintro ⟨buffer, message⟩
    omega

/-! ### Building and running -/

theorem FileTree.contains_of_readText {tree : FileTree} {path text : String}
    (read : tree.readText path = .ok text) : tree.contains path = true := by
  unfold readText at read
  cases located : tree.locate path with
  | error reason =>
    rw [located] at read
    cases read
  | ok node =>
    rw [contains, located]
    rfl

/-- A profile is accepted if its document can be read and tells bounds that can be built. -/
theorem ProfileRequest.load_eq_ok_iff {request : ProfileRequest} {read? : String → Option Limits}
    {tree : FileTree} {limits : Limits} :
    request.load read? tree = .ok limits ↔
      ∃ content, tree.readText request.path = .ok content ∧ read? content = some limits ∧
        limits.Buildable request.name := by
  have judged {content : String} (read : tree.readText request.path = .ok content) :
      request.load read? tree = (read? content).elim (.error .malformed) fun limits =>
        (limits.refusal? request.name).elim (.ok limits) .error := by
    simp only [load, FileTree.contains_of_readText read, read, Bool.not_true, Bool.false_eq_true,
      if_false, Except.mapError, bind, Except.bind]
    cases read? content with
    | none => rfl
    | some limits =>
      dsimp only [Option.elim_some]
      cases limits.refusal? request.name <;> rfl
  constructor
  · intro built
    cases read : tree.readText request.path with
    | error reason =>
      unfold load at built
      rw [read] at built
      cases located : tree.contains request.path <;> rw [located] at built <;> cases built
    | ok content =>
      rw [judged read] at built
      refine ⟨content, rfl, ?_⟩
      cases told : read? content with
      | none =>
        rw [told] at built
        cases built
      | some limits' =>
        rw [told, Option.elim_some] at built
        cases judgement : limits'.refusal? request.name with
        | some refusal =>
          rw [judgement] at built
          cases built
        | none =>
          rw [judgement] at built
          cases built
          exact ⟨rfl, (Limits.refusal?_eq_none_iff ..).mp judgement⟩
  · rintro ⟨content, read, told, buildable⟩
    rw [judged read, told, Option.elim_some, (Limits.refusal?_eq_none_iff ..).mpr buildable]
    rfl

theorem Code.descriptionComplaint?_eq_none : descriptionComplaint? = none := by
  decide

/-- A service is refused for its limits just if those on logging are unusable. -/
theorem Station.setUp_unusable_iff (s : Station) (now : Instant) :
    (∃ complaint s', setUp now s = .error (.unusableLimits complaint) s') ↔ ¬s.limits.log.Usable := by
  rw [← LogLimits.complaint?_eq_none_iff]
  unfold setUp
  cases unusable : s.limits.log.complaint? with
  | some complaint => simp
  | none =>
    rw [Code.requiredComplaint?_eq_none]
    cases present : s.service with
    | some service => simp [installService, present]
    | none => simp [installService, present]

namespace ProfileRequest

/-- **Building checks what scanning needs, and leaves logging unchecked.** However bounds are read from a
document, a program that is built from a profile has its constants, whose bounds on scanning are within
those that are checked then, so that scanning has no complaint about them. But a service is refused for
its limits just if the size of its store or the length of its messages is out of range, and a service on a
store of that size can be used without a panic just if the size is not zero; and building accepts whatever
these two bounds are. -/
theorem built_usable_iff (request : ProfileRequest) (read? : String → Option Limits) (tree : FileTree)
    (limits : Limits) (built : request.load read? tree = .ok limits) :
    request.generate read? tree = .ok (limits.constants request.name) ∧
    limits.Buildable request.name ∧
    (∀ s : Station, s.limits = limits → s.scanComplaint? = none ∧
      ∀ now, (∃ complaint s', s.setUp now = .error (.unusableLimits complaint) s') ↔
        ¬limits.log.Usable) ∧
    ((∀ level calls, Service.serve? ⟨.keep (.empty limits.log.bufferSize), level⟩ calls ≠ none) ↔
      limits.log.bufferSize ≠ 0) ∧
    ∀ log : LogLimits, log.securityLevel = limits.log.securityLevel →
      Limits.refusal? request.name { limits with log } = none := by
  obtain ⟨content, -, -, buildable⟩ := load_eq_ok_iff.mp built
  refine ⟨?_, buildable, ?_, Service.serve?_ne_none_iff _, ?_⟩
  · simp only [generate, built]
    rfl
  · rintro s rfl
    refine ⟨?_, fun now => s.setUp_unusable_iff now⟩
    rw [Station.scanComplaint?, Code.descriptionComplaint?_eq_none, buildable.complaint?_scan]
    rfl
  · intro log level_eq
    rw [Limits.refusal?_eq_none_iff]
    exact ⟨buildable.lexeme, buildable.tokens, buildable.depth, level_eq ▸ buildable.level,
      buildable.production⟩

/-- A profile whose stores are to hold nothing is accepted. -/
theorem built_usable_iff_of_nothing :
    let content := "[lexical]\nmax_lexeme_length = 9\nmax_token_count = 9\nmax_enclosure_depth = 9\n" ++
      "metrics_buffer_size = 9\n[logging]\nlog_buffer_size = 0\nmax_log_message_length = 80\n" ++
      "security_min_log_level = 1\n"
    let request : ProfileRequest := ⟨"small", "config", "ws"⟩
    let tree : FileTree :=
      { files := [(["ws", "config", "small.toml"], content.toUTF8.data.toList)] }
    let limits : Limits := ⟨⟨9, 9, 9, 9⟩, ⟨0, 80, 1⟩⟩
    request.load Toml.limits? tree = .ok limits ∧
      request.generate Toml.limits? tree = .ok (limits.constants "small") ∧
      Station.scanComplaint? { limits } = none ∧
      (∃ complaint s', Station.setUp .epoch { limits } = .error (.unusableLimits complaint) s') ∧
      ∃ level calls, Service.serve? ⟨.keep (.empty 0), level⟩ calls = none := by
  intro content request tree limits
  have path_eq : request.path = "ws/config/small.toml" := by decide +kernel
  have parts_eq : FileTree.parts "ws/config/small.toml" = ["ws", "config", "small.toml"] := by
    decide +kernel
  have located : tree.locate request.path = .ok (.file content.toUTF8.data.toList) := by
    have whole : "ws/config/small.toml".contains '\x00' = false := by
      rw [String.contains_char_eq]
      decide +kernel
    have relative : "ws/config/small.toml".startsWith "/" = false := by
      rw [String.startsWith_string_eq_false_iff]
      decide +kernel
    rw [path_eq, FileTree.locate, whole, relative, parts_eq]
    rfl
  have built : request.load Toml.limits? tree = .ok limits := by
    refine load_eq_ok_iff.mpr ⟨content, FileTree.readText_of_text located, ?_, ?_⟩
    · decide +kernel
    · rw [← Limits.refusal?_eq_none_iff]
      rfl
  obtain ⟨generated, -, usable, panics, -⟩ := built_usable_iff request Toml.limits? tree limits built
  obtain ⟨scans, refused⟩ := usable { limits } rfl
  refine ⟨built, generated, scans, (refused .epoch).mpr ?_, ?_⟩
  · rintro ⟨⟨least, -⟩, -⟩
    exact absurd least (by decide)
  · by_contra always
    push Not at always
    exact panics.mp always rfl

end ProfileRequest

end GrammarLex
