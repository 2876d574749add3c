import GrammarLex.Proofs.Journal.Keeping
import GrammarLex.Proofs.Journal.Publishing
import GrammarLex.Text.Measure

/-!
# Installing a service

A station is set up in one of three ways, and an attempt to do so may be refused. A refused attempt
leaves the service alone. It leaves the preferences alone as well, but for one case: preferences that
come with the attempt are installed before anything is looked at that the attempt may be refused for.
Once a service is installed it stays, and every attempt is refused.
-/
namespace GrammarLex

theorem Code.requiredComplaint?_eq_none : requiredComplaint? = none := by
  decide

namespace Service

/-- Taking an entry in makes no other service of it. -/
theorem clear_log (service : Service) (e : Entry) : (service.log e).1.clear = service.clear := by
  obtain ⟨outlet, level⟩ := service
  unfold Service.log
  split
  · cases outlet with
    | keep store =>
      simp only [force, Outlet.take]
      cases pushed : store.push? e with
      | none => rfl
      | some store' => simp only [clear, Store.clear, Store.capacity_push? pushed]
    | console level => rfl
    | structured level => rfl
  · rfl

end Service

namespace Station

/-- A way to have a service installed. -/
inductive SetUp where
  -- The service that the preferences in force ask for.
  | preferred
  -- The same, after installing preferences.
  | preferring (preferences : LoggingPreferences)
  | serving (service : Service)

def attempt (now : Instant) : SetUp → Action Unit
  | .preferred => setUp now
  | .preferring preferences => setUpWith now preferences
  | .serving service => installService service

/-- The station that a series of attempts leaves, each made at its time, whether or not it is
refused. -/
def attempts (s : Station) (series : List (Instant × SetUp)) : Station :=
  series.foldl (fun s made => finalState (attempt made.1 made.2 s)) s

/-- The service, but for what it has taken in. -/
def fitted (s : Station) : Option Service := s.service.map Service.clear

/-- The station when the attempt gets to the service: preferences that come with it are installed,
unless there are some. -/
def SetUp.prepared (s : Station) : SetUp → Station
  | .preferring preferences => { s with installed := s.installed.or (some preferences) }
  | _ => s

/-- The service that an attempt is for. -/
def SetUp.asked (s : Station) : SetUp → Service
  | .serving service => service
  | made => (made.prepared s).configuredService

variable {s s' : Station} {now : Instant} {made : SetUp}

/-! ### One attempt -/

theorem fitted_log (s : Station) (now : Instant) (notice : Notice) :
    (s.log now notice).fitted = s.fitted := by
  rw [fitted, fitted, (s.log_eq now notice).2, Option.map_map]
  exact congrArg (Option.map · s.service) (funext fun service => service.clear_log _)

/-- Reporting an error, to the service or without one, changes neither. -/
theorem reportError_eq (s : Station) (now : Instant) (code message : String) :
    s.Grows (s.reportError now code message) ∧ (s.reportError now code message).fitted = s.fitted := by
  unfold reportError
  split
  · exact ⟨(s.log_eq now _).1, s.fitted_log now _⟩
  · obtain ⟨grows, service_eq⟩ := s.note_eq
      (.prints ⟨.err, .plain ("[ERROR] FALLBACK: [" ++ code ++ "] " ++ message)⟩)
    exact ⟨grows, congrArg (Option.map Service.clear) service_eq⟩

/-- What becomes of an attempt. -/
inductive Attempted (s : Station) (made : SetUp) :
    EStateM.Result StationRefusal Station Unit → Prop where
  | refused {refusal : StationRefusal} {s' : Station} (grows : (made.prepared s).Grows s')
      (fitted_eq : s'.fitted = s.fitted)
      (service_eq : s.limits.log.complaint? = none → s'.service = s.service) :
      Attempted s made (.error refusal s')
  | done {s' : Station} (missing : s.service = none) (limits_eq : s'.limits = s.limits)
      (fitted_eq : s'.fitted = some (made.asked s).clear) : Attempted s made (.ok () s')

/-- Installing the preferred service comes to the same whichever way the preferences were installed. -/
private theorem setUp_attempted (now : Instant) (made : SetUp)
    (plain : made.asked s = (made.prepared s).configuredService)
    (limits_eq : (made.prepared s).limits = s.limits)
    (service_eq : (made.prepared s).service = s.service) :
    s.Attempted made (setUp now (made.prepared s)) := by
  have fitted_eq : (made.prepared s).fitted = s.fitted := congrArg (Option.map Service.clear) service_eq
  unfold setUp
  rw [Code.requiredComplaint?_eq_none]
  split
  next complaint unusable =>
    obtain ⟨grows, reported⟩ := (made.prepared s).reportError_eq now Code.initializationFailure
      (StationRefusal.unusableLimits complaint).message
    refine .refused grows (reported.trans fitted_eq) ?_
    intro usable
    rw [limits_eq, usable] at unusable
    cases unusable
  next =>
    cases present : (made.prepared s).service with
    | some service =>
      simp only [installService, present]
      exact .refused (.refl _) fitted_eq fun _ => service_eq
    | none =>
      simp only [installService, present]
      refine .done (service_eq.symm.trans present) ?_ ?_
      · exact (log_eq _ now _).1.limits_eq.trans limits_eq
      · rw [fitted_log, plain]
        rfl

theorem attempted (s : Station) (now : Instant) (made : SetUp) :
    s.Attempted made (attempt now made s) := by
  cases made with
  | preferred => exact setUp_attempted now .preferred rfl rfl rfl
  | preferring preferences =>
    cases present : s.installed with
    | some known =>
      have refused : attempt now (.preferring preferences) s = .error .preferencesInstalled s := by
        simp only [attempt, setUpWith, bind_apply, installPreferences, present]
      have prepared_eq : (SetUp.preferring preferences).prepared s = s := by
        simp only [SetUp.prepared, present, Option.some_or]
        rw [← present]
      have grows : ((SetUp.preferring preferences).prepared s).Grows s := by
        rw [prepared_eq]
        exact .refl s
      rw [refused]
      exact .refused grows rfl fun _ => rfl
    | none =>
      have goesOn : attempt now (.preferring preferences) s =
          setUp now ((SetUp.preferring preferences).prepared s) := by
        simp only [attempt, setUpWith, bind_apply, installPreferences, present, SetUp.prepared,
          Option.none_or]
      rw [goesOn]
      exact setUp_attempted now (.preferring preferences) rfl rfl rfl
  | serving service =>
    cases present : s.service with
    | some known =>
      have refused : attempt now (.serving service) s = .error .serviceInstalled s := by
        simp only [attempt, installService, present]
      rw [refused]
      have grows : ((SetUp.serving service).prepared s).Grows s := .refl s
      exact .refused grows rfl fun _ => rfl
    | none =>
      have installs : attempt now (.serving service) s = .ok () { s with service := some service } := by
        simp only [attempt, installService, present]
      rw [installs]
      exact .done present rfl rfl

/-! ### Series of attempts -/

/-- Where a service is installed every attempt is refused. -/
theorem refused_of_installed (installed : s.service ≠ none) (now : Instant) (made : SetUp) :
    ∃ refusal s', attempt now made s = .error refusal s' ∧ s'.fitted = s.fitted ∧
      s'.limits = s.limits ∧ (s.limits.log.complaint? = none → s'.service = s.service) := by
  have attempted := s.attempted now made
  generalize attempt now made s = result at attempted
  cases attempted with
  | @refused refusal s' grows fitted_eq service_eq =>
    have limits_eq : (made.prepared s).limits = s.limits := by cases made <;> rfl
    exact ⟨refusal, s', rfl, fitted_eq, grows.limits_eq.trans limits_eq, service_eq⟩
  | done missing => exact absurd missing installed

theorem service_ne_none_of_fitted (fitted_eq : s'.fitted = s.fitted) (installed : s.service ≠ none) :
    s'.service ≠ none := by
  intro missing
  rw [fitted, fitted, missing] at fitted_eq
  exact installed (Option.map_eq_none_iff.mp fitted_eq.symm)

/-- A service that is installed stays, whatever is attempted. -/
theorem attempts_of_installed (installed : s.service ≠ none) (series : List (Instant × SetUp)) :
    (s.attempts series).fitted = s.fitted ∧
      (s.limits.log.complaint? = none → (s.attempts series).service = s.service) := by
  induction series generalizing s with
  | nil => exact ⟨rfl, fun _ => rfl⟩
  | cons made series ih =>
    obtain ⟨refusal, s', refused, fitted_eq, limits_eq, service_eq⟩ :=
      refused_of_installed installed made.1 made.2
    have first : s.attempts (made :: series) = s'.attempts series := by
      rw [attempts, List.foldl_cons, refused]
      rfl
    obtain ⟨later, later'⟩ := ih (service_ne_none_of_fitted fitted_eq installed)
    rw [first]
    refine ⟨later.trans fitted_eq, ?_⟩
    intro usable
    exact (later' (limits_eq ▸ usable)).trans (service_eq usable)

/-! ### What a refusal leaves -/

/-- The attempt brings preferences, and there are none. -/
def SetUp.Prefers (s : Station) (made : SetUp) (preferences : LoggingPreferences) : Prop :=
  made = .preferring preferences ∧ s.installed = none

theorem prepared_eq (plain : ∀ preferences, ¬made.Prefers s preferences) : made.prepared s = s := by
  cases made with
  | preferred => rfl
  | preferring preferences =>
    cases present : s.installed with
    | none => exact absurd ⟨rfl, present⟩ (plain preferences)
    | some known =>
      simp only [SetUp.prepared, present, Option.some_or]
      rw [← present]
  | serving service => rfl

/-- **A refused attempt changes nothing, but for the preferences it brings.** Whatever the station, the
service is the same after an attempt that is refused, and unless the limits themselves are at fault,
which is reported, it has not even taken an entry in. The preferences, the level in force and what is
heard are the same too, but if the attempt brings preferences and there are none: then these are in
force from now on. Once an attempt has succeeded the service it was for stays, and every attempt is
refused. -/
theorem refused_keeps (s : Station) (now : Instant) (made : SetUp) :
    (∀ refusal s', attempt now made s = .error refusal s' →
      s'.fitted = s.fitted ∧ (s.limits.log.complaint? = none → s'.service = s.service) ∧
      ((∀ preferences, ¬made.Prefers s preferences) → s'.preferences = s.preferences ∧
        s'.level = s.level ∧ ∀ level, s'.hears level = s.hears level) ∧
      ∀ preferences, made.Prefers s preferences → s'.preferences = preferences) ∧
    ∀ s', attempt now made s = .ok () s' →
      s'.fitted = some (made.asked s).clear ∧
      ∀ series : List (Instant × SetUp), (s'.attempts series).fitted = s'.fitted ∧
        (s.limits.log.complaint? = none → (s'.attempts series).service = s'.service) ∧
        ∀ later again, ∃ refusal s'', attempt later again (s'.attempts series) = .error refusal s'' := by
  have attempted := s.attempted now made
  constructor
  · intro refusal s' refused
    rw [refused] at attempted
    cases attempted with
    | refused grows fitted_eq service_eq =>
      refine ⟨fitted_eq, service_eq, ?_, ?_⟩
      · intro plain
        rw [prepared_eq plain] at grows
        exact ⟨grows.preferences_eq, grows.inForce_eq, grows.hears_eq⟩
      · rintro preferences ⟨rfl, missing⟩
        rw [grows.preferences_eq, Station.preferences, SetUp.prepared, missing]
        rfl
  · intro s' succeeds
    rw [succeeds] at attempted
    cases attempted with
    | done missing limits_eq fitted_eq =>
      have installed : s'.service ≠ none := by
        intro missing'
        rw [fitted, missing'] at fitted_eq
        cases fitted_eq
      refine ⟨fitted_eq, ?_⟩
      intro series
      obtain ⟨stays, same⟩ := attempts_of_installed installed series
      refine ⟨stays, limits_eq ▸ same, ?_⟩
      intro later again
      obtain ⟨refusal, s'', refused, -⟩ :=
        refused_of_installed (service_ne_none_of_fitted stays installed) later again
      exact ⟨refusal, s'', refused⟩

/-- Other preferences are refused behind the first, which stay in force, and so does their service. -/
theorem refused_keeps_of_second :
    let s := ({} : Station).attempts [(.epoch, .preferring { minLogLevel := .debug })]
    ∃ s', attempt .epoch (.preferring {}) s = .error .preferencesInstalled s' ∧
      s'.service = s.service ∧ s'.level = .debug ∧ s'.hears .debug = true ∧
      ∀ series, (s.attempts series).service = s.service := by
  intro s
  obtain ⟨-, succeeds⟩ := refused_keeps {} .epoch (.preferring { minLogLevel := .debug })
  obtain ⟨-, stays⟩ := succeeds s rfl
  obtain ⟨refused, -⟩ := refused_keeps s .epoch (.preferring {})
  obtain ⟨-, service_eq, plain, -⟩ := refused .preferencesInstalled s rfl
  have none : ∀ preferences, ¬(SetUp.preferring {}).Prefers s preferences := by
    rintro preferences ⟨-, missing⟩
    cases missing
  obtain ⟨-, inForce, hears_eq⟩ := plain none
  refine ⟨s, rfl, service_eq rfl, inForce, hears_eq .debug, ?_⟩
  intro series
  exact (stays series).2.1 rfl

/-- With a service that takes everything in, preferences come too late: they are refused, and yet what
only developers want to know is heard from then on. -/
theorem refused_preferring_heard :
    let s := ({} : Station).attempts [(.epoch, .serving ⟨.keep (.empty 10000), .debug⟩)]
    ∃ s', attempt .epoch (.preferring { minLogLevel := .debug }) s = .error .serviceInstalled s' ∧
      (s.level = .info ∧ s'.level = .debug) ∧
      (s.hears .debug = false ∧ s'.hears .debug = true) := by
  exact ⟨_, rfl, ⟨rfl, rfl⟩, rfl, rfl⟩

end Station

end GrammarLex
