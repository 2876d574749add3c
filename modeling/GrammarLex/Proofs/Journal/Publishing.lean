import GrammarLex.Journal.Station

/-!
# What reaches a service

Whether a notice reaches the service of a station depends on its level alone, and publishing changes
nothing that this depends on. So publishing notices is handing the service the entries of those that
it hears, one behind the other.
-/
namespace GrammarLex

namespace Entry

private theorem lookup_detail (name key value : String) (details : List (String × String)) :
    ((key, value) :: details).lookup name = if name = key then some value else details.lookup name := by
  rw [List.lookup_cons]
  by_cases same : name = key
  · rw [if_pos same, beq_iff_eq.mpr same]
  · rw [if_neg same, beq_eq_false_iff_ne.mpr same]

theorem lookup_insertDetail (name key value : String) (details : List (String × String)) :
    (insertDetail key value details).lookup name =
      if name = key then some value else details.lookup name := by
  induction details with
  | nil => exact lookup_detail ..
  | cons detail details ih =>
    obtain ⟨known, old⟩ := detail
    unfold insertDetail
    split
    · exact lookup_detail ..
    · split
      next equal =>
        subst equal
        rw [lookup_detail, lookup_detail]
        split <;> rfl
      next other =>
        rw [lookup_detail, lookup_detail, ih]
        by_cases found : name = known
        · rw [if_pos found, if_pos found, if_neg (found ▸ Ne.symm other)]
        · rw [if_neg found, if_neg found]

/-- Of one name the last detail counts. -/
theorem lookup_sortDetails (name : String) (details : List (String × String)) :
    (sortDetails details).lookup name = details.reverse.lookup name := by
  suffices ∀ sorted : List (String × String),
      (details.foldl (fun sorted detail => insertDetail detail.1 detail.2 sorted) sorted).lookup name =
        (details.reverse ++ sorted).lookup name from (this []).trans (by rw [List.append_nil])
  intro sorted
  induction details generalizing sorted with
  | nil => rfl
  | cons detail details ih =>
    rw [List.foldl_cons, ih, List.reverse_cons, List.append_assoc, List.lookup_append,
      List.lookup_append, lookup_insertDetail]
    exact congrArg _ (lookup_detail ..).symm

end Entry

namespace Station

/-- Notices of the level reach a service. -/
def hears (s : Station) (level : LogLevel) : Bool :=
  !decide (level = .debug ∧ s.level < .debug) && s.service.any (·.accepts level)

/-- What reaches the service when notices are published. -/
def logged (now : Instant) (notices : List Notice) (s : Station) : List Entry :=
  (notices.filter fun notice => s.hears notice.level).map (s.entry now)

/-- What remains of a station whose service has taken an entry in. -/
structure Grows (s s' : Station) : Prop where
  environment_eq : s'.environment = s.environment
  limits_eq : s'.limits = s.limits
  installed_eq : s'.installed = s.installed
  level_eq : s'.service.map Service.level = s.service.map Service.level

variable {s s' : Station} {now : Instant} {notice : Notice}

theorem Grows.refl (s : Station) : s.Grows s := ⟨rfl, rfl, rfl, rfl⟩

theorem Grows.trans {s'' : Station} (first : s.Grows s') (second : s'.Grows s'') : s.Grows s'' :=
  ⟨second.environment_eq.trans first.environment_eq, second.limits_eq.trans first.limits_eq,
    second.installed_eq.trans first.installed_eq, second.level_eq.trans first.level_eq⟩

theorem Grows.preferences_eq (grows : s.Grows s') : s'.preferences = s.preferences := by
  rw [preferences, preferences, grows.environment_eq, grows.installed_eq]

theorem Grows.inForce_eq (grows : s.Grows s') : s'.level = s.level := by
  rw [Station.level, Station.level, grows.preferences_eq, securityLevel, securityLevel,
    grows.limits_eq]

theorem Grows.hears_eq (grows : s.Grows s') (level : LogLevel) : s'.hears level = s.hears level := by
  have accepts : s'.service.any (·.accepts level) = s.service.any (·.accepts level) := by
    have heard := congrArg (Option.any fun most => decide (level ≤ most)) grows.level_eq
    rw [Option.any_map, Option.any_map] at heard
    exact heard
  rw [hears, hears, grows.inForce_eq, accepts]

theorem Grows.logged_eq (grows : s.Grows s') (notices : List Notice) :
    s'.logged now notices = s.logged now notices := by
  have entry_eq : s'.entry now = s.entry now := by
    funext notice
    rw [entry, entry, grows.limits_eq]
  simp only [logged, grows.hears_eq, entry_eq]

theorem note_eq (effect : Effect) (s : Station) :
    s.Grows (s.note effect) ∧ (s.note effect).service = s.service := by
  cases effect with
  | silent => exact ⟨.refl s, rfl⟩
  | prints line => exact ⟨⟨rfl, rfl, rfl, rfl⟩, rfl⟩
  | panics => exact ⟨⟨rfl, rfl, rfl, rfl⟩, rfl⟩

theorem log_eq (s : Station) (now : Instant) (notice : Notice) :
    s.Grows (s.log now notice) ∧ (s.log now notice).service =
      s.service.map fun service => (service.log (s.entry now notice)).1 := by
  obtain ⟨environment, limits, installed, service, printed, panicked⟩ := s
  cases service with
  | none => exact ⟨.refl _, rfl⟩
  | some service =>
    have level_eq : (service.log (.ofNotice limits.log.maxMessage now notice)).1.level =
        service.level := by
      unfold Service.log
      split <;> rfl
    obtain ⟨⟨environment_eq, limits_eq, installed_eq, kept⟩, service_eq⟩ :=
      note_eq (service.log (.ofNotice limits.log.maxMessage now notice)).2
        ⟨environment, limits, installed,
          some (service.log (.ofNotice limits.log.maxMessage now notice)).1, printed, panicked⟩
    exact ⟨⟨environment_eq, limits_eq, installed_eq, kept.trans (congrArg some level_eq)⟩, service_eq⟩

/-- A notice that is heard reaches the service, and another one leaves it alone. -/
theorem publish_eq (s : Station) (now : Instant) (notice : Notice) :
    s.Grows (s.publish now notice) ∧ (s.publish now notice).service =
      if s.hears notice.level then s.service.map fun service => (service.force (s.entry now notice)).1
      else s.service := by
  by_cases ignored : notice.level = .debug ∧ s.level < .debug
  · rw [publish, if_pos ignored, hears, decide_eq_true ignored]
    exact ⟨.refl _, rfl⟩
  · obtain ⟨grows, service_eq⟩ := log_eq s now notice
    rw [publish, if_neg ignored, hears, decide_eq_false ignored, service_eq]
    refine ⟨grows, ?_⟩
    cases s.service with
    | none => simp
    | some service =>
      simp only [Option.any_some, Bool.not_false, Bool.true_and, Option.map_some, Service.log]
      have level_eq : (s.entry now notice).level = notice.level := rfl
      rw [level_eq]
      split <;> rfl

theorem service_publishAll (now : Instant) (notices : List Notice) (s : Station) :
    (s.publishAll now notices).service = s.service.map fun service =>
      (s.logged now notices).foldl (fun service e => (service.force e).1) service := by
  induction notices generalizing s with
  | nil => simp [publishAll, logged]
  | cons notice notices ih =>
    obtain ⟨grows, service_eq⟩ := s.publish_eq now notice
    change ((s.publish now notice).publishAll now notices).service = _
    rw [ih, grows.logged_eq, service_eq, logged, logged, List.filter_cons]
    cases s.hears notice.level with
    | true => simp [Function.comp_def]
    | false => simp

theorem grows_publishAll (now : Instant) (notices : List Notice) (s : Station) :
    s.Grows (s.publishAll now notices) := by
  induction notices generalizing s with
  | nil => exact .refl s
  | cons notice notices ih => exact (s.publish_eq now notice).1.trans (ih _)

/-- A service that accepts what only developers want to know hears everything, if the level in force
asks for it. -/
theorem hears_all {service : Service} (installed : s.service = some service)
    (accepts : service.accepts .debug = true) (talkative : ¬s.level < .debug) (level : LogLevel) :
    s.hears level = true := by
  have most : level ≤ service.level := by
    have debug : LogLevel.debug ≤ service.level := of_decide_eq_true accepts
    exact Nat.le_trans (by cases level <;> decide) debug
  rw [hears, installed, Option.any_some, Service.accepts, decide_eq_true most, Bool.and_true]
  simp [talkative]

/-- Every service hears of errors. -/
theorem hears_error {service : Service} (installed : s.service = some service) :
    s.hears .error = true := by
  have least : LogLevel.error ≤ service.level := Nat.zero_le _
  rw [hears, installed, Option.any_some, Service.accepts, decide_eq_true least]
  rfl

/-- A warning with a code is logged just if there is a notice of it. -/
theorem warned_iff {service : Service} (installed : s.service = some service)
    (accepts : service.accepts .warning = true) (notices : List Notice) (code : String) :
    (∃ e ∈ s.logged now notices, e.level = .warning ∧ e.code = code) ↔
      ∃ notice ∈ notices, notice.level = .warning ∧ notice.code = code := by
  have heard : s.hears .warning = true := by
    rw [hears, installed, Option.any_some, accepts]
    rfl
  constructor
  · rintro ⟨e, member, level, code_eq⟩
    obtain ⟨notice, kept, rfl⟩ := List.mem_map.mp member
    exact ⟨notice, (List.mem_filter.mp kept).1, level, code_eq⟩
  · rintro ⟨notice, member, level, code_eq⟩
    have kept : s.hears notice.level = true := level ▸ heard
    exact ⟨s.entry now notice, List.mem_map_of_mem (List.mem_filter.mpr ⟨member, kept⟩), level, code_eq⟩

end Station

end GrammarLex
