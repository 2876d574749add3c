import GrammarLex.Journal.Service
import Mathlib.Data.List.DropRight

/-!
# What a log keeps

A service on a store passes on what its level accepts, and the store holds the latest entries, as many
as it has room for and never more. To take an entry in comes to what one expects: it is put behind the
others, and of the series that this makes only the end stays. There is always enough to make room with,
unless the store is to hold nothing at all.
-/
namespace GrammarLex

/-- To cut a list before an item is added makes no difference to a cut behind it. -/
private theorem rtake_rtake_concat {α : Type} (items : List α) (item : α) (count : Nat) :
    (items.rtake count ++ [item]).rtake count = (items ++ [item]).rtake count := by
  cases count with
  | zero => rw [List.rtake_zero, List.rtake_zero]
  | succ count =>
    rw [List.rtake_concat_succ, List.rtake_concat_succ, List.rtake_eq_reverse_take_reverse,
      List.rtake_eq_reverse_take_reverse, List.rtake_eq_reverse_take_reverse, List.reverse_reverse,
      List.take_take, Nat.min_eq_left (Nat.le_succ count)]

namespace Store

theorem drain?_eq_some_iff {count : Nat} {held kept : Array Entry} :
    drain? count held = some kept ↔ count ≤ held.size ∧ held.extract count held.size = kept := by
  rw [drain?, Option.ite_none_right_eq_some, Option.some_inj]

/-- What is drained is gone, and the others stay in their order. -/
theorem toList_of_drain? {count : Nat} {held kept : Array Entry} (drained : drain? count held = some kept) :
    kept.toList = held.toList.drop count := by
  obtain ⟨-, rfl⟩ := drain?_eq_some_iff.mp drained
  rw [Array.toList_extract, List.extract_eq_take_drop, List.take_of_length_le]
  rw [List.length_drop, Array.length_toList]

/-- A store panics just if it is to hold nothing at all: then it would have to let one entry more go than
it holds. -/
theorem push?_eq_none_iff (s : Store) (e : Entry) : s.push? e = none ↔ s.capacity = 0 := by
  obtain ⟨capacity, held⟩ := s
  unfold push?
  dsimp only
  split
  next free =>
    constructor
    · exact nofun
    · rintro rfl
      exact absurd free (Nat.not_lt_zero _)
  next full =>
    rw [Option.bind_eq_bind, Option.bind_eq_none_iff]
    constructor
    · intro refused
      by_contra positive
      have enough : held.size - capacity + 1 ≤ held.size := by omega
      cases refused _ (drain?_eq_some_iff.mpr ⟨enough, rfl⟩)
    · rintro rfl kept drained
      obtain ⟨enough, -⟩ := drain?_eq_some_iff.mp drained
      omega

/-- An entry that is taken in stands behind the others, and of these the oldest go if there are too
many. -/
theorem entries_push? {s s' : Store} {e : Entry} (pushed : s.push? e = some s') :
    s'.capacity = s.capacity ∧ s'.entries = (s.entries ++ [e]).rtake s.capacity := by
  obtain ⟨capacity, held⟩ := s
  unfold push? at pushed
  dsimp only at pushed
  split at pushed
  next free =>
    cases pushed
    refine ⟨rfl, ?_⟩
    have nothing : held.toList.length + 1 - capacity = 0 := by
      rw [Array.length_toList]
      omega
    rw [entries, entries, Array.toList_push, List.rtake, List.length_append, List.length_singleton,
      nothing, List.drop_zero]
  next full =>
    obtain ⟨kept, drained, same⟩ := Option.bind_eq_some_iff.mp pushed
    cases same
    refine ⟨rfl, ?_⟩
    obtain ⟨enough, -⟩ := drain?_eq_some_iff.mp drained
    have surplus : held.toList.length + 1 - capacity = held.size - capacity + 1 := by
      rw [Array.length_toList]
      omega
    rw [entries, entries, Array.toList_push, toList_of_drain? drained, List.rtake, List.length_append,
      List.length_singleton, surplus, List.drop_append_of_le_length]
    rwa [Array.length_toList]

theorem capacity_push? {s s' : Store} {e : Entry} (pushed : s.push? e = some s') :
    s'.capacity = s.capacity :=
  (entries_push? pushed).1

end Store

namespace Service

/-- What may be done to a service on a store. -/
inductive Call where
  | log (e : Entry)
  | clear
  deriving DecidableEq, Repr

/-- What a call makes of a service; `none` if it panics. -/
def perform? (s : Service) : Call → Option Service
  | .log e =>
    match s.log e with
    | (_, .panics) => none
    | (s', _) => some s'
  | .clear => some s.clear

/-- What a series of calls makes of a service; `none` if one of them panics. -/
def serve? (s : Service) (calls : List Call) : Option Service := calls.foldlM perform? s

namespace Call

def isLog : Call → Bool
  | .log _ => true
  | .clear => false

/-- The entry of a call, if a service of the level accepts it. -/
def accepted? (level : LogLevel) : Call → Option Entry
  | .log e => if e.level ≤ level then some e else none
  | .clear => none

end Call

/-- The entries that a service of the level has accepted since the store was last cleared. -/
def acceptedSince (level : LogLevel) (calls : List Call) : List Entry :=
  (calls.rtakeWhile Call.isLog).filterMap (Call.accepted? level)

/-! ### Series of calls -/

theorem acceptedSince_log (level : LogLevel) (calls : List Call) (e : Entry) :
    acceptedSince level (calls ++ [.log e]) =
      acceptedSince level calls ++ if e.level ≤ level then [e] else [] := by
  rw [acceptedSince, List.rtakeWhile_concat_pos _ _ _ rfl, List.filterMap_append, acceptedSince]
  by_cases accepts : e.level ≤ level
  · simp only [List.filterMap_cons, List.filterMap_nil, Call.accepted?, if_pos accepts]
  · simp only [List.filterMap_cons, List.filterMap_nil, Call.accepted?, if_neg accepts]

theorem acceptedSince_clear (level : LogLevel) (calls : List Call) :
    acceptedSince level (calls ++ [.clear]) = [] := by
  rw [acceptedSince, List.rtakeWhile_concat_neg _ _ _ (by exact Bool.false_ne_true), List.filterMap_nil]

/-- What is logged is put into the store if it is accepted, and otherwise changes nothing. -/
theorem perform?_log (level : LogLevel) (s : Store) (e : Entry) :
    perform? ⟨.keep s, level⟩ (.log e) =
      if e.level ≤ level then (s.push? e).map fun s' => ⟨.keep s', level⟩
      else some ⟨.keep s, level⟩ := by
  by_cases accepts : e.level ≤ level
  · simp only [perform?, log, Service.accepts, accepts, decide_true, if_true, force, Outlet.take]
    cases s.push? e <;> rfl
  · simp only [perform?, log, Service.accepts, accepts, decide_false, Bool.false_eq_true, if_false]

/-- A call does not panic where the store may hold anything. It changes neither the level nor the
capacity, and the store holds the latest of what it held and what is accepted now. -/
theorem perform?_keep (level : LogLevel) {s : Store} (positive : s.capacity ≠ 0) (call : Call) :
    ∃ s' : Store, perform? ⟨.keep s, level⟩ call = some ⟨.keep s', level⟩ ∧ s'.capacity = s.capacity ∧
      s'.entries = match call with
        | .log e => if e.level ≤ level then (s.entries ++ [e]).rtake s.capacity else s.entries
        | .clear => [] := by
  cases call with
  | log e =>
    rw [perform?_log]
    by_cases accepts : e.level ≤ level
    · obtain ⟨s', pushed⟩ := Option.ne_none_iff_exists'.mp (mt (s.push?_eq_none_iff e).mp positive)
      obtain ⟨capacity_eq, held_eq⟩ := Store.entries_push? pushed
      refine ⟨s', ?_, capacity_eq, ?_⟩
      · rw [if_pos accepts, pushed]
        rfl
      · simp only [if_pos accepts, held_eq]
    · refine ⟨s, if_neg accepts, rfl, ?_⟩
      simp only [if_neg accepts]
  | clear => exact ⟨s.clear, rfl, rfl, rfl⟩

/-- Whatever is done to a service on a new store, the store holds the latest of what was accepted. -/
theorem serve?_keep {capacity : Nat} (positive : capacity ≠ 0) (level : LogLevel) (calls : List Call) :
    ∃ s : Store, serve? ⟨.keep (.empty capacity), level⟩ calls = some ⟨.keep s, level⟩ ∧
      s.capacity = capacity ∧ s.entries = (acceptedSince level calls).rtake capacity := by
  -- From the last call back: only a call behind all others tells what is still held.
  induction calls using List.reverseRecOn with
  | nil => exact ⟨.empty capacity, rfl, rfl, (List.rtake_nil _).symm⟩
  | append_singleton calls call ih =>
    obtain ⟨s, served, capacity_eq, held_eq⟩ := ih
    obtain ⟨s', performed, capacity_eq', held_eq'⟩ := perform?_keep level (capacity_eq ▸ positive) call
    refine ⟨s', ?_, capacity_eq'.trans capacity_eq, ?_⟩
    · rw [serve?, List.foldlM_append]
      change (serve? ⟨.keep (.empty capacity), level⟩ calls).bind _ = _
      rw [served, Option.bind_some, List.foldlM_cons, performed]
      rfl
    · rw [held_eq']
      cases call with
      | log e =>
        dsimp only
        rw [capacity_eq, held_eq, acceptedSince_log]
        split
        · exact rtake_rtake_concat _ _ _
        · rw [List.append_nil]
      | clear => rw [acceptedSince_clear, List.rtake_nil]

/-- A service on a store can be used without end just if the store may hold anything. -/
theorem serve?_ne_none_iff (capacity : Nat) :
    (∀ level calls, serve? ⟨.keep (.empty capacity), level⟩ calls ≠ none) ↔ capacity ≠ 0 := by
  constructor
  · rintro always rfl
    let e : Entry := .ofNotice 0 .epoch (.debug "")
    refine always .debug [.log e] ?_
    have refused : perform? ⟨.keep (.empty 0), .debug⟩ (.log e) = none := by
      have accepts : e.level ≤ .debug := Nat.le_refl _
      rw [perform?_log, if_pos accepts, (Store.push?_eq_none_iff _ e).mpr rfl]
      rfl
    rw [serve?, List.foldlM_cons, refused]
    rfl
  · intro positive level calls
    obtain ⟨s, served, -⟩ := serve?_keep positive level calls
    rw [served]
    exact nofun

/-- **A log keeps the newest entries.** Whatever is done to a service on a new store that may hold
anything, no call panics. What the store holds then are the latest of the entries that the service has
accepted since the store was last cleared, in their order: all of them, or as many as there is room for.
It never holds more. -/
theorem keeps_newest (capacity : Nat) (positive : 1 ≤ capacity) (level : LogLevel) (calls : List Call) :
    let accepted := acceptedSince level calls
    ∃ s : Store, serve? ⟨.keep (.empty capacity), level⟩ calls = some ⟨.keep s, level⟩ ∧
      s.entries = accepted.rtake (min accepted.length capacity) ∧
      s.held.size = min accepted.length capacity ∧ s.held.size ≤ capacity := by
  intro accepted
  obtain ⟨s, served, -, held_eq⟩ := serve?_keep (Nat.one_le_iff_ne_zero.mp positive) level calls
  have held_eq' : s.entries = accepted.rtake (min accepted.length capacity) := by
    rw [held_eq, List.rtake, List.rtake]
    congr 1
    change accepted.length - capacity = _
    omega
  have size_eq : s.held.size = min accepted.length capacity := by
    change s.entries.length = _
    rw [held_eq', List.rtake, List.length_drop]
    omega
  exact ⟨s, served, held_eq', size_eq, size_eq ▸ Nat.min_le_right _ _⟩

/-- Room for two: of what comes behind the clearing one entry is not accepted, and of the other three the
first has to go. -/
theorem keeps_newest_of_four :
    let entry (notice : Notice) : Entry := .ofNotice 80 .epoch notice
    let calls : List Call := [.log (entry (.warning "early")), .clear, .log (entry (.warning "first")),
      .log (entry (.debug "unheard")), .log (entry (.warning "second")), .log (entry (.warning "third"))]
    1 ≤ 2 ∧ ∃ s : Store, serve? ⟨.keep (.empty 2), .warning⟩ calls = some ⟨.keep s, .warning⟩ ∧
      s.entries = [entry (.warning "second"), entry (.warning "third")] ∧ s.held.size = 2 := by
  intro entry calls
  have accepted : acceptedSince .warning calls = [entry (.warning "first"), entry (.warning "second"),
      entry (.warning "third")] := by decide +kernel
  obtain ⟨s, served, held_eq, size_eq, -⟩ := keeps_newest 2 (Nat.le_succ 1) .warning calls
  rw [accepted] at held_eq size_eq
  exact ⟨Nat.le_succ 1, s, served, held_eq, size_eq⟩

end Service

end GrammarLex
