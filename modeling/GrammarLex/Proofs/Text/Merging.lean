import GrammarLex.Text.Span
import GrammarLex.Proofs.Text.Order

/-!
# Merging spans

Spans are merged two at a time, so a number of them can be merged in many ways. How they are grouped
makes no difference at all. In what order they come makes none to the offsets: the merged span starts
where the first of them starts and ends where the last of them ends. It may make a difference to lines
and columns, because of two starts at one offset the later in the order is taken, but only for spans that
contradict each other. The spans of one text do not.
-/
namespace GrammarLex

/-- The position is one of the text, behind some front of it. -/
def Position.StandsIn (text : List Char) (p : Position) : Prop :=
  ∃ front, front <+: text ∧ p = start.advanceBy front

/-- In one text an offset belongs to one position. -/
theorem Position.StandsIn.eq_of_offset_eq {text : List Char} {p q : Position}
    (stands : p.StandsIn text) (stands' : q.StandsIn text) (equal : p.offset = q.offset) : p = q := by
  obtain ⟨front, inside, rfl⟩ := stands
  obtain ⟨front', inside', rfl⟩ := stands'
  rw [Position.eq_of_offset_eq inside inside' equal]

namespace Span

/-- The span does not end before it starts. -/
def Ordered (s : Span) : Prop := s.start.offset ≤ s.stop.offset

def Within (text : List Char) (s : Span) : Prop := s.start.StandsIn text ∧ s.stop.StandsIn text

/-- Spans that start at one offset start on one line and in one column, and likewise where they end. -/
structure Agree (spans : List Span) : Prop where
  starts : ∀ a ∈ spans, ∀ b ∈ spans, a.start.offset = b.start.offset → a.start = b.start
  stops : ∀ a ∈ spans, ∀ b ∈ spans, a.stop.offset = b.stop.offset → a.stop = b.stop

/-- The whole starts with the first of the spans and ends with the last of them. -/
structure Covers (spans : List Span) (whole : Span) : Prop where
  start_mem : ∃ s ∈ spans, s.start = whole.start
  stop_mem : ∃ s ∈ spans, s.stop = whole.stop
  start_le : ∀ s ∈ spans, whole.start.offset ≤ s.start.offset
  le_stop : ∀ s ∈ spans, s.stop.offset ≤ whole.stop.offset

/-- A way to merge spans two at a time. -/
inductive Merging where
  | alone (s : Span)
  | both (left right : Merging)

namespace Merging

/-- The spans that are merged, in order. -/
def spans : Merging → List Span
  | alone s => [s]
  | both left right => left.spans ++ right.spans

def merged : Merging → Span
  | alone s => s
  | both left right => left.merged.merge right.merged

end Merging

variable {spans others : List Span} {a b whole : Span} {text : List Char}

/-! ### Two spans -/

@[simp] theorem offset_start_merge (a b : Span) :
    (a.merge b).start.offset = min a.start.offset b.start.offset := by
  unfold merge
  dsimp only
  split <;> omega

@[simp] theorem offset_stop_merge (a b : Span) :
    (a.merge b).stop.offset = max a.stop.offset b.stop.offset := by
  unfold merge
  dsimp only
  split <;> omega

/-- Of equal offsets both groupings take the position of the later span. -/
theorem merge_assoc (a b c : Span) : (a.merge b).merge c = a.merge (b.merge c) := by
  unfold merge
  congr 1
  · grind
  · grind

instance : Std.Associative merge := ⟨merge_assoc⟩

/-! ### Grouping -/

namespace Merging

theorem exists_cons (m : Merging) : ∃ first rest, m.spans = first :: rest := by
  induction m with
  | alone s => exact ⟨s, [], rfl⟩
  | both left right ihLeft ihRight =>
    obtain ⟨first, rest, spans_eq⟩ := ihLeft
    exact ⟨first, rest ++ right.spans, by rw [spans, spans_eq, List.cons_append]⟩

theorem exists_spans_eq (first : Span) (rest : List Span) :
    ∃ m : Merging, m.spans = first :: rest := by
  induction rest generalizing first with
  | nil => exact ⟨alone first, rfl⟩
  | cons second rest ih =>
    obtain ⟨m, spans_eq⟩ := ih second
    exact ⟨both (alone first) m, by rw [spans, spans_eq]; rfl⟩

/-- However spans are grouped, they are merged as if one after the other. -/
theorem merged_eq_foldl (m : Merging) {first : Span} {rest : List Span}
    (spans_eq : m.spans = first :: rest) : m.merged = rest.foldl merge first := by
  induction m generalizing first rest with
  | alone s =>
    obtain ⟨rfl, rfl⟩ := List.cons.inj spans_eq
    rfl
  | both left right ihLeft ihRight =>
    obtain ⟨front, before, left_eq⟩ := left.exists_cons
    obtain ⟨middle, behind, right_eq⟩ := right.exists_cons
    rw [spans, left_eq, right_eq, List.cons_append] at spans_eq
    obtain ⟨rfl, rfl⟩ := List.cons.inj spans_eq
    calc left.merged.merge right.merged
      _ = (before.foldl merge front).merge (behind.foldl merge middle) := by
        rw [ihLeft left_eq, ihRight right_eq]
      _ = behind.foldl merge ((before.foldl merge front).merge middle) := List.foldl_assoc.symm
      _ = (before ++ middle :: behind).foldl merge front := by
        rw [List.foldl_append, List.foldl_cons]

end Merging

/-! ### Covering -/

namespace Covers

theorem alone (s : Span) : Covers [s] s := by
  constructor <;> simp

theorem both (left : Covers spans a) (right : Covers others b) :
    Covers (spans ++ others) (a.merge b) where
  start_mem := by
    obtain ⟨s, member, starts⟩ := left.start_mem
    obtain ⟨t, member', starts'⟩ := right.start_mem
    unfold merge
    dsimp only
    split
    · exact ⟨s, List.mem_append_left _ member, starts⟩
    · exact ⟨t, List.mem_append_right _ member', starts'⟩
  stop_mem := by
    obtain ⟨s, member, stops⟩ := left.stop_mem
    obtain ⟨t, member', stops'⟩ := right.stop_mem
    unfold merge
    dsimp only
    split
    · exact ⟨s, List.mem_append_left _ member, stops⟩
    · exact ⟨t, List.mem_append_right _ member', stops'⟩
  start_le := by
    intro s member
    rw [offset_start_merge]
    rcases List.mem_append.mp member with member | member
    · exact (Nat.min_le_left _ _).trans (left.start_le s member)
    · exact (Nat.min_le_right _ _).trans (right.start_le s member)
  le_stop := by
    intro s member
    rw [offset_stop_merge]
    rcases List.mem_append.mp member with member | member
    · exact (left.le_stop s member).trans (Nat.le_max_left _ _)
    · exact (right.le_stop s member).trans (Nat.le_max_right _ _)

/-- Only which spans there are counts, neither their order nor how often they are there. -/
theorem of_mem_iff (covers : Covers spans whole) (same : ∀ s, s ∈ spans ↔ s ∈ others) :
    Covers others whole := by
  obtain ⟨start_mem, stop_mem, start_le, le_stop⟩ := covers
  simp only [same] at start_mem stop_mem start_le le_stop
  exact ⟨start_mem, stop_mem, start_le, le_stop⟩

/-- Whichever span starts the whole ends no later than the whole does. -/
theorem ordered (covers : Covers spans whole) (ordered : ∀ s ∈ spans, s.Ordered) : whole.Ordered := by
  obtain ⟨s, member, starts⟩ := covers.start_mem
  calc whole.start.offset
    _ = s.start.offset := by rw [starts]
    _ ≤ s.stop.offset := ordered s member
    _ ≤ whole.stop.offset := covers.le_stop s member

theorem size_le (covers : Covers spans whole) (ordered : ∀ s ∈ spans, s.Ordered) :
    ∃ n, whole.size? = .ok n ∧ ∀ s ∈ spans, ∃ k, s.size? = .ok k ∧ k ≤ n := by
  refine ⟨_, if_pos (covers.ordered ordered), fun s member => ⟨_, if_pos (ordered s member), ?_⟩⟩
  have starts := covers.start_le s member
  have stops := covers.le_stop s member
  omega

/-- Spans that agree are covered by one span only. -/
theorem unique (agree : Agree spans) (covers : Covers spans a) (covers' : Covers spans b) : a = b := by
  obtain ⟨s, member, starts⟩ := covers.start_mem
  obtain ⟨s', member', starts'⟩ := covers'.start_mem
  obtain ⟨t, last, stops⟩ := covers.stop_mem
  obtain ⟨t', last', stops'⟩ := covers'.stop_mem
  have start_eq : a.start = b.start := by
    have equal : a.start.offset = b.start.offset :=
      Nat.le_antisymm (starts' ▸ covers.start_le s' member') (starts ▸ covers'.start_le s member)
    rw [← starts, ← starts'] at equal ⊢
    exact agree.starts s member s' member' equal
  have stop_eq : a.stop = b.stop := by
    have equal : a.stop.offset = b.stop.offset :=
      Nat.le_antisymm (stops ▸ covers'.le_stop t last) (stops' ▸ covers.le_stop t' last')
    rw [← stops, ← stops'] at equal ⊢
    exact agree.stops t last t' last' equal
  cases a
  cases b
  cases start_eq
  cases stop_eq
  rfl

end Covers

/-- Without agreement the order shows: these two spans contradict each other about their line. -/
example : merge ⟨⟨0, 1, 1⟩, ⟨1, 1, 2⟩⟩ ⟨⟨0, 2, 1⟩, ⟨1, 2, 2⟩⟩ ≠
    merge ⟨⟨0, 2, 1⟩, ⟨1, 2, 2⟩⟩ ⟨⟨0, 1, 1⟩, ⟨1, 1, 2⟩⟩ := by decide

theorem Merging.covers (m : Merging) : Covers m.spans m.merged := by
  induction m with
  | alone s => exact .alone s
  | both left right ihLeft ihRight => exact ihLeft.both ihRight

theorem agree_of_within (within : ∀ s ∈ spans, s.Within text) : Agree spans where
  starts a member b member' := (within a member).1.eq_of_offset_eq (within b member').1
  stops a member b member' := (within a member).2.eq_of_offset_eq (within b member').2

/-! ### Any number of spans -/

/-- **Merging covers, in whatever order.** Merging a list of spans gives one span, however they are
grouped. Merging them in another order, and some of them more than once, gives a span that starts with
the first of them and ends with the last, so it is ordered as they are and its size is known and at least
that of each. If they agree on positions at one offset, as the spans of one text do, it is the very same
span, and merging that with itself or with any of them again changes nothing. -/
theorem merging_covers (first : Span) (rest : List Span) (ordered : ∀ s ∈ first :: rest, s.Ordered) :
    let spans := first :: rest
    let whole := rest.foldl merge first
    (∀ m : Merging, m.spans = spans → m.merged = whole) ∧
    (∀ m : Merging, (∀ s, s ∈ m.spans ↔ s ∈ spans) →
      Covers spans m.merged ∧ m.merged.Ordered ∧
      (∃ n, m.merged.size? = .ok n ∧ ∀ s ∈ spans, ∃ k, s.size? = .ok k ∧ k ≤ n) ∧
      (Agree spans → m.merged = whole)) ∧
    (Agree spans → ∀ s ∈ whole :: spans, whole.merge s = whole ∧ s.merge whole = whole) ∧
    ∀ text, (∀ s ∈ spans, s.Within text) → Agree spans := by
  intro spans whole
  have whole_covers : Covers spans whole := by
    obtain ⟨m, spans_eq⟩ := Merging.exists_spans_eq first rest
    have covers := m.covers
    rwa [spans_eq, m.merged_eq_foldl spans_eq] at covers
  refine ⟨fun m => m.merged_eq_foldl, ?_, ?_, fun text => agree_of_within⟩
  · intro m same
    have covers := m.covers.of_mem_iff same
    exact ⟨covers, covers.ordered ordered, covers.size_le ordered, fun agree =>
      covers.unique agree whole_covers⟩
  · intro agree s member
    -- What is merged with the whole covers some of the spans that the whole covers already.
    obtain ⟨part, covers, included⟩ : ∃ part, Covers part s ∧ part ⊆ spans := by
      rcases List.mem_cons.mp member with rfl | member
      · exact ⟨spans, whole_covers, List.Subset.refl spans⟩
      · exact ⟨[s], .alone s, fun t known => List.mem_singleton.mp known ▸ member⟩
    constructor
    · refine ((whole_covers.both covers).of_mem_iff fun t => ?_).unique agree whole_covers
      rw [List.mem_append, or_iff_left_of_imp fun member => included member]
    · refine ((covers.both whole_covers).of_mem_iff fun t => ?_).unique agree whole_covers
      rw [List.mem_append, or_iff_right_of_imp fun member => included member]

/-- The newline, the front up to it and the letter behind it, merged from the last to the first and the
letter once more. -/
theorem merging_covers_of_lines :
    let newline : Span := ⟨⟨1, 1, 2⟩, ⟨2, 2, 1⟩⟩
    let front : Span := ⟨⟨0, 1, 1⟩, ⟨2, 2, 1⟩⟩
    let letter : Span := ⟨⟨2, 2, 1⟩, ⟨4, 2, 2⟩⟩
    let spans := [newline, front, letter]
    let m : Merging :=
      .both (.both (.alone letter) (.alone front)) (.both (.alone newline) (.alone letter))
    (∀ s ∈ spans, s.Ordered) ∧ (∀ s ∈ spans, s.Within "a\né".toList) ∧
      (∀ s, s ∈ m.spans ↔ s ∈ spans) ∧ m.merged = ⟨⟨0, 1, 1⟩, ⟨4, 2, 2⟩⟩ ∧
      m.merged = [front, letter].foldl merge newline ∧ m.merged.merge m.merged = m.merged ∧
      ∃ n, m.merged.size? = .ok n ∧ ∀ s ∈ spans, ∃ k, s.size? = .ok k ∧ k ≤ n := by
  intro newline front letter spans m
  have ordered : ∀ s ∈ spans, s.Ordered := by
    simp [spans, Ordered, newline, front, letter]
  have within : ∀ s ∈ spans, s.Within "a\né".toList := by
    have atStart : Position.StandsIn "a\né".toList ⟨0, 1, 1⟩ := ⟨[], by decide, rfl⟩
    have behindLetter : Position.StandsIn "a\né".toList ⟨1, 1, 2⟩ := ⟨['a'], by decide, by decide⟩
    have behindLine : Position.StandsIn "a\né".toList ⟨2, 2, 1⟩ := ⟨['a', '\n'], by decide, by decide⟩
    have atEnd : Position.StandsIn "a\né".toList ⟨4, 2, 2⟩ := ⟨['a', '\n', 'é'], by decide, by decide⟩
    simp only [spans, List.forall_mem_cons]
    exact ⟨⟨behindLetter, behindLine⟩, ⟨atStart, behindLine⟩, ⟨behindLine, atEnd⟩, by simp⟩
  have same : ∀ s, s ∈ m.spans ↔ s ∈ spans := by
    intro s
    simp only [m, spans, Merging.spans, List.cons_append, List.nil_append, List.mem_cons,
      List.not_mem_nil, or_false]
    tauto
  obtain ⟨-, inAnyOrder, absorbs, agrees⟩ := merging_covers newline [front, letter] ordered
  have agree : Agree spans := agrees _ within
  obtain ⟨-, -, sizes, equal⟩ := inAnyOrder m same
  have known := equal agree
  refine ⟨ordered, within, same, by decide, known, ?_, sizes⟩
  rw [known]
  exact (absorbs agree _ List.mem_cons_self).1

end Span

end GrammarLex
