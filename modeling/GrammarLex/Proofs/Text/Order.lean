import GrammarLex.Token.Basic
import Mathlib.Data.List.Infix
import Mathlib.Data.Prod.Lex
import Mathlib.Order.Monotone.Basic

/-!
# The order of places

Positions are ordered by the bytes in front of them, the places of tokens by line and column. For
arbitrary positions the two have nothing to do with each other, but every character moves a position
on in both. So among the positions of one text, which are those behind its fronts, both orders are
the order of the fronts by length.
-/
namespace GrammarLex

namespace Position

/-- Line and column, ordered lexicographically. -/
def place (p : Position) : Nat ×ₗ Nat := toLex (p.line, p.column)

theorem offset_lt_advance (p : Position) (c : Char) : p.offset < (p.advance c).offset := by
  rw [offset_advance]
  exact Nat.lt_add_of_pos_right c.utf8Size_pos

theorem place_lt_advance (p : Position) (c : Char) : p.place < (p.advance c).place := by
  rw [place, place, Prod.Lex.toLex_lt_toLex]
  unfold advance
  split
  next => exact .inl (Nat.lt_succ_self p.line)
  next => exact .inr ⟨rfl, Nat.lt_succ_self p.column⟩

section

variable {α : Type} [Preorder α] {key : Position → α} {p : Position} {text u v : List Char}

/-- What every character increases, a text increases. -/
theorem le_advanceBy (grows : ∀ p c, key p < key (p.advance c)) (p : Position) (text : List Char) :
    key p ≤ key (p.advanceBy text) := by
  induction text generalizing p with
  | nil => exact le_rfl
  | cons c text ih => exact (grows p c).le.trans (ih (p.advance c))

theorem lt_advanceBy (grows : ∀ p c, key p < key (p.advance c)) (p : Position) (some : text ≠ []) :
    key p < key (p.advanceBy text) := by
  cases text with
  | nil => exact absurd rfl some
  | cons c text => exact (grows p c).trans_le (le_advanceBy grows (p.advance c) text)

/-- Behind the longer of two fronts of a text it is greater. -/
theorem lt_of_length_lt (grows : ∀ p c, key p < key (p.advance c)) (front : u <+: text)
    (front' : v <+: text) (shorter : u.length < v.length) :
    key (p.advanceBy u) < key (p.advanceBy v) := by
  obtain ⟨between, rfl⟩ := List.prefix_of_prefix_length_le front front' shorter.le
  rw [advanceBy_append]
  apply lt_advanceBy grows
  rintro rfl
  rw [List.append_nil] at shorter
  exact Nat.lt_irrefl _ shorter

/-- Whatever every character increases orders the fronts of a text by their lengths. -/
theorem lt_iff_length_lt (grows : ∀ p c, key p < key (p.advance c)) (front : u <+: text)
    (front' : v <+: text) : key (p.advanceBy u) < key (p.advanceBy v) ↔ u.length < v.length := by
  constructor
  · intro less
    by_contra longer
    rcases Nat.lt_or_eq_of_le (Nat.le_of_not_lt longer) with shorter | same
    · exact lt_asymm less (lt_of_length_lt grows front' front shorter)
    · obtain rfl := (List.prefix_of_prefix_length_le front' front same.le).eq_of_length same
      exact lt_irrefl _ less
  · exact lt_of_length_lt grows front front'

end

/-- Equal positions compare as equal, and bytes decide where there are more of them. -/
theorem compare_eq_lt_iff {p q : Position} (same : p.offset = q.offset → p = q) :
    compare p q = .lt ↔ p.offset < q.offset := by
  rw [compare, Ordering.then_eq_lt, Nat.compare_eq_lt, Nat.compare_eq_eq]
  constructor
  · rintro (less | ⟨equal, later⟩)
    · exact less
    · rw [same equal] at later
      simp at later
  · exact .inl

variable {text u v : List Char}

theorem eq_of_offset_eq {p : Position} (front : u <+: text) (front' : v <+: text)
    (equal : (p.advanceBy u).offset = (p.advanceBy v).offset) : u = v := by
  have notShorter := (lt_iff_length_lt offset_lt_advance front front').not.mp equal.not_lt
  have notLonger := (lt_iff_length_lt offset_lt_advance front' front).not.mp equal.symm.not_lt
  have same : u.length = v.length := by omega
  exact (List.prefix_of_prefix_length_le front front' same.le).eq_of_length same

/-- **The two orders agree.** For the positions behind two fronts of one text it is the same whether
there are fewer bytes in front of the first, it comes first in the order of positions, or its line
and column come first. -/
theorem place_lt_iff (front : u <+: text) (front' : v <+: text) :
    ((start.advanceBy u).offset < (start.advanceBy v).offset ↔
        (start.advanceBy u).place < (start.advanceBy v).place) ∧
      (compare (start.advanceBy u) (start.advanceBy v) = .lt ↔
        (start.advanceBy u).place < (start.advanceBy v).place) := by
  have bytes := lt_iff_length_lt (p := start) offset_lt_advance front front'
  have places := lt_iff_length_lt (p := start) place_lt_advance front front'
  have agree := bytes.trans places.symm
  refine ⟨agree, (compare_eq_lt_iff ?_).trans agree⟩
  intro equal
  rw [eq_of_offset_eq front front' equal]

end Position

/-! ### Places of tokens -/

/-- Line and column, ordered lexicographically. -/
def Token.place (t : Token) : Nat ×ₗ Nat := toLex (t.line, t.column)

theorem Token.place_ofPosition (lexeme : String) (kind : TokenKind) (p : Position) :
    (ofPosition lexeme kind p).place = p.place := rfl

theorem Token.before_iff {a b : Token} : a.before b = true ↔ a.place < b.place := by
  rw [place, place, Prod.Lex.toLex_lt_toLex]
  simp [before]

/-- There is nothing to complain about where every token has its place behind the last. -/
theorem orderComplaint?_eq_none {tokens : List Token}
    (ordered : tokens.Pairwise (·.place < ·.place)) : orderComplaint? tokens = none := by
  rw [orderComplaint?, Option.map_eq_none_iff]
  induction tokens with
  | nil => rfl
  | cons first tokens ih =>
    cases tokens with
    | nil => rfl
    | cons second rest =>
      have less := List.rel_of_pairwise_cons ordered List.mem_cons_self
      have kept : ¬second.before first = true := Token.before_iff.not.mpr less.asymm
      rw [misplacedPair?, if_neg kept]
      exact ih ordered.of_cons

end GrammarLex
