import GrammarLex.Proofs.Text.Leads
import GrammarLex.Proofs.Text.Utf8

/-!
# Looking at a source of bytes

A source is looked at in any order, with or without taking the character. What it answers is what a
cursor on a text would: the text is the longest one whose form the bytes start with, and behind it
every look finds the same end or the same error. `CharSource.Stands` is the invariant: it says which
bytes are still to be handed out, whether or not the first character of them has been decoded.
-/
namespace GrammarLex

namespace CharSource

open Utf8

/-- A look at the next character, which may take it. -/
inductive Look where
  | peek
  | next
  deriving DecidableEq, Repr

def look : Look → EStateM DecodeError CharSource (Option Char)
  | .peek => peek
  | .next => next

/-- What a source answers to a series of looks. -/
def answers (s : CharSource) : List Look → List (Except DecodeError (Option Char))
  | [] => []
  | l :: looks => answerOf (look l s) :: answers (finalState (look l s)) looks

/-- What is to be answered to a series of looks at a text: they all see its first character, and
`next` takes it. Behind the text every look gets the same answer. -/
def replies (behind : Except DecodeError (Option Char)) :
    List Char → List Look → List (Except DecodeError (Option Char))
  | _, [] => []
  | [], _ :: looks => behind :: replies behind [] looks
  | c :: text, .peek :: looks => .ok (some c) :: replies behind (c :: text) looks
  | c :: text, .next :: looks => .ok (some c) :: replies behind text looks

/-- The bytes a source has not handed out yet and the offset of the first of them. -/
inductive Stands : List UInt8 → Nat → CharSource → Prop where
  | unseen (bytes : List UInt8) (offset : Nat) :
      Stands bytes offset ⟨⟨bytes.map .byte, offset⟩, none, none⟩
  | seen {bytes : List UInt8} {c : Char} {rest : List UInt8} (offset : Nat)
      (same : bytes = String.utf8EncodeChar c ++ rest) :
      Stands bytes offset ⟨⟨rest.map .byte, offset + c.utf8Size⟩, some (some c), none⟩
  | ended (offset : Nat) : Stands [] offset ⟨⟨[], offset⟩, some none, none⟩
  | refused {bytes : List UInt8} (malformed : Malformed bytes) (offset : Nat) (feed : Feed)
      (lookahead : Option (Option Char)) :
      Stands bytes offset ⟨feed, lookahead, some (.invalidUtf8 offset)⟩

variable {s : CharSource} {offset : Nat} {c : Char} {bytes rest : List UInt8}

private theorem peek_character (stands : Stands (String.utf8EncodeChar c ++ rest) offset s) :
    ∃ s', peek s = .ok (some c) s' ∧ Stands (String.utf8EncodeChar c ++ rest) offset s' := by
  generalize front : String.utf8EncodeChar c ++ rest = bytes at stands
  cases stands with
  | unseen =>
    subst front
    refine ⟨_, ?_, .seen offset rfl⟩
    rw [peek, List.map_append, Feed.decode_encoded]
  | seen _ same =>
    obtain ⟨rfl, rfl⟩ := encodeChar_append_inj (front.trans same)
    exact ⟨_, rfl, .seen offset same⟩
  | ended => exact absurd (List.append_eq_nil_iff.mp front).1 (utf8EncodeChar_ne_nil c)
  | refused malformed => exact absurd (front ▸ malformed) (not_malformed_encodeChar c rest)

private theorem next_character (stands : Stands (String.utf8EncodeChar c ++ rest) offset s) :
    ∃ s', next s = .ok (some c) s' ∧ Stands rest (offset + c.utf8Size) s' := by
  generalize front : String.utf8EncodeChar c ++ rest = bytes at stands
  cases stands with
  | unseen =>
    subst front
    refine ⟨_, ?_, .unseen _ _⟩
    rw [next, List.map_append, Feed.decode_encoded]
  | seen _ same =>
    obtain ⟨rfl, rfl⟩ := encodeChar_append_inj (front.trans same)
    exact ⟨_, rfl, .unseen _ _⟩
  | ended => exact absurd (List.append_eq_nil_iff.mp front).1 (utf8EncodeChar_ne_nil c)
  | refused malformed => exact absurd (front ▸ malformed) (not_malformed_encodeChar c rest)

/-- An end of input that has been consumed is found again. -/
private theorem look_end (stands : Stands [] offset s) (l : Look) :
    ∃ s', look l s = .ok none s' ∧ Stands [] offset s' := by
  generalize empty : ([] : List UInt8) = bytes at stands
  cases stands with
  | unseen =>
    subst empty
    cases l with
    | peek => exact ⟨_, rfl, .ended offset⟩
    | next => exact ⟨_, rfl, .unseen [] offset⟩
  | seen _ same =>
    exact absurd (List.append_eq_nil_iff.mp (empty.trans same).symm).1 (utf8EncodeChar_ne_nil _)
  | ended =>
    cases l with
    | peek => exact ⟨_, rfl, .ended offset⟩
    | next => exact ⟨_, rfl, .unseen [] offset⟩
  | refused malformed => exact absurd empty.symm (Malformed.ne_nil malformed)

private theorem look_malformed (malformed : Malformed bytes) (stands : Stands bytes offset s)
    (l : Look) :
    ∃ s', look l s = .error (.invalidUtf8 offset) s' ∧ Stands bytes offset s' := by
  cases stands with
  | unseen =>
    obtain ⟨feed, refused⟩ := Feed.decode_malformed malformed offset
    cases l with
    | peek =>
      refine ⟨_, ?_, .refused malformed offset feed none⟩
      rw [look, peek, refused]
    | next =>
      refine ⟨_, ?_, .refused malformed offset feed none⟩
      rw [look, next, refused]
  | seen _ same => exact absurd (same ▸ malformed) (not_malformed_encodeChar _ _)
  | ended => exact absurd rfl (Malformed.ne_nil malformed)
  | refused => cases l <;> exact ⟨_, rfl, .refused malformed offset _ _⟩

/-- The answers of a source that still has a text in front of it. -/
private theorem answers_of_text (bad : rest = [] ∨ Malformed rest) (text : List Char)
    (stands : Stands (encode text ++ rest) offset s) (looks : List Look) :
    s.answers looks =
      replies (if rest = [] then .ok none else .error (.invalidUtf8 (offset + (encode text).length)))
        text looks := by
  induction looks generalizing s text offset with
  | nil => cases text <;> rfl
  | cons l looks ih =>
    cases text with
    | nil =>
      -- Behind the text the source stays where it is, whichever look it is.
      rcases bad with rfl | malformed
      · obtain ⟨s', looked, stands'⟩ := look_end stands l
        have others := ih [] stands'
        rw [if_pos rfl] at others ⊢
        rw [answers, looked, finalState_ok, others]
        rfl
      · obtain ⟨s', looked, stands'⟩ := look_malformed malformed stands l
        have others := ih [] stands'
        rw [if_neg malformed.ne_nil] at others ⊢
        rw [answers, looked, finalState_error, others]
        rfl
    | cons c text =>
      rw [encode_cons, List.append_assoc] at stands
      cases l with
      | peek =>
        obtain ⟨s', looked, stands'⟩ := peek_character stands
        rw [← List.append_assoc, ← encode_cons] at stands'
        rw [answers, look, looked, finalState_ok, ih (c :: text) stands']
        rfl
      | next =>
        obtain ⟨s', looked, stands'⟩ := next_character stands
        have past : offset + (encode (c :: text)).length =
            offset + c.utf8Size + (encode text).length := by
          rw [encode_cons, List.length_append, String.length_utf8EncodeChar, Nat.add_assoc]
        rw [answers, look, looked, finalState_ok, ih text stands', past]
        rfl

/-- A source of bytes hands out the longest text whose UTF-8 form the bytes start with, wherever it
is only looked at in between. Behind the text it reports the end of the input for ever if there are
no further bytes, and otherwise refuses the first of them for ever. So the form of a text gives the
text, and malformed bytes behind it are refused at the first of them. -/
theorem answers_utf8 (bytes : List UInt8) :
    (∃ text, LongestText bytes text ∧ ∀ looks, answers ⟨.ofBytes bytes, none, none⟩ looks =
      replies (if encode text = bytes then .ok none else .error (.invalidUtf8 (encode text).length))
        text looks) ∧
    (∀ text, bytes = encode text → ∀ looks,
      answers ⟨.ofBytes bytes, none, none⟩ looks = replies (.ok none) text looks) ∧
    (∀ text bad, bytes = encode text ++ bad → Malformed bad → ∀ looks,
      answers ⟨.ofBytes bytes, none, none⟩ looks =
        replies (.error (.invalidUtf8 (encode text).length)) text looks) := by
  have stands := Stands.unseen bytes 0
  refine ⟨?_, ?_, ?_⟩
  · obtain ⟨text, rest, rfl, bad⟩ := exists_text bytes
    refine ⟨text, longestText_of_rest bad text, fun looks => ?_⟩
    rw [Feed.ofBytes, answers_of_text bad text stands, Nat.zero_add]
    simp only [List.self_eq_append_right]
  · rintro text rfl looks
    rw [← List.append_nil (encode text)] at stands ⊢
    rw [Feed.ofBytes, answers_of_text (.inl rfl) text stands, if_pos rfl]
  · rintro text bad rfl malformed looks
    rw [Feed.ofBytes, answers_of_text (.inr malformed) text stands, if_neg malformed.ne_nil,
      Nat.zero_add]

/-- An overlong form of a slash behind a letter. -/
theorem answers_utf8_overlong :
    Malformed [0xE0, 0x80, 0xAF] ∧
      answers ⟨.ofBytes [0x61, 0xE0, 0x80, 0xAF], none, none⟩ [.peek, .next, .next, .peek] =
        [.ok (some 'a'), .ok (some 'a'), .error (.invalidUtf8 1), .error (.invalidUtf8 1)] := by
  have malformed : Malformed (form 2 0x2F ++ []) := .overlong (by decide) (by decide)
  exact ⟨malformed, (answers_utf8 [0x61, 0xE0, 0x80, 0xAF]).2.2 ['a'] _ rfl malformed _⟩

end CharSource

end GrammarLex
