import GrammarLex.Proofs.Text.Contents
import Mathlib.Tactic.Ring

/-!
# Strict UTF-8

Decoding takes the UTF-8 form of a character off the bytes, and refuses bytes that do not start with
one at the offset of the first of them. `Utf8.form` spreads any number over a lead byte and
continuation bytes, whether or not that is the form of a character; what a decoder must refuse is
listed by `Utf8.Malformed`. Bytes that start with no form are malformed, so there is a longest text
whose form bytes start with, and what is behind it is malformed or nothing.
-/
namespace GrammarLex

namespace Utf8

/-- The UTF-8 form of a text. -/
def encode (text : List Char) : List UInt8 := text.flatMap String.utf8EncodeChar

/-- No longer text has a UTF-8 form that the bytes start with. -/
structure LongestText (bytes : List UInt8) (text : List Char) : Prop where
  encode_prefix : encode text <+: bytes
  longest : ∀ other, encode other <+: bytes → (encode other).length ≤ (encode text).length

/-! ### The forms of numbers -/

/-- The bytes for the low bits of a number, six bits each. -/
def continuations : Nat → Nat → List UInt8
  | 0, _ => []
  | count + 1, v => UInt8.ofNat (v / 64 ^ count % 64 + 128) :: continuations count v

/-- What a lead byte adds to the high bits to announce the continuation bytes. -/
def marker : Nat → Nat
  | 0 => 0
  | 1 => 0xC0
  | 2 => 0xE0
  | _ => 0xF0

/-- The numbers below fit into a lead byte and the given number of continuation bytes. -/
def capacity : Nat → Nat
  | 0 => 0x80
  | 1 => 0x800
  | 2 => 0x10000
  | _ => 0x200000

/-- A number spread over a lead byte and the given number of continuation bytes. -/
def form (count v : Nat) : List UInt8 :=
  UInt8.ofNat (v / 64 ^ count + marker count) :: continuations count v

def IsContinuation (b : UInt8) : Prop := 0x80 ≤ b.toNat ∧ b.toNat ≤ 0xBF

/-- Bytes that no text in UTF-8 starts with. -/
inductive Malformed : List UInt8 → Prop where
  -- A form that is longer than the number needs.
  | overlong {count v : Nat} {rest : List UInt8} (few : count < 3) (fits : v < capacity count) :
      Malformed (form (count + 1) v ++ rest)
  | surrogate {v : Nat} {rest : List UInt8} (low : 0xD800 ≤ v) (high : v ≤ 0xDFFF) :
      Malformed (form 2 v ++ rest)
  | tooLarge {v : Nat} {rest : List UInt8} (above : 0x10FFFF < v) (fits : v < capacity 3) :
      Malformed (form 3 v ++ rest)
  -- A continuation byte with no lead byte in front of it.
  | stray {b : UInt8} {rest : List UInt8} (continues : IsContinuation b) : Malformed (b :: rest)
  -- A byte that announces more than three continuation bytes, or nothing at all.
  | foreign {b : UInt8} {rest : List UInt8} (large : 0xF8 ≤ b.toNat) : Malformed (b :: rest)
  | truncated {count v kept : Nat} {rest : List UInt8} (few : count ≤ 3) (fits : v < capacity count)
      (missing : kept < count) (ends : ∀ b, rest.head? = some b → ¬IsContinuation b) :
      Malformed ((form count v).take (kept + 1) ++ rest)

/-- A form is needed from where the shorter one is full. -/
theorem leastOf_succ {count : Nat} (few : count < 3) : Feed.leastOf (count + 1) = capacity count := by
  match count, few with
  | 0, _ | 1, _ | 2, _ => rfl

theorem capacity_le {count : Nat} (few : count < 3) : capacity count ≤ capacity (count + 1) := by
  match count, few with
  | 0, _ | 1, _ | 2, _ => decide

theorem Malformed.ne_nil {bytes : List UInt8} (malformed : Malformed bytes) : bytes ≠ [] := by
  cases malformed <;> simp [form]

theorem encode_cons (c : Char) (text : List Char) :
    encode (c :: text) = String.utf8EncodeChar c ++ encode text :=
  List.flatMap_cons

/-- The form of a character is the shortest form of its number. -/
theorem utf8EncodeChar_eq_form {count : Nat} {c : Char} (few : count ≤ 3)
    (least : Feed.leastOf count ≤ c.toNat) (fits : c.toNat < capacity count) :
    String.utf8EncodeChar c = form count c.toNat := by
  have same : c.val.toNat = c.toNat := rfl
  have bound : c.toNat < 0x110000 := by
    have valid : c.toNat.isValidChar := c.valid
    simp only [Nat.isValidChar] at valid
    omega
  match count, few with
  | 0, _ =>
    simp only [capacity] at fits
    simp only [String.utf8EncodeChar, same, form, continuations, marker]
    rw [if_pos (by omega)]
    simp
  | 1, _ =>
    simp only [capacity, Feed.leastOf] at fits least
    have high : c.toNat / 64 % 32 = c.toNat / 64 := Nat.mod_eq_of_lt (by omega)
    simp only [String.utf8EncodeChar, same, form, continuations, marker]
    rw [if_neg (by omega), if_pos (by omega), high]
    simp
  | 2, _ =>
    simp only [capacity, Feed.leastOf] at fits least
    have high : c.toNat / 4096 % 16 = c.toNat / 4096 := Nat.mod_eq_of_lt (by omega)
    simp only [String.utf8EncodeChar, same, form, continuations, marker]
    rw [if_neg (by omega), if_neg (by omega), if_pos (by omega), high]
    simp
  | 3, _ =>
    simp only [capacity, Feed.leastOf] at fits least
    have high : c.toNat / 262144 % 8 = c.toNat / 262144 := Nat.mod_eq_of_lt (by omega)
    simp only [String.utf8EncodeChar, same, form, continuations, marker]
    rw [if_neg (by omega), if_neg (by omega), if_neg (by omega), high]
    simp

/-! ### What bytes start with -/

section

variable {count v : Nat} {b : UInt8}

private theorem continuation_eq (continues : IsContinuation b) :
    UInt8.ofNat (b.toNat % 64 + 128) = b := by
  simp only [IsContinuation] at continues
  have same : b.toNat % 64 + 128 = b.toNat := by omega
  rw [same, UInt8.ofNat_toNat]

/-- Bytes hold the continuations of a number with given high bits, or break off among them. -/
private theorem continuations_or_short (count high : Nat) (bytes : List UInt8) :
    ∃ v, v / 64 ^ count = high ∧
      ((∃ rest, bytes = continuations count v ++ rest) ∨
        ∃ kept rest, kept < count ∧ bytes = (continuations count v).take kept ++ rest ∧
          ∀ b, rest.head? = some b → ¬IsContinuation b) := by
  induction count generalizing high bytes with
  | zero => exact ⟨high, by simp, .inl ⟨bytes, rfl⟩⟩
  | succ count ih =>
    have low : high * 64 ^ (count + 1) / 64 ^ (count + 1) = high :=
      Nat.mul_div_cancel _ (Nat.pow_pos (by omega))
    cases bytes with
    | nil => exact ⟨_, low, .inr ⟨0, [], Nat.succ_pos _, rfl, by simp⟩⟩
    | cons b bytes =>
      by_cases continues : IsContinuation b
      · -- The bits of this byte become the lowest of the high ones.
        obtain ⟨v, bits, kept⟩ := ih (high * 64 + b.toNat % 64) bytes
        have above : v / 64 ^ (count + 1) = high := by
          rw [Nat.pow_succ, ← Nat.div_div_eq_div_mul, bits]
          omega
        have front : continuations (count + 1) v = b :: continuations count v := by
          have own : v / 64 ^ count % 64 = b.toNat % 64 := by
            rw [bits]
            omega
          rw [continuations, own, continuation_eq continues]
        refine ⟨v, above, ?_⟩
        rw [front]
        rcases kept with ⟨rest, rfl⟩ | ⟨kept, rest, missing, rfl, ends⟩
        · exact .inl ⟨rest, rfl⟩
        · exact .inr ⟨kept + 1, rest, Nat.succ_lt_succ missing, rfl, ends⟩
      · refine ⟨_, low, .inr ⟨0, b :: bytes, Nat.succ_pos _, rfl, ?_⟩⟩
        intro b' same
        rw [List.head?_cons, Option.some.injEq] at same
        rwa [← same]

/-- Every byte continues a form, leads one, or belongs to none. -/
private theorem leads_or_not (b : UInt8) :
    IsContinuation b ∨ 0xF8 ≤ b.toNat ∨
      ∃ count high, count ≤ 3 ∧ b = UInt8.ofNat (high + marker count) ∧
        (high + 1) * 64 ^ count ≤ capacity count := by
  have leads {count : Nat} (high : Nat) (same : high + marker count = b.toNat) :
      b = UInt8.ofNat (high + marker count) := by
    rw [same, UInt8.ofNat_toNat]
  simp only [IsContinuation]
  by_cases ascii : b.toNat < 0x80
  · exact .inr (.inr ⟨0, b.toNat, by omega, leads _ rfl, by simp only [capacity]; omega⟩)
  by_cases two : 0xC0 ≤ b.toNat ∧ b.toNat ≤ 0xDF
  · refine .inr (.inr ⟨1, b.toNat - 0xC0, by omega, leads _ ?_, by simp only [capacity]; omega⟩)
    simp only [marker]
    omega
  by_cases three : 0xE0 ≤ b.toNat ∧ b.toNat ≤ 0xEF
  · refine .inr (.inr ⟨2, b.toNat - 0xE0, by omega, leads _ ?_, by simp only [capacity]; omega⟩)
    simp only [marker]
    omega
  by_cases four : 0xF0 ≤ b.toNat ∧ b.toNat ≤ 0xF7
  · refine .inr (.inr ⟨3, b.toNat - 0xF0, by omega, leads _ ?_, by simp only [capacity]; omega⟩)
    simp only [marker]
    omega
  · omega

/-- The form of a number is that of a character, or malformed. -/
private theorem form_cases (few : count ≤ 3) (fits : v < capacity count) (rest : List UInt8) :
    (∃ c, form count v = String.utf8EncodeChar c) ∨ Malformed (form count v ++ rest) := by
  by_cases scalar : Feed.leastOf count ≤ v ∧ v.isValidChar
  · have number : (Char.ofNat v).toNat = v := by
      rw [Char.ofNat, dif_pos scalar.2]
      rfl
    refine .inl ⟨Char.ofNat v, ?_⟩
    rw [utf8EncodeChar_eq_form few] <;> rw [number]
    · exact scalar.1
    · exact fits
  right
  cases count with
  | zero =>
    simp only [Feed.leastOf, capacity, Nat.isValidChar] at scalar fits
    omega
  | succ count =>
    have fewer : count < 3 := few
    by_cases short : v < capacity count
    · exact .overlong fewer short
    · -- The form is the shortest one, so no character has the number.
      rw [leastOf_succ fewer] at scalar
      obtain rfl | rfl | rfl : count = 0 ∨ count = 1 ∨ count = 2 := by omega
      · simp only [Nat.isValidChar, capacity] at fits short scalar
        omega
      · simp only [Nat.isValidChar, capacity] at fits short scalar
        exact .surrogate (by omega) (by omega)
      · by_cases above : 0x10FFFF < v
        · exact .tooLarge above fits
        · simp only [Nat.isValidChar, capacity] at fits short scalar
          omega

/-- Bytes start with the form of a character, or they are malformed. -/
theorem character_or_malformed (b : UInt8) (bytes : List UInt8) :
    (∃ c rest, b :: bytes = String.utf8EncodeChar c ++ rest) ∨ Malformed (b :: bytes) := by
  rcases leads_or_not b with continues | large | ⟨count, high, few, rfl, within⟩
  · exact .inr (.stray continues)
  · exact .inr (.foreign large)
  obtain ⟨v, rfl, parts⟩ := continuations_or_short count high bytes
  have fits : v < capacity count :=
    Nat.lt_of_lt_of_le
      ((Nat.div_lt_iff_lt_mul (Nat.pow_pos (by omega))).mp (Nat.lt_succ_self _)) within
  rcases parts with ⟨rest, rfl⟩ | ⟨kept, rest, missing, rfl, ends⟩
  · rcases form_cases few fits rest with ⟨c, same⟩ | malformed
    · exact .inl ⟨c, rest, by rw [← same]; rfl⟩
    · exact .inr malformed
  · exact .inr (.truncated few fits missing ends)

end

end Utf8

namespace Feed

open Utf8

variable {count kept bits v offset : Nat} {b : UInt8} {bytes rest : List UInt8} {c : Char}

/-! ### Taking a form off the bytes -/

theorem decode_lead (lead : UInt8) (ds : List Delivery) (offset : Nat) :
    decode ⟨.byte lead :: ds, offset⟩ =
      match announced? lead with
      | none => .error (.invalidUtf8 offset) ⟨ds, offset + 1⟩
      | some (count, bits) =>
        match takeTail count bits ⟨ds, offset + 1⟩ with
        | .error e feed => .error e feed
        | .ok value feed =>
          match value.bind (scalar? count) with
          | some c => .ok (some c) feed
          | none => .error (.invalidUtf8 offset) feed := by
  simp only [decode, bind_apply, get_apply, nextByte, takeByte]
  cases announced? lead with
  | none => rfl
  | some announcement =>
    simp only [bind_apply]
    cases takeTail announcement.1 announcement.2 ⟨ds, offset + 1⟩ with
    | error e feed => rfl
    | ok value feed =>
      simp only
      cases value.bind (scalar? announcement.1) <;> rfl

private theorem takeTail_continuations (count bits v offset : Nat) (rest : List UInt8) :
    takeTail count bits ⟨(continuations count v ++ rest).map .byte, offset⟩ =
      .ok (some (bits * 64 ^ count + v % 64 ^ count)) ⟨rest.map .byte, offset + count⟩ := by
  -- Each continuation byte moves the bits up by six and puts its own behind them.
  induction count generalizing bits offset with
  | zero => simp [continuations, takeTail, Nat.mod_one]
  | succ count ih =>
    have moved : (bits * 64 + v / 64 ^ count % 64) * 64 ^ count + v % 64 ^ count =
        bits * 64 ^ (count + 1) + v % 64 ^ (count + 1) := by
      rw [Nat.mod_pow_succ, Nat.pow_succ]
      ring
    rw [continuations, List.cons_append, List.map_cons, takeTail_step, ih, moved, Nat.add_assoc,
      Nat.add_comm 1 count]

private theorem continuation_of_not (other : ¬IsContinuation b) : continuation? b = none := by
  simp only [IsContinuation] at other
  simp only [continuation?, if_neg other]

private theorem takeTail_short (missing : kept < count)
    (ends : ∀ b, rest.head? = some b → ¬IsContinuation b) (bits v offset : Nat) :
    ∃ feed, takeTail count bits ⟨((continuations count v).take kept ++ rest).map .byte, offset⟩ =
      .ok none feed := by
  induction count generalizing kept bits offset with
  | zero => exact absurd missing (Nat.not_lt_zero _)
  | succ count ih =>
    cases kept with
    | zero =>
      -- What is there instead of a continuation byte is taken as well.
      rw [List.take_zero, List.nil_append, takeTail, bind_apply]
      cases rest with
      | nil => exact ⟨_, rfl⟩
      | cons b rest =>
        simp only [List.map_cons, nextByte, takeByte, Option.bind_some,
          continuation_of_not (ends b rfl)]
        exact ⟨_, rfl⟩
    | succ kept =>
      rw [continuations, List.take_succ_cons, List.cons_append, List.map_cons, takeTail_step]
      exact ih (Nat.lt_of_succ_lt_succ missing) _ _

/-- The lead byte of a form announces it, unless the number is not that of a character. -/
private theorem announced_form (few : count ≤ 3) (fits : v < capacity count) :
    announced? (UInt8.ofNat (v / 64 ^ count + marker count)) = some (count, v / 64 ^ count) ∨
      announced? (UInt8.ofNat (v / 64 ^ count + marker count)) = none ∧
        ¬(leastOf count ≤ v ∧ v.isValidChar) := by
  have cases : count = 0 ∨ count = 1 ∨ count = 2 ∨ count = 3 := by omega
  have bound : v / 64 ^ count + marker count < 256 := by
    rcases cases with rfl | rfl | rfl | rfl <;>
    · simp only [capacity] at fits
      simp only [marker]
      omega
  have lead : (UInt8.ofNat (v / 64 ^ count + marker count)).toNat =
      v / 64 ^ count + marker count := by
    rw [UInt8.toNat_ofNat']
    exact Nat.mod_eq_of_lt bound
  simp only [announced?, lead, Nat.isValidChar]
  rcases cases with rfl | rfl | rfl | rfl
  · simp only [capacity] at fits
    simp only [marker]
    rw [if_pos (by omega)]
    exact .inl rfl
  · simp only [capacity] at fits
    simp only [marker, leastOf]
    by_cases short : v < 0x80
    · refine .inr ⟨?_, by omega⟩
      rw [if_neg (by omega), if_neg (by omega), if_neg (by omega), if_neg (by omega)]
    · rw [if_neg (by omega), if_pos (by omega), Nat.add_sub_cancel]
      exact .inl rfl
  · simp only [capacity] at fits
    simp only [marker]
    rw [if_neg (by omega), if_neg (by omega), if_pos (by omega), Nat.add_sub_cancel]
    exact .inl rfl
  · simp only [capacity] at fits
    simp only [marker, leastOf]
    by_cases large : 0x140000 ≤ v
    · refine .inr ⟨?_, by omega⟩
      rw [if_neg (by omega), if_neg (by omega), if_neg (by omega), if_neg (by omega)]
    · rw [if_neg (by omega), if_neg (by omega), if_neg (by omega), if_pos (by omega),
        Nat.add_sub_cancel]
      exact .inl rfl

/-- Decoding refuses a number that is no character, or that has a shorter form. -/
private theorem decode_form (few : count ≤ 3) (fits : v < capacity count)
    (refused : ¬(leastOf count ≤ v ∧ v.isValidChar)) (rest : List UInt8) (offset : Nat) :
    ∃ feed, decode ⟨(form count v ++ rest).map .byte, offset⟩ =
      .error (.invalidUtf8 offset) feed := by
  rw [form, List.cons_append, List.map_cons, decode_lead]
  rcases announced_form few fits with announced | ⟨announced, -⟩
  · have whole : v / 64 ^ count * 64 ^ count + v % 64 ^ count = v := Nat.div_add_mod' v _
    simp only [announced, takeTail_continuations, whole, Option.bind_some, scalar?, if_neg refused]
    exact ⟨_, rfl⟩
  · rw [announced]
    exact ⟨_, rfl⟩

private theorem decode_truncated (few : count ≤ 3) (fits : v < capacity count)
    (missing : kept < count) (ends : ∀ b, rest.head? = some b → ¬IsContinuation b) (offset : Nat) :
    ∃ feed, decode ⟨((form count v).take (kept + 1) ++ rest).map .byte, offset⟩ =
      .error (.invalidUtf8 offset) feed := by
  rw [form, List.take_succ_cons, List.cons_append, List.map_cons, decode_lead]
  rcases announced_form few fits with announced | ⟨announced, -⟩
  · obtain ⟨feed, taken⟩ := takeTail_short missing ends (v / 64 ^ count) v (offset + 1)
    simp only [announced, taken, Option.bind_none]
    exact ⟨_, rfl⟩
  · rw [announced]
    exact ⟨_, rfl⟩

private theorem decode_unannounced (announced : announced? b = none) (rest : List UInt8)
    (offset : Nat) :
    ∃ feed, decode ⟨(b :: rest).map .byte, offset⟩ = .error (.invalidUtf8 offset) feed := by
  rw [List.map_cons, decode_lead, announced]
  exact ⟨_, rfl⟩

/-- Malformed bytes are refused at the offset of the first of them. -/
theorem decode_malformed (malformed : Malformed bytes) (offset : Nat) :
    ∃ feed, decode ⟨bytes.map .byte, offset⟩ = .error (.invalidUtf8 offset) feed := by
  cases malformed with
  | overlong few fits =>
    have wider := Nat.lt_of_lt_of_le fits (capacity_le few)
    refine decode_form few wider ?_ _ offset
    rw [leastOf_succ few]
    omega
  | surrogate low high =>
    refine decode_form (by omega) (by simp only [capacity]; omega) ?_ _ offset
    simp only [Nat.isValidChar]
    omega
  | tooLarge above fits =>
    refine decode_form (by omega) fits ?_ _ offset
    simp only [Nat.isValidChar]
    omega
  | stray continues =>
    refine decode_unannounced ?_ _ offset
    simp only [IsContinuation] at continues
    simp only [announced?]
    rw [if_neg (by omega), if_neg (by omega), if_neg (by omega), if_neg (by omega)]
  | foreign large =>
    refine decode_unannounced ?_ _ offset
    simp only [announced?]
    rw [if_neg (by omega), if_neg (by omega), if_neg (by omega), if_neg (by omega)]
  | truncated few fits missing ends => exact decode_truncated few fits missing ends offset

end Feed

namespace Utf8

variable {text : List Char} {bytes rest : List UInt8} {c d : Char}

/-! ### The longest text -/

theorem encodeChar_append_inj {rest' : List UInt8}
    (same : String.utf8EncodeChar c ++ rest = String.utf8EncodeChar d ++ rest') :
    c = d ∧ rest = rest' := by
  have left := Feed.decode_encoded c (rest.map .byte) 0
  have right := Feed.decode_encoded d (rest'.map .byte) 0
  rw [← List.map_append] at left right
  rw [same, right] at left
  simp only [EStateM.Result.ok.injEq, Option.some.injEq, Feed.mk.injEq] at left
  exact ⟨left.1.symm, ((List.map_inj_right fun _ _ => Delivery.byte.inj).mp left.2.1).symm⟩

theorem not_malformed_encodeChar (c : Char) (rest : List UInt8) :
    ¬Malformed (String.utf8EncodeChar c ++ rest) := by
  intro malformed
  obtain ⟨feed, refused⟩ := Feed.decode_malformed malformed 0
  rw [List.map_append, Feed.decode_encoded] at refused
  cases refused

theorem utf8EncodeChar_ne_nil (c : Char) : String.utf8EncodeChar c ≠ [] := by
  intro none
  have size := String.length_utf8EncodeChar c
  have least := c.utf8Size_pos
  rw [none, List.length_nil] at size
  omega

/-- Bytes are the form of a text and malformed bytes, if any, behind it. -/
theorem exists_text (bytes : List UInt8) :
    ∃ text rest, bytes = encode text ++ rest ∧ (rest = [] ∨ Malformed rest) := by
  match bytes with
  | [] => exact ⟨[], [], rfl, .inl rfl⟩
  | b :: bytes =>
    rcases character_or_malformed b bytes with ⟨c, others, same⟩ | malformed
    · have fewer : others.length < (b :: bytes).length := by
        rw [same, List.length_append]
        have some := List.length_pos_iff.mpr (utf8EncodeChar_ne_nil c)
        omega
      obtain ⟨text, rest, rfl, bad⟩ := exists_text others
      exact ⟨c :: text, rest, by rw [same, encode_cons, List.append_assoc], bad⟩
    · exact ⟨[], b :: bytes, rfl, .inr malformed⟩
termination_by bytes.length
decreasing_by exact fewer

private theorem longest_of_prefix (bad : rest = [] ∨ Malformed rest) (text other : List Char)
    (starts : encode other <+: encode text ++ rest) :
    (encode other).length ≤ (encode text).length := by
  induction text generalizing other with
  | nil =>
    cases other with
    | nil => exact Nat.le_refl _
    | cons d other =>
      -- The bytes left over would start with the form of a character.
      obtain ⟨tail, same⟩ := starts
      rw [encode_cons, List.append_assoc] at same
      change _ = rest at same
      rcases bad with rfl | malformed
      · exact absurd (List.append_eq_nil_iff.mp same).1 (utf8EncodeChar_ne_nil d)
      · exact absurd (same ▸ malformed) (not_malformed_encodeChar d _)
  | cons c text ih =>
    cases other with
    | nil => exact Nat.zero_le _
    | cons d other =>
      obtain ⟨tail, same⟩ := starts
      rw [encode_cons, encode_cons, List.append_assoc, List.append_assoc] at same
      obtain ⟨rfl, behind⟩ := encodeChar_append_inj same
      have shorter := ih other ⟨tail, behind⟩
      rw [encode_cons, encode_cons, List.length_append, List.length_append]
      omega

theorem longestText_of_rest (bad : rest = [] ∨ Malformed rest) (text : List Char) :
    LongestText (encode text ++ rest) text :=
  ⟨⟨rest, rfl⟩, longest_of_prefix bad text⟩

end Utf8

end GrammarLex
