import GrammarLex.Text.Pending

/-!
# What a source holds

A source of characters hides how its bytes are delivered. Its contents are what can still be seen of
it: the characters up to the first end of input or decoding error, and that error. Looking at a
character leaves the contents as they are, and consuming it takes it off their front. The contents
of a feed that delivers the UTF-8 form of a text are the characters of the text.
-/
namespace GrammarLex

/-- What can still be seen of a source. -/
structure Contents where
  chars : List Char
  -- The error behind them; where there is none the input ends.
  fault : Option DecodeError
  deriving DecidableEq, Repr

def Contents.cons (c : Char) (k : Contents) : Contents := ⟨c :: k.chars, k.fault⟩

namespace Feed

def contents (feed : Feed) : Contents :=
  match _decoded : decode feed with
  | .ok (some c) rest => (contents rest).cons c
  | .ok none _ => ⟨[], none⟩
  | .error e _ => ⟨[], some e⟩
termination_by feed.undelivered
decreasing_by exact decode_undelivered_lt _decoded

theorem contents_of_char {feed rest : Feed} {c : Char} (decoded : decode feed = .ok (some c) rest) :
    feed.contents = rest.contents.cons c := by
  rw [contents]
  split
  next same => rw [decoded] at same; cases same; rfl
  next same => rw [decoded] at same; cases same
  next same => rw [decoded] at same; cases same

theorem contents_of_end {feed rest : Feed} (decoded : decode feed = .ok none rest) :
    feed.contents = ⟨[], none⟩ := by
  rw [contents]
  split
  next same => rw [decoded] at same; cases same
  next => rfl
  next same => rw [decoded] at same; cases same

theorem contents_of_fault {feed rest : Feed} {e : DecodeError}
    (decoded : decode feed = .error e rest) : feed.contents = ⟨[], some e⟩ := by
  rw [contents]
  split
  next same => rw [decoded] at same; cases same
  next same => rw [decoded] at same; cases same
  next same => rw [decoded] at same; cases same; rfl

end Feed

namespace CharSource

/-- What a source holds. A character that has been looked at is still to come, and an end of input
that has been looked at stays. -/
def contents : CharSource → Contents
  | ⟨_, _, some e⟩ => ⟨[], some e⟩
  | ⟨feed, some (some c), none⟩ => feed.contents.cons c
  | ⟨_, some none, none⟩ => ⟨[], none⟩
  | ⟨feed, none, none⟩ => feed.contents

variable {s : CharSource} {c : Char} {cs : List Char} {fault : Option DecodeError}

/-- A look at a character leaves the contents alone; dropping it then takes it off their front. -/
theorem peek_of_cons (holds : s.contents = ⟨c :: cs, fault⟩) :
    ∃ s', peek s = .ok (some c) s' ∧ s'.contents = ⟨c :: cs, fault⟩ ∧
      ({ s' with lookahead := none } : CharSource).contents = ⟨cs, fault⟩ := by
  -- The character has been looked at before, or it is decoded now.
  match s with
  | ⟨feed, lookahead, some e⟩ => simp [contents] at holds
  | ⟨feed, some none, none⟩ => simp [contents] at holds
  | ⟨feed, some (some d), none⟩ =>
    have parts := holds
    simp only [contents, Contents.cons, Contents.mk.injEq, List.cons.injEq] at parts
    obtain ⟨⟨rfl, rfl⟩, rfl⟩ := parts
    exact ⟨_, rfl, holds, rfl⟩
  | ⟨feed, none, none⟩ =>
    change feed.contents = _ at holds
    cases decoded : Feed.decode feed with
    | error e rest => simp [Feed.contents_of_fault decoded] at holds
    | ok next rest =>
      cases next with
      | none => simp [Feed.contents_of_end decoded] at holds
      | some d =>
        rw [Feed.contents_of_char decoded] at holds
        have parts := holds
        simp only [Contents.cons, Contents.mk.injEq, List.cons.injEq] at parts
        obtain ⟨⟨rfl, rfl⟩, rfl⟩ := parts
        exact ⟨⟨rest, some (some d), none⟩, by simp [peek, decoded], holds, rfl⟩

theorem peek_of_end (holds : s.contents = ⟨[], none⟩) :
    ∃ s', peek s = .ok none s' ∧ s'.contents = ⟨[], none⟩ := by
  match s with
  | ⟨feed, lookahead, some e⟩ => simp [contents] at holds
  | ⟨feed, some none, none⟩ => exact ⟨_, rfl, rfl⟩
  | ⟨feed, some (some d), none⟩ => simp [contents, Contents.cons] at holds
  | ⟨feed, none, none⟩ =>
    change feed.contents = _ at holds
    cases decoded : Feed.decode feed with
    | error e rest => simp [Feed.contents_of_fault decoded] at holds
    | ok next rest =>
      cases next with
      | none => exact ⟨⟨rest, some none, none⟩, by simp [peek, decoded], rfl⟩
      | some d => simp [Feed.contents_of_char decoded, Contents.cons] at holds

theorem peek_of_fault {e : DecodeError} (holds : s.contents = ⟨[], some e⟩) :
    ∃ s', peek s = .error e s' := by
  match s with
  | ⟨feed, lookahead, some d⟩ =>
    simp only [contents, Contents.mk.injEq, Option.some.injEq, true_and] at holds
    exact ⟨_, by rw [peek, holds]⟩
  | ⟨feed, some none, none⟩ => simp [contents] at holds
  | ⟨feed, some (some d), none⟩ => simp [contents, Contents.cons] at holds
  | ⟨feed, none, none⟩ =>
    change feed.contents = _ at holds
    cases decoded : Feed.decode feed with
    | error d rest =>
      simp only [Feed.contents_of_fault decoded, Contents.mk.injEq, Option.some.injEq,
        true_and] at holds
      exact ⟨_, by simp only [peek, decoded, holds]; rfl⟩
    | ok next rest =>
      cases next with
      | none => simp [Feed.contents_of_end decoded] at holds
      | some d => simp [Feed.contents_of_char decoded, Contents.cons] at holds

/-- Behind a look that fails nothing is left. -/
theorem chars_of_peek_error {s' : CharSource} {e : DecodeError} (failed : peek s = .error e s') :
    s'.contents.chars = [] := by
  match s with
  | ⟨feed, lookahead, some e⟩ =>
    simp only [peek, EStateM.Result.error.injEq] at failed
    rw [← failed.2]
    rfl
  | ⟨feed, some cached, none⟩ => simp [peek] at failed
  | ⟨feed, none, none⟩ =>
    simp only [peek] at failed
    cases decoded : Feed.decode feed with
    | error e rest =>
      simp only [decoded, EStateM.Result.error.injEq] at failed
      rw [← failed.2]
      rfl
    | ok found rest => simp [decoded] at failed

/-- Consuming a character takes it off the front of the contents. -/
theorem next_of_cons (holds : s.contents = ⟨c :: cs, fault⟩) :
    ∃ s', next s = .ok (some c) s' ∧ s'.contents = ⟨cs, fault⟩ := by
  match s with
  | ⟨feed, lookahead, some e⟩ => simp [contents] at holds
  | ⟨feed, some none, none⟩ => simp [contents] at holds
  | ⟨feed, some (some d), none⟩ =>
    simp only [contents, Contents.cons, Contents.mk.injEq, List.cons.injEq] at holds
    obtain ⟨⟨rfl, rfl⟩, rfl⟩ := holds
    exact ⟨_, rfl, rfl⟩
  | ⟨feed, none, none⟩ =>
    change feed.contents = _ at holds
    cases decoded : Feed.decode feed with
    | error e rest => simp [Feed.contents_of_fault decoded] at holds
    | ok next rest =>
      cases next with
      | none => simp [Feed.contents_of_end decoded] at holds
      | some d =>
        simp only [Feed.contents_of_char decoded, Contents.cons, Contents.mk.injEq,
          List.cons.injEq] at holds
        obtain ⟨⟨rfl, rfl⟩, rfl⟩ := holds
        exact ⟨⟨rest, none, none⟩, by simp [CharSource.next, decoded], rfl⟩

end CharSource

/-! ### Texts -/

namespace Feed

theorem continuation_of_bits (n : Nat) :
    continuation? (UInt8.ofNat (n % 64 + 128)) = some (n % 64) := by
  have size : (UInt8.ofNat (n % 64 + 128)).toNat = n % 64 + 128 := by
    rw [UInt8.toNat_ofNat']
    omega
  have range : 0x80 ≤ n % 64 + 128 ∧ n % 64 + 128 ≤ 0xBF := by omega
  simp only [continuation?, size, if_pos range, Nat.add_sub_cancel]

theorem takeTail_step (count bits n offset : Nat) (rest : List Delivery) :
    takeTail (count + 1) bits ⟨.byte (UInt8.ofNat (n % 64 + 128)) :: rest, offset⟩ =
      takeTail count (bits * 64 + n % 64) ⟨rest, offset + 1⟩ := by
  rw [takeTail, bind_apply]
  simp only [nextByte, takeByte, Option.bind_some, continuation_of_bits]

private theorem decode_of_lead {lead : UInt8} (count bits : Nat) {offset : Nat}
    {rest : List Delivery} {c : Char} {feed : Feed} (announced : announced? lead = some (count, bits))
    (tail : takeTail count bits ⟨rest, offset + 1⟩ = .ok (some c.toNat) feed)
    (least : leastOf count ≤ c.toNat) :
    decode ⟨.byte lead :: rest, offset⟩ = .ok (some c) feed := by
  have valid : c.toNat.isValidChar := c.valid
  have found : scalar? count c.toNat = some c := by
    rw [scalar?, if_pos ⟨least, valid⟩, Char.ofNat_toNat]
  simp only [decode, bind_apply, get_apply, nextByte, takeByte, announced, tail, Option.bind_some,
    found, pure_apply]

/-- Decoding takes the UTF-8 form of a character off the deliveries. -/
theorem decode_encoded (c : Char) (rest : List Delivery) (offset : Nat) :
    decode ⟨(String.utf8EncodeChar c).map .byte ++ rest, offset⟩ =
      .ok (some c) ⟨rest, offset + c.utf8Size⟩ := by
  have bound : c.val.toNat < 0x110000 := by
    have valid : c.val.toNat.isValidChar := c.valid
    simp only [Nat.isValidChar] at valid
    omega
  rw [← String.length_utf8EncodeChar]
  -- One case for each length of the form: the lead byte announces the rest, which is then put
  -- together six bits at a time.
  fun_cases String.utf8EncodeChar c with
  | case1 v small =>
    have lead : (UInt8.ofNat v).toNat = v := by
      rw [UInt8.toNat_ofNat']
      omega
    refine decode_of_lead 0 v ?_ rfl (Nat.zero_le _)
    simp only [announced?, lead]
    rw [if_pos (by omega)]
  | case2 v least small =>
    have lead : (UInt8.ofNat (v / 64 % 0x20 + 0xc0)).toNat = v / 64 + 0xc0 := by
      rw [UInt8.toNat_ofNat']
      omega
    have whole : v / 64 * 64 + v % 64 = v := Nat.div_add_mod' v 64
    refine decode_of_lead 1 (v / 64) ?_ ?_ (Nat.lt_of_not_le least)
    · simp only [announced?, lead]
      rw [if_neg (by omega), if_pos (by omega), Nat.add_sub_cancel]
    · change takeTail 1 _ ⟨.byte _ :: rest, _⟩ = _
      rw [takeTail_step, whole]
      rfl
  | case3 v _ least small =>
    have lead : (UInt8.ofNat (v / 4096 % 0x10 + 0xe0)).toNat = v / 4096 + 0xe0 := by
      rw [UInt8.toNat_ofNat']
      omega
    have whole : (v / 4096 * 64 + v / 64 % 64) * 64 + v % 64 = v := by omega
    refine decode_of_lead 2 (v / 4096) ?_ ?_ (Nat.lt_of_not_le least)
    · simp only [announced?, lead]
      rw [if_neg (by omega), if_neg (by omega), if_pos (by omega), Nat.add_sub_cancel]
    · change takeTail 2 _ ⟨.byte _ :: .byte _ :: rest, _⟩ = _
      rw [takeTail_step, takeTail_step, whole]
      rfl
  | case4 v _ _ least =>
    have lead : (UInt8.ofNat (v / 262144 % 0x08 + 0xf0)).toNat = v / 262144 + 0xf0 := by
      rw [UInt8.toNat_ofNat']
      omega
    have whole : ((v / 262144 * 64 + v / 4096 % 64) * 64 + v / 64 % 64) * 64 + v % 64 = v := by
      omega
    refine decode_of_lead 3 (v / 262144) ?_ ?_ (Nat.lt_of_not_le least)
    · simp only [announced?, lead]
      rw [if_neg (by omega), if_neg (by omega), if_neg (by omega), if_pos (by omega),
        Nat.add_sub_cancel]
    · change takeTail 3 _ ⟨.byte _ :: .byte _ :: .byte _ :: rest, _⟩ = _
      rw [takeTail_step, takeTail_step, takeTail_step, whole]
      rfl

private theorem contents_encoded (text : List Char) (offset : Nat) :
    contents ⟨(text.flatMap String.utf8EncodeChar).map .byte, offset⟩ = ⟨text, none⟩ := by
  -- Decoding takes the form of one character off the front and leaves that of the others.
  induction text generalizing offset with
  | nil => exact contents_of_end rfl
  | cons c rest ih =>
    rw [List.flatMap_cons, List.map_append, contents_of_char (decode_encoded c _ offset), ih]
    rfl

private theorem toList_loop (bytes : ByteArray) (i : Nat) (seen : List UInt8) :
    ByteArray.toList.loop bytes i seen = seen.reverse ++ bytes.data.toList.drop i := by
  -- The loop keeps what it has seen in reverse; the bytes from `i` on are still to come.
  fun_induction ByteArray.toList.loop bytes i seen with
  | case1 i seen inside ih =>
    have inside : i < bytes.data.toList.length := by simpa using inside
    have here : bytes.get! i = bytes.data.toList[i] := by
      change bytes.data[i]! = _
      rw [getElem!_pos bytes.data i (by simpa using inside), Array.getElem_toList]
    rw [ih, List.drop_eq_getElem_cons inside, here]
    simp
  | case2 i seen outside =>
    have outside : bytes.data.toList.length ≤ i := by simpa using outside
    rw [List.drop_eq_nil_of_le outside, List.append_nil]

/-- A feed of a text holds the characters of the text. -/
theorem contents_ofText (text : String) : (ofText text).contents = ⟨text.toList, none⟩ := by
  have bytes : text.toUTF8.toList = text.toList.flatMap String.utf8EncodeChar := by
    rw [ByteArray.toList, toList_loop, String.toUTF8_eq_toByteArray, ← String.utf8Encode_toList,
      List.utf8Encode, List.toList_data_toByteArray]
    rfl
  rw [ofText, ofBytes, bytes, contents_encoded]

end Feed

end GrammarLex
