import GrammarLex.Proofs.Text.Utf8

/-!
# The same bytes in other deliveries

A reader is called again and again: a call brings some bytes, or it is interrupted, or it fails, or
it brings nothing. Up to the first call that fails or brings nothing only the bytes matter. Decoding
finds the same on a feed as on the same bytes in one piece, unless it runs into a failed call; then
it fails for that reason, even if it has the front of a character already.
-/
namespace GrammarLex

/-- What one call of a reader brings. -/
inductive Read where
  -- Without any bytes this counts as an end of the input, although later calls may bring some.
  | bytes (chunk : List UInt8)
  | interrupted
  | failed (reason : String)
  deriving DecidableEq, Repr

def Read.deliveries : Read → List Delivery
  | .bytes [] => [.drained]
  | .bytes (b :: chunk) => (b :: chunk).map .byte
  | .interrupted => [.interrupted]
  | .failed reason => [.failed reason]

/-- The bytes in front of the first end or failure. -/
def Delivery.bytes : List Delivery → List UInt8
  | .byte b :: ds => b :: bytes ds
  | .interrupted :: ds => bytes ds
  | _ => []

/-- The deliveries from the first end or failure on. -/
def Delivery.stop : List Delivery → List Delivery
  | .byte _ :: ds => stop ds
  | .interrupted :: ds => stop ds
  | ds => ds

theorem Delivery.stop_suffix (ds : List Delivery) : stop ds <:+ ds := by
  induction ds with
  | nil => exact List.suffix_rfl
  | cons d ds ih =>
    cases d with
    | byte | interrupted => exact ih.trans (List.suffix_cons _ _)
    | failed | drained => exact List.suffix_rfl

namespace Feed

open Delivery Utf8

def ofReads (reads : List Read) : Feed := ⟨reads.flatMap Read.deliveries, 0⟩

/-- The bytes in front of the first end or failure, in one piece and with an end behind them. -/
def plain (f : Feed) : Feed := ⟨(bytes f.deliveries).map .byte ++ [.drained], f.offset⟩

theorem stop_plain (f : Feed) : stop f.plain.deliveries = [.drained] := by
  have passed (bs : List UInt8) : stop (bs.map .byte ++ [.drained]) = [.drained] := by
    induction bs with
    | nil => rfl
    | cons b bs ih => exact ih
  exact passed (bytes f.deliveries)

/-- How many bytes will have come at the first end or failure. -/
def total (f : Feed) : Nat := f.offset + (bytes f.deliveries).length

/-- What is left of a feed whose first end or failure is still to come. -/
structure Leaves (f f' : Feed) : Prop where
  stop_eq : stop f'.deliveries = stop f.deliveries
  total_eq : f'.total = f.total

theorem Leaves.tail_suffix {f f' : Feed} (leaves : f.Leaves f') :
    (stop f.deliveries).tail <:+ f'.deliveries := by
  rw [← leaves.stop_eq]
  exact (List.tail_suffix _).trans (stop_suffix _)

/-- What is left of the bytes in one piece and of a feed where nothing was found: the first end is
still to come, or it has been met. -/
inductive Rests (f g f' : Feed) : Prop where
  | before (plain_eq : g = f'.plain) (leaves : f.Leaves f')
  | behind (whole : ∀ reason others, stop f.deliveries ≠ .failed reason :: others)
      (suffix : (stop f.deliveries).tail <:+ f'.deliveries)

/-- An action finds the same on a feed as on its bytes in one piece, unless it is cut off by a failed
call; then it has met the end of the bytes in one piece. -/
inductive Matches {α : Type} (m : EStateM DecodeError Feed (Option α)) (f : Feed) : Prop where
  | found {a : α} {f' : Feed} (left : m f.plain = .ok (some a) f'.plain)
      (right : m f = .ok (some a) f') (leaves : f.Leaves f')
  | missing {g f' : Feed} (left : m f.plain = .ok none g) (right : m f = .ok none f')
      (rests : f.Rests g f')
  | refused {e : DecodeError} {g f' : Feed} (left : m f.plain = .error e g)
      (right : m f = .error e f') (rests : f.Rests g f')
  | cut {reason : String} {others : List Delivery} {g f' : Feed}
      (stop_eq : stop f.deliveries = .failed reason :: others)
      (left : m f.plain = .ok none g ∨ ∃ offset, m f.plain = .error (.invalidUtf8 offset) g)
      (spent : g.deliveries = []) (right : m f = .error (.readFailed f.total reason) f')

variable {f f' g : Feed} {b : UInt8} {count bits : Nat}

theorem Rests.tail_suffix (rests : f.Rests g f') : (stop f.deliveries).tail <:+ f'.deliveries := by
  cases rests with
  | before _ leaves => exact leaves.tail_suffix
  | behind _ suffix => exact suffix

theorem Leaves.rests (leaves : f.Leaves f') {f'' : Feed} (rests : f'.Rests g f'') :
    f.Rests g f'' := by
  obtain ⟨stop_eq, total_eq⟩ := leaves
  cases rests with
  | before plain_eq leaves' =>
    exact .before plain_eq ⟨leaves'.stop_eq.trans stop_eq, leaves'.total_eq.trans total_eq⟩
  | behind whole suffix => exact .behind (stop_eq ▸ whole) (stop_eq ▸ suffix)

/-- What is found on a feed that is left over is found by whatever leads to it. -/
theorem Leaves.matches {α : Type} {m m' : EStateM DecodeError Feed (Option α)}
    (leaves : f.Leaves f') (left : m f.plain = m' f'.plain) (right : m f = m' f')
    (behind : Matches m' f') : Matches m f := by
  have stop_eq := leaves.stop_eq
  have total_eq := leaves.total_eq
  cases behind with
  | found left' right' leaves' =>
    exact .found (left.trans left') (right.trans right')
      ⟨leaves'.stop_eq.trans stop_eq, leaves'.total_eq.trans total_eq⟩
  | missing left' right' rests =>
    exact .missing (left.trans left') (right.trans right') (leaves.rests rests)
  | refused left' right' rests =>
    exact .refused (left.trans left') (right.trans right') (leaves.rests rests)
  | cut stop_eq' left' spent right' =>
    have cutOff := right.trans right'
    rw [total_eq] at cutOff
    rw [← left] at left'
    exact .cut (stop_eq.symm.trans stop_eq') left' spent cutOff

/-! ### Single bytes -/

theorem nextByte_matches (f : Feed) : Matches nextByte f := by
  obtain ⟨ds, offset⟩ := f
  -- Interruptions are passed over.
  induction ds with
  | nil => exact .missing rfl rfl (.behind nofun List.suffix_rfl)
  | cons d ds ih =>
    cases d with
    | byte b =>
      have leaves : Leaves ⟨.byte b :: ds, offset⟩ ⟨ds, offset + 1⟩ := by
        refine ⟨rfl, ?_⟩
        simp only [total, bytes, List.length_cons]
        omega
      exact .found rfl rfl leaves
    | interrupted =>
      have leaves : Leaves ⟨.interrupted :: ds, offset⟩ ⟨ds, offset⟩ := ⟨rfl, rfl⟩
      exact leaves.matches rfl rfl ih
    | failed reason => exact .cut rfl (.inl rfl) rfl rfl
    | drained => exact .missing rfl rfl (.behind nofun List.suffix_rfl)

/-- No byte comes from a feed that is at an end. -/
theorem whole_of_nextByte (taken : nextByte f = .ok none f') (reason : String)
    (others : List Delivery) : stop f.deliveries ≠ .failed reason :: others := by
  obtain ⟨ds, offset⟩ := f
  induction ds with
  | nil => nofun
  | cons d ds ih =>
    cases d with
    | byte => cases taken
    | interrupted => exact ih taken
    | failed => cases taken
    | drained => nofun

/-! ### Characters -/

section

variable {e : DecodeError}

private theorem takeTail_of_byte (count bits : Nat) (taken : nextByte f = .ok (some b) f') :
    takeTail (count + 1) bits f = match continuation? b with
      | some low => takeTail count (bits * 64 + low) f'
      | none => .ok none f' := by
  rw [takeTail, bind_apply, taken]
  simp only [Option.bind_some]
  cases continuation? b <;> rfl

private theorem takeTail_of_end (taken : nextByte f = .ok none f') :
    takeTail (count + 1) bits f = .ok none f' := by
  rw [takeTail, bind_apply, taken]
  rfl

private theorem takeTail_of_error (taken : nextByte f = .error e f') :
    takeTail (count + 1) bits f = .error e f' := by
  rw [takeTail, bind_apply, taken]

theorem takeTail_matches (count bits : Nat) (f : Feed) : Matches (takeTail count bits) f := by
  induction count generalizing bits f with
  | zero => exact .found rfl rfl ⟨rfl, rfl⟩
  | succ count ih =>
    cases nextByte_matches f with
    | @found b f' left right leaves =>
      have left' := takeTail_of_byte count bits left
      have right' := takeTail_of_byte count bits right
      cases continues : continuation? b with
      | none =>
        rw [continues] at left' right'
        exact .missing left' right' (.before rfl leaves)
      | some low =>
        rw [continues] at left' right'
        exact leaves.matches left' right' (ih (bits * 64 + low) f')
    | missing left right rests =>
      exact .missing (takeTail_of_end left) (takeTail_of_end right) rests
    | refused left right rests =>
      exact .refused (takeTail_of_error left) (takeTail_of_error right) rests
    | cut stop_eq left spent right =>
      refine .cut stop_eq ?_ spent (takeTail_of_error right)
      exact left.imp takeTail_of_end fun ⟨offset, taken⟩ => ⟨offset, takeTail_of_error taken⟩

/-- What is made of a number that the tail of a character has given. -/
private def settle (start count : Nat) (value : Option Nat) : EStateM DecodeError Feed (Option Char) :=
  match value.bind (scalar? count) with
  | some c => return some c
  | none => throw (.invalidUtf8 start)

/-- The rest of decoding, behind a lead byte. -/
private def assemble (start : Nat) (lead : UInt8) : EStateM DecodeError Feed (Option Char) :=
  match announced? lead with
  | none => throw (.invalidUtf8 start)
  | some (count, bits) => takeTail count bits >>= settle start count

private theorem decode_of_byte (taken : nextByte f = .ok (some b) f') :
    decode f = assemble f.offset b f' := by
  rw [decode, bind_apply, get_apply]
  simp only [bind_apply, taken, assemble]
  cases announced? b <;> rfl

private theorem decode_of_end (taken : nextByte f = .ok none f') : decode f = .ok none f' := by
  simp only [decode, bind_apply, get_apply, taken]
  rfl

private theorem decode_of_error (taken : nextByte f = .error e f') : decode f = .error e f' := by
  simp only [decode, bind_apply, get_apply, taken]

private theorem settle_matches (start count : Nat) (value : Option Nat) (f : Feed) :
    Matches (settle start count value) f := by
  have leaves : f.Leaves f := ⟨rfl, rfl⟩
  unfold settle
  cases value.bind (scalar? count) with
  | some c => exact .found rfl rfl leaves
  | none => exact .refused rfl rfl (.before rfl leaves)

private theorem assemble_matches (start : Nat) (lead : UInt8) (f : Feed) :
    Matches (assemble start lead) f := by
  have leaves : f.Leaves f := ⟨rfl, rfl⟩
  unfold assemble
  cases announced? lead with
  | none => exact .refused rfl rfl (.before rfl leaves)
  | some announcement =>
    obtain ⟨count, bits⟩ := announcement
    have onward {f f' : Feed} {value : Option Nat} (taken : takeTail count bits f = .ok value f') :
        (takeTail count bits >>= settle start count) f = settle start count value f' := by
      rw [bind_apply, taken]
    have stuck {f f' : Feed} {e : DecodeError} (taken : takeTail count bits f = .error e f') :
        (takeTail count bits >>= settle start count) f = .error e f' := by
      rw [bind_apply, taken]
    cases takeTail_matches count bits f with
    | @found v f' left right leaves =>
      exact leaves.matches (onward left) (onward right) (settle_matches start count (some v) f')
    | missing left right rests => exact .refused (onward left) (onward right) rests
    | refused left right rests => exact .refused (stuck left) (stuck right) rests
    | cut stop_eq left spent right =>
      -- Without its tail there is no character, and so the lead byte is refused.
      refine .cut stop_eq (.inr ?_) spent (stuck right)
      rcases left with taken | ⟨offset, taken⟩
      · exact ⟨start, onward taken⟩
      · exact ⟨offset, stuck taken⟩

/-- A lead byte makes a character or an error. -/
private theorem assemble_ne_none (start : Nat) (lead : UInt8) {f f' : Feed} :
    assemble start lead f ≠ .ok none f' := by
  unfold assemble
  cases announced? lead with
  | none => nofun
  | some announcement =>
    intro ended
    obtain ⟨value, g, -, settled⟩ := bind_eq_ok.mp ended
    unfold settle at settled
    cases valid : value.bind (scalar? announcement.1) <;> rw [valid] at settled <;> cases settled

/-- No end is found where a failed call comes first. -/
theorem whole_of_decode (decoded : decode f = .ok none f') (reason : String)
    (others : List Delivery) : stop f.deliveries ≠ .failed reason :: others := by
  cases taken : nextByte f with
  | error e g => cases (decode_of_error taken).symm.trans decoded
  | ok next g =>
    cases next with
    | none => exact whole_of_nextByte taken reason others
    | some b => exact absurd ((decode_of_byte taken).symm.trans decoded) (assemble_ne_none _ b)

theorem decode_matches (f : Feed) : Matches decode f := by
  cases nextByte_matches f with
  | @found b f' left right leaves =>
    exact leaves.matches (decode_of_byte left) (decode_of_byte right) (assemble_matches f.offset b f')
  | missing left right rests => exact .missing (decode_of_end left) (decode_of_end right) rests
  | refused left right rests => exact .refused (decode_of_error left) (decode_of_error right) rests
  | cut stop_eq left spent right =>
    refine .cut stop_eq ?_ spent (decode_of_error right)
    exact left.imp decode_of_end fun ⟨offset, taken⟩ => ⟨offset, decode_of_error taken⟩

end

/-- No byte is taken where nothing is found. -/
theorem offset_of_nextByte (taken : nextByte f = .ok none f') : f'.offset = f.offset := by
  obtain ⟨ds, offset⟩ := f
  induction ds with
  | nil => cases taken; rfl
  | cons d ds ih =>
    cases d with
    | byte | failed => cases taken
    | interrupted => exact ih taken
    | drained => cases taken; rfl

theorem offset_of_decode_end (decoded : decode f = .ok none f') : f'.offset = f.offset := by
  cases taken : nextByte f with
  | error e g => cases (decode_of_error taken).symm.trans decoded
  | ok next g =>
    cases next with
    | none =>
      cases (decode_of_end taken).symm.trans decoded
      exact offset_of_nextByte taken
    | some b => exact absurd ((decode_of_byte taken).symm.trans decoded) (assemble_ne_none _ b)

/-! ### Texts -/

theorem chars_of_not_some (nothing : ∀ c g, decode f ≠ .ok (some c) g) : f.contents.chars = [] := by
  cases decoded : decode f with
  | error e g => rw [contents_of_fault decoded]
  | ok next g =>
    cases next with
    | none => rw [contents_of_end decoded]
    | some c => exact absurd decoded (nothing c g)

theorem bytes_map_byte (bs : List UInt8) : bytes (bs.map .byte) = bs := by
  induction bs with
  | nil => rfl
  | cons b bs ih => exact congrArg (b :: ·) ih

/-- Bytes hold the text whose form they start with, and the fault of what stands behind it. -/
theorem contents_of_text {rest : List UInt8} (bad : rest = [] ∨ Malformed rest) (text : List Char)
    (offset : Nat) : contents ⟨(encode text ++ rest).map .byte, offset⟩ =
      ⟨text, if rest = [] then none else some (.invalidUtf8 (offset + (encode text).length))⟩ := by
  induction text generalizing offset with
  | nil =>
    rcases bad with rfl | malformed
    · have ended : decode ⟨[], offset⟩ = .ok none ⟨[], offset⟩ := rfl
      exact contents_of_end ended
    · obtain ⟨feed, refused⟩ := decode_malformed malformed offset
      rw [if_neg malformed.ne_nil]
      exact contents_of_fault refused
  | cons c text ih =>
    have past : offset + (encode (c :: text)).length = offset + c.utf8Size + (encode text).length := by
      rw [encode_cons, List.length_append, String.length_utf8EncodeChar, Nat.add_assoc]
    rw [past, encode_cons, List.append_assoc, List.map_append,
      contents_of_char (decode_encoded c _ offset), ih]
    rfl

/-- Up to its first end a feed holds what its bytes hold in one piece. -/
theorem contents_plain (whole : ∀ reason others, stop f.deliveries ≠ .failed reason :: others) :
    f.contents = f.plain.contents := by
  induction size : f.undelivered using Nat.strongRecOn generalizing f with
  | ind size ih =>
    subst size
    cases decode_matches f with
    | found left right leaves =>
      rw [contents_of_char right, contents_of_char left,
        ih _ (decode_undelivered_lt right) (leaves.stop_eq ▸ whole) rfl]
    | missing left right => rw [contents_of_end right, contents_of_end left]
    | refused left right => rw [contents_of_fault right, contents_of_fault left]
    | cut stop_eq => exact absurd stop_eq (whole _ _)

private theorem plain_map_byte (bs : List UInt8) (offset : Nat) :
    plain ⟨bs.map .byte, offset⟩ = ⟨bs.map .byte ++ [.drained], offset⟩ := by
  rw [plain, bytes_map_byte]

/-- A character that is decoded has taken the bytes of its UTF-8 form. -/
theorem offset_of_decode {c : Char} (decoded : decode f = .ok (some c) f') :
    f'.offset = f.offset + c.utf8Size := by
  cases decode_matches f with
  | @found d g left right leaves =>
    cases right.symm.trans decoded
    obtain ⟨text, rest, same, bad⟩ := exists_text (bytes f.deliveries)
    rw [plain, ← plain_map_byte, same] at left
    -- On the bytes alone the same character is found, and it is the one whose form they start with.
    cases decode_matches ⟨(encode text ++ rest).map .byte, f.offset⟩ with
    | @found d g left' right' =>
      cases text with
      | nil =>
        rw [encode, List.flatMap_nil, List.nil_append] at right'
        rcases bad with rfl | malformed
        · cases right'
        · obtain ⟨feed, refused⟩ := decode_malformed malformed f.offset
          cases refused.symm.trans right'
      | cons e text =>
        rw [encode_cons, List.append_assoc, List.map_append, decode_encoded] at right'
        have landed := left'.symm.trans left
        simp only [EStateM.Result.ok.injEq, Option.some.injEq, plain, Feed.mk.injEq] at right' landed
        rw [← landed.2.2, ← right'.2, ← landed.1, ← right'.1]
    | missing left' => cases left'.symm.trans left
    | refused left' => cases left'.symm.trans left
    | cut _ left' => rcases left' with left' | ⟨_, left'⟩ <;> cases left'.symm.trans left
  | missing _ right => cases right.symm.trans decoded
  | refused _ right => cases right.symm.trans decoded
  | cut _ _ _ right => cases right.symm.trans decoded

private theorem whole_map_byte (bs : List UInt8) (reason : String) (others : List Delivery) :
    stop (bs.map .byte) ≠ .failed reason :: others := by
  induction bs with
  | nil => nofun
  | cons b bs ih => exact ih

/-- Bytes in one piece hold the longest text whose form they start with. -/
theorem longestText_chars (bs : List UInt8) (offset : Nat) :
    LongestText bs (contents ⟨bs.map .byte ++ [.drained], offset⟩).chars := by
  obtain ⟨text, rest, rfl, bad⟩ := exists_text bs
  rw [← plain_map_byte, ← contents_plain (whole_map_byte _), contents_of_text bad]
  exact longestText_of_rest bad text

/-- Where a failed call comes before any end, the text has no end. -/
theorem fault_of_failed {reason : String} {others : List Delivery}
    (stop_eq : stop f.deliveries = .failed reason :: others) : f.contents.fault ≠ none := by
  induction size : f.undelivered using Nat.strongRecOn generalizing f with
  | ind size ih =>
    subst size
    cases decode_matches f with
    | found left right leaves =>
      rw [contents_of_char right]
      exact ih _ (decode_undelivered_lt right) (leaves.stop_eq.trans stop_eq) rfl
    | missing left right => exact absurd stop_eq (whole_of_decode right reason others)
    | refused left right => rw [contents_of_fault right]; nofun
    | cut _ _ _ right => rw [contents_of_fault right]; nofun

end Feed

end GrammarLex
