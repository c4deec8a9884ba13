import Mathlib.Data.LawfulXor.Basic
import Patala.Lib.Crc
import Patala.Stellar.StrKey

/-! The checksum of StrKey as a register that is fed bits: the text of an account is a codeword,
and two accounts' texts that differ in two neighbouring digits at most are of the same digits. -/

namespace Patala.Stellar.StrKey

open Machine

def polynomial : BitVec 16 := 0x1021#16

/-- The bits of a byte, most significant first. -/
def octetBits (byte : UInt8) : List Bool :=
  [byte.toBitVec.getLsbD 7, byte.toBitVec.getLsbD 6, byte.toBitVec.getLsbD 5,
    byte.toBitVec.getLsbD 4, byte.toBitVec.getLsbD 3, byte.toBitVec.getLsbD 2,
    byte.toBitVec.getLsbD 1, byte.toBitVec.getLsbD 0]

/-- The bits of a checksum as they are written, those of its low byte first. -/
def checksumBits (crc : BitVec 16) : List Bool :=
  [crc.getLsbD 7, crc.getLsbD 6, crc.getLsbD 5, crc.getLsbD 4, crc.getLsbD 3, crc.getLsbD 2,
    crc.getLsbD 1, crc.getLsbD 0, crc.getLsbD 15, crc.getLsbD 14, crc.getLsbD 13, crc.getLsbD 12,
    crc.getLsbD 11, crc.getLsbD 10, crc.getLsbD 9, crc.getLsbD 8]

section Register

theorem crc16Bit_enter (crc : UInt16) :
    (crc16Bit crc).toBitVec = Crc.enter polynomial crc.toBitVec false := by
  have mask : (0x8000 : UInt16).toBitVec = BitVec.twoPow 16 15 := by decide
  have clear : crc &&& 0x8000 = 0 ↔ crc.toBitVec.msb = false := by
    rw [← UInt16.toBitVec_inj, UInt16.toBitVec_and, mask, BitVec.and_twoPow,
      BitVec.msb_eq_getLsbD_last]
    cases crc.toBitVec.getLsbD 15 <;> decide
  unfold crc16Bit Crc.enter
  rw [Bool.xor_false]
  cases top : crc.toBitVec.msb with
  | false => rw [if_pos (clear.mpr top), if_neg (by decide)]; rfl
  | true => rw [if_neg (by rw [clear, top]; decide), if_pos rfl]; rfl

theorem crc16Byte_feed (crc : UInt16) (byte : UInt8) :
    (crc16Byte crc byte).toBitVec = Crc.feed polynomial crc.toBitVec (octetBits byte) := by
  have bitwise : Function.Semiconj UInt16.toBitVec crc16Bit
      (fun register => Crc.enter polynomial register false) := crc16Bit_enter
  have entering : Crc.tops 8 (byte.toUInt16 <<< (8 : UInt16)).toBitVec = octetBits byte ∧
      (byte.toUInt16 <<< (8 : UInt16)).toBitVec <<< 8 = 0#16 := by
    revert byte
    apply Codec.forall_byte
    decide +kernel
  unfold crc16Byte
  rw [bitwise.iterate_right, UInt16.toBitVec_xor, Crc.iterate_xor, entering.1, entering.2,
    BitVec.xor_zero]

theorem crc16_feed (bytes : List UInt8) :
    (crc16 bytes).toBitVec = Crc.feed polynomial 0#16 (bytes.flatMap octetBits) := by
  have from_any : ∀ crc : UInt16, (bytes.foldl crc16Byte crc).toBitVec =
      Crc.feed polynomial crc.toBitVec (bytes.flatMap octetBits) := by
    induction bytes with
    | nil => exact fun _ => rfl
    | cons byte bytes ih =>
      intro crc
      rw [List.foldl_cons, ih, crc16Byte_feed, List.flatMap_cons, Crc.feed_append]
  exact from_any 0

theorem checksum_bits (bytes : List UInt8) :
    (checksum bytes).flatMap octetBits = checksumBits (crc16 bytes).toBitVec := by
  simp [checksum, octetBits, checksumBits]

theorem checksumBits_written : Crc.Written checksumBits where
  length _ := rfl
  xor check check' := by simp [checksumBits, Crc.differ]
  empty check clear := by
    have places : ∀ i < 16, i ∈ [7, 6, 5, 4, 3, 2, 1, 0, 15, 14, 13, 12, 11, 10, 9, 8] := by decide
    apply BitVec.eq_of_getLsbD_eq
    intro i inside
    have written : check.getLsbD i ∈ checksumBits check := List.mem_map_of_mem (places i inside)
    rw [BitVec.getLsbD_zero]
    by_contra set
    rw [Bool.not_eq_false] at set
    exact clear (set ▸ written)

end Register

section Digits

theorem octetBits_ofBits (a b c d e f g h : Bool) :
    octetBits (UInt8.ofNat (Base32.ofBits [a, b, c, d, e, f, g, h])) = [a, b, c, d, e, f, g, h] := by
  revert a b c d e f g h
  decide +kernel

/-- Whole bytes keep every bit. -/
theorem octets_bits {stream : List Bool} (bytes : Nat) (whole : stream.length = 8 * bytes) :
    (Base32.octets stream).flatMap octetBits = stream ∧ (Base32.octets stream).length = bytes := by
  fun_induction Base32.octets stream generalizing bytes with
  | case1 a b c d e f g h rest ih =>
    simp only [List.length_cons] at whole
    obtain ⟨kept, count⟩ := ih (bytes - 1) (by omega)
    rw [List.flatMap_cons, octetBits_ofBits, kept, List.length_cons, count]
    exact ⟨rfl, by omega⟩
  | case2 stream short =>
    cases bytes with
    | zero =>
      rw [List.length_eq_zero_iff.mp whole]
      exact ⟨rfl, rfl⟩
    | succ bytes =>
      -- seven bits at most are left over, and the length says there are none
      rcases stream with _ | ⟨a, _ | ⟨b, _ | ⟨c, _ | ⟨d, _ | ⟨e, _ | ⟨f, _ | ⟨g, _ | ⟨h, rest⟩⟩⟩⟩⟩⟩⟩⟩
      case cons.cons.cons.cons.cons.cons.cons.cons => exact (short a b c d e f g h rest rfl).elim
      all_goals
        simp only [List.length_nil, List.length_cons] at whole
        omega

/-- The text of an account: 56 digits whose bits are a codeword. -/
theorem account_codeword {text : String} {key : Bytes 32} (read : account text = some key) :
    ∃ digits, text.toList.mapM Base32.charValue = some digits ∧ digits.length = 56 ∧
      Crc.Codeword polynomial checksumBits 264 (digits.flatMap Base32.bits) := by
  obtain ⟨long, letters, -⟩ := account_shape read
  have plain : ∀ c ∈ text.toList, c.toNat < 128 := fun c member => (letters c member).ascii
  rw [length_asBytes_of_ascii plain] at long
  simp only [account, unframe, Option.bind_eq_bind, Option.bind_eq_some_iff, require_eq_some]
    at read
  obtain ⟨⟨version, payload⟩, ⟨data, decoded, -, -, -, -, -, checked, -⟩, -⟩ := read
  obtain ⟨digits, values, rfl⟩ := Option.map_eq_some_iff.mp decoded
  rw [← (Base32.isDigit_of_decode decoded).1] at values
  have count : digits.length = 56 := by
    rw [← long]
    exact (Fallible.mapM_eq_some.mp values).length_eq.symm
  have size : (digits.flatMap Base32.bits).length = 8 * 35 := by
    simp [List.length_flatMap, Base32.bits, count]
  obtain ⟨kept, bytes⟩ := octets_bits 35 size
  refine ⟨digits, values, count, ((Base32.octets (digits.flatMap Base32.bits)).take 33).flatMap
    octetBits, ?_, ?_⟩
  · simp [List.length_flatMap, octetBits, bytes]
  · rw [bytes] at checked
    rw [← crc16_feed, ← checksum_bits, ← checked, ← List.flatMap_append, List.take_append_drop, kept]

theorem differ_bits (a b : Nat) :
    Crc.differ (Base32.bits a) (Base32.bits b) = Base32.bits (a ^^^ b) := by
  simp only [Crc.differ, Base32.bits, List.zipWith_cons_cons, List.zipWith_nil_left,
    Nat.testBit_xor]

theorem bits_clear : ∀ a < 32, true ∉ Base32.bits a → a = 0 := by
  decide

/-- Where the checksum begins inside two digits, what is wrong before it shows in its second byte,
or in the bits that no digit of the two reaches. -/
theorem across_clear : ∀ k ∈ [4, 9], ∀ a < 32, ∀ b < 32,
    checksumBits (Crc.feed polynomial 0#16 ((Base32.bits a ++ Base32.bits b).take k)) =
        (Base32.bits a ++ Base32.bits b).drop k ++ Crc.zeros (6 + k) →
      a = 0 ∧ b = 0 := by
  decide +kernel

theorem length_bits (digits : List Nat) :
    (digits.flatMap Base32.bits).length = 5 * digits.length := by
  simp [List.length_flatMap, Base32.bits, Nat.mul_comm]

/-- What two codewords of digits differ in, where they differ at two neighbours at most. -/
theorem codewords_differ {front back : List Nat} {a b c d : Nat}
    (first : Crc.Codeword polynomial checksumBits 264 ((front ++ a :: b :: back).flatMap Base32.bits))
    (second : Crc.Codeword polynomial checksumBits 264
      ((front ++ c :: d :: back).flatMap Base32.bits)) :
    Crc.Codeword polynomial checksumBits 264 (Crc.zeros (5 * front.length) ++
      (Base32.bits (a ^^^ c) ++ Base32.bits (b ^^^ d)) ++ Crc.zeros (5 * back.length)) := by
  have both := first.differ checksumBits_written second
  have one : (Base32.bits a).length = (Base32.bits c).length := rfl
  have other : (Base32.bits b).length = (Base32.bits d).length := rfl
  rw [List.flatMap_append, List.flatMap_append, List.flatMap_cons, List.flatMap_cons,
    List.flatMap_cons, List.flatMap_cons, Crc.differ_append rfl, Crc.differ_append one,
    Crc.differ_append other, Crc.differ_self, Crc.differ_self, differ_bits, differ_bits,
    length_bits, length_bits] at both
  simpa only [List.append_assoc] using both

/-- Two digits that are wrong are not a codeword among zeros, wherever they stand. -/
theorem no_wrong_digits {front back x y : Nat} (length : front + back = 54) (xs : x < 32)
    (ys : y < 32) (codeword : Crc.Codeword polynomial checksumBits 264
      (Crc.zeros (5 * front) ++ (Base32.bits x ++ Base32.bits y) ++ Crc.zeros (5 * back))) :
    x = 0 ∧ y = 0 := by
  have clears : true ∉ Base32.bits x ++ Base32.bits y → x = 0 ∧ y = 0 := by
    intro clear
    rw [List.mem_append, not_or] at clear
    exact ⟨bits_clear x xs clear.1, bits_clear y ys clear.2⟩
  have short : (Base32.bits x ++ Base32.bits y).length = 10 := rfl
  rcases Nat.lt_or_ge front 51 with inside | late
  · exact clears (codeword.no_burst checksumBits_written rfl (by omega) (by omega))
  rcases Nat.lt_or_ge front 53 with across | behind
  · have checked := codeword.across (by omega) (by omega)
    have after : 5 * back = 6 + (264 - 5 * front) := by omega
    rw [after] at checked
    have starts : 264 - 5 * front ∈ [4, 9] := by
      have either : front = 51 ∨ front = 52 := by omega
      rcases either with rfl | rfl <;> decide
    exact across_clear _ starts x xs y ys checked
  · exact clears (codeword.no_burst_behind checksumBits_written (by omega))

/-- Two codewords of digits that differ at two neighbours at most do not differ. -/
theorem digits_of_codewords {front back : List Nat} {a b c d : Nat} (known : a < 32 ∧ b < 32)
    (read : c < 32 ∧ d < 32) (length : front.length + back.length = 54)
    (first : Crc.Codeword polynomial checksumBits 264 ((front ++ a :: b :: back).flatMap Base32.bits))
    (second : Crc.Codeword polynomial checksumBits 264
      ((front ++ c :: d :: back).flatMap Base32.bits)) : a = c ∧ b = d := by
  have low : ∀ x < 32, ∀ y < 32, x ^^^ y < 32 := fun _ xs _ ys => Nat.xor_lt_two_pow (n := 5) xs ys
  obtain ⟨one, other⟩ := no_wrong_digits length (low a known.1 c read.1) (low b known.2 d read.2)
    (codewords_differ first second)
  exact ⟨xor_eq_zero_iff.mp one, xor_eq_zero_iff.mp other⟩

end Digits

end Patala.Stellar.StrKey
