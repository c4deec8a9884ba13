import Patala.Core.Rail
import Patala.Lib.Base32
import Patala.Lib.Machine

/-! StrKey, the text of a Stellar key: a version byte, the payload and a CRC16-XMODEM
checksum in base32, of the one length those bytes have. -/

namespace Patala.Stellar.StrKey

open Machine

def crc16Bit (crc : UInt16) : UInt16 :=
  if crc &&& 0x8000 = 0 then crc <<< 1 else (crc <<< 1) ^^^ 0x1021

def crc16Byte (crc : UInt16) (byte : UInt8) : UInt16 :=
  let high : UInt16 := byte.toUInt16 <<< (8 : UInt16)
  Nat.iterate crc16Bit 8 (crc ^^^ high)

def crc16 (bytes : List UInt8) : UInt16 := bytes.foldl crc16Byte 0

/-- The checksum as it is written, low byte first. -/
def checksum (bytes : List UInt8) : List UInt8 :=
  [(crc16 bytes).toUInt8, (crc16 bytes >>> 8).toUInt8]

/-- The version byte and the payload of a text. -/
def unframe (text : String) : Option (UInt8 × List UInt8) := do
  let data ← Base32.decode text
  require ((asBytes text).length = (data.length * 8 + 4) / 5)
  require (3 ≤ data.length)
  let framed := data.take (data.length - 2)
  require (data.drop (data.length - 2) = checksum framed)
  match framed with
  | version :: payload => some (version, payload)
  | [] => none

/-- The version byte of an account. -/
def publicKeyEd25519 : UInt8 := (6 : UInt8) <<< 3

/-- The key of an account's text. -/
def account (text : String) : Option (Bytes 32) := do
  let (version, payload) ← unframe text
  require (version = publicKeyEd25519)
  toArray? 32 payload

/-- What a text was decoded from: its characters are digits, its bytes start with the version. -/
theorem unframe_eq_some {text : String} {version : UInt8} {payload : List UInt8}
    (read : unframe text = some (version, payload)) :
    ∃ check, Base32.decode text = some (version :: (payload ++ check)) ∧ check.length = 2 ∧
      (asBytes text).length = ((payload.length + 3) * 8 + 4) / 5 := by
  simp only [unframe, Option.bind_eq_bind, Option.bind_eq_some_iff, require_eq_some] at read
  obtain ⟨data, decoded, _, canonical, _, long, _, checked, found⟩ := read
  cases framed : data.take (data.length - 2) with
  | nil => simp [framed] at found
  | cons first rest =>
    rw [framed] at found
    cases found
    have whole := List.take_append_drop (data.length - 2) data
    rw [framed] at whole
    have size : (data.drop (data.length - 2)).length = 2 := by rw [List.length_drop]; omega
    have length := congrArg List.length whole
    rw [List.length_append, size, List.length_cons] at length
    refine ⟨data.drop (data.length - 2), ?_, size, ?_⟩
    · rw [decoded, ← List.cons_append, whole]
    · rw [canonical, ← length]

/-- The text of an account: 56 digits that start with the letter G. -/
theorem account_shape {text : String} {key : Bytes 32} (read : account text = some key) :
    (asBytes text).length = 56 ∧ (∀ c ∈ text.toList, Base32.IsDigit c) ∧
      (text.toList.head? = some 'G' ∨ text.toList.head? = some 'g') := by
  simp only [account, Option.bind_eq_bind, Option.bind_eq_some_iff, require_eq_some] at read
  obtain ⟨⟨version, payload⟩, framed, _, rfl, array⟩ := read
  have size : payload.length = 32 := (congrArg List.length (toArray?_eq_some.mp array)).trans
    key.toList_length
  obtain ⟨check, decoded, -, canonical⟩ := unframe_eq_some framed
  obtain ⟨c, first, value⟩ := Base32.head_of_decode decoded
  rw [first]
  refine ⟨by rw [canonical, size], (Base32.isDigit_of_decode decoded).2, ?_⟩
  have letter : publicKeyEd25519.toNat / 8 = 6 := by decide
  rw [letter] at value
  rcases Base32.charValue_letter value (by decide) with upper | lower
  · exact .inl (congrArg some (Char.toNat_inj.mp upper))
  · exact .inr (congrArg some (Char.toNat_inj.mp lower))

end Patala.Stellar.StrKey
