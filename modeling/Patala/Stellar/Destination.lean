import Patala.Core.Destination
import Patala.Stellar.Instance
import Patala.Stellar.StrKey

/-! Checking a Stellar destination offline. The decoder is the authority; the shapes that are
looked at before it, a pasted secret seed and the addresses of other chains, have no account
among them. -/

namespace Patala.Stellar

open Machine

/-- The id in every verdict of this rail. -/
def destinationRailId : String := "stellar"

/-- What the decoder tells apart. -/
inductive Strkey where
  | publicKeyEd25519 (key : Bytes 32)
  | privateKeyEd25519 (seed : Bytes 32)
  | preAuthTx (hash : Bytes 32)
  | hashX (hash : Bytes 32)
  | muxedAccountEd25519 (key : Bytes 32) (id : UInt64)
  | signedPayloadEd25519 (key : Bytes 32) (payload : List UInt8)
  | contract (hash : Bytes 32)

/-- The decoder of every kind, and the test for a point of the curve. -/
structure StrkeyCrate where
  fromString : String → Option Strkey
  isOnCurve : Bytes 32 → Bool

def strkeyLen32 : Nat := 56

def strkeyLenMuxed : Nat := 69

section Shapes

/-- In the alphabet of StrKey, in either case. -/
def isBase32Char (c : Char) : Bool :=
  (65 ≤ c.toNat && c.toNat ≤ 90) || (97 ≤ c.toNat && c.toNat ≤ 122) ||
    (50 ≤ c.toNat && c.toNat ≤ 55)

def isStrkeyAlphabet (s : String) : Bool := s.toList.all isBase32Char

def base58Alphabet : String := "123456789ABCDEFGHJKLMNPQRSTUVWXYZabcdefghijkmnopqrstuvwxyz"

def allBase58 (s : String) : Bool := s.toList.all fun c => base58Alphabet.toList.contains c

/-- An address well formed for another chain by its length and alphabet, named. -/
def foreignFormat (dest : String) : Option String :=
  let len := (asBytes dest).length
  if (len = 43 ∨ len = 44) ∧ allBase58 dest then some "a Solana address (32 bytes of base58)"
  else if (26 ≤ len ∧ len ≤ 35) ∧ allBase58 dest ∧
      (dest.toList.head? = some '1' ∨ dest.toList.head? = some '3') then
    some "a legacy Bitcoin address"
  else (bech32Format dest).or (hexFormat dest)

/-- The shape of a secret seed, typed correctly or not. -/
def looksLikeSeed (dest : String) : Bool :=
  (dest.toList.head? = some 'S' || dest.toList.head? = some 's') &&
    (asBytes dest).length = strkeyLen32 && isStrkeyAlphabet dest

end Shapes

section Refusals

def secretSeedRefusal : DestinationVerdict :=
  .malformed destinationRailId
    ("STOP — this is not an address, it is a Stellar SECRET SEED (S…). You have just pasted a " ++
      "PRIVATE KEY into a destination field. Treat it as disclosed: create a new Stellar " ++
      "account, move every asset the old key controls to it, remove the old key as a signer " ++
      "anywhere it is one, and never use it again. patala has not logged the value and this " ++
      "message does not repeat it, but wherever you copied it from may have. The address you " ++
      "want is the PUBLIC account address (G…) derived from that seed.")

/-- What a character outside the alphabet was probably meant to be. -/
def base32Hint (bad : Char) : String :=
  if bad = '0' then " (base32 has no 0 — the letter O is what it uses)"
  else if bad = '1' then " (base32 has no 1 — the letter I is what it uses)"
  else if bad = '8' then " (base32 has no 8 — the letter B is what it uses)"
  else if bad = '9' then " (base32 has no 9 — the letter G is what it uses)"
  else ""

/-- Why the decoder rejected a text, reconstructed. -/
def explainRejection (dest : String) (expectedLen : Nat) (what : String) : String :=
  match dest.toList.find? fun c => !isBase32Char c with
  | some bad =>
    "this is not a valid Stellar address: the character " ++ debugChar bad ++ " is not in the " ++
      "base32 alphabet StrKey uses" ++ base32Hint bad ++ "."
  | none =>
    if (asBytes dest).length ≠ expectedLen then
      "this starts like " ++ what ++ ", but " ++ what ++ " is exactly " ++ toString expectedLen ++
        " characters and this is " ++ toString (asBytes dest).length ++ ". Characters were lost " ++
        "or added when it was copied — take the whole address again."
    else if (dest.toList[1]?).any fun c => 'A' ≤ c && c ≤ 'D' then
      "this is " ++ what ++ " of exactly the right length and alphabet, but its CRC16 checksum " ++
        "does not match — so at least one character is wrong. This is what a typo, a truncated " ++
        "copy, or an address mangled in transit looks like, and it is exactly the case " ++
        "Stellar's checksum exists to catch. Do NOT try to repair it by hand: copy the whole " ++
        "address again from the wallet that owns it."
    else
      "this starts like " ++ what ++ " and has the right length, but its second character does not " ++
        "encode a StrKey version byte, so it is not a StrKey at all. Re-copy the address."

/-- The length and the name of the kind a first letter stands for. -/
def expectedKind (first : Option Char) : Option (Nat × String) :=
  if first = some 'G' then some (strkeyLen32, "a Stellar account address (G…)")
  else if first = some 'M' then some (strkeyLenMuxed, "a Stellar muxed account (M…)")
  else if first = some 'C' then some (strkeyLen32, "a Stellar contract address (C…)")
  else if first = some 'S' then some (strkeyLen32, "a Stellar secret seed (S…)")
  else if first = some 'T' then some (strkeyLen32, "a Stellar pre-auth-tx signer (T…)")
  else if first = some 'X' then some (strkeyLen32, "a Stellar hash-x signer (X…)")
  else none

/-- The refusal of a text the decoder rejected. -/
def rejected (dest : String) : DestinationVerdict :=
  match expectedKind dest.toList.head? with
  | some (expectedLen, what) =>
    .malformed destinationRailId (explainRejection dest expectedLen what)
  | none =>
    .malformed destinationRailId
      ("this is not a Stellar address. A Stellar account address is StrKey: 56 " ++
        "characters of uppercase base32 beginning with G. Ask the recipient for the " ++
        "address their wallet shows, not a username, an email, a federation address, " ++
        "or an address from another chain.")

end Refusals

section Validation

/-- The verdict on what the decoder read. -/
def classify (crate : StrkeyCrate) : Strkey → DestinationVerdict
  | .publicKeyEd25519 key =>
    if !crate.isOnCurve key then
      .notAWallet destinationRailId
        ("this is a checksum-valid G… address whose 32-byte payload is not a point on " ++
          "the ed25519 curve, so no private key can correspond to it and no one can " ++
          "ever move funds out of it. A real Stellar account address is always a real " ++
          "public key; this one was constructed rather than generated.")
    else
      .structurallyValid destinationRailId
        ("this is a well-formed Stellar account address: the StrKey version byte says " ++
          "account, the CRC16 checksum verifies, and the payload is a real ed25519 public " ++
          "key. That is every check possible without asking Horizon a question. In " ++
          "particular this rail cannot yet know whether the account EXISTS and is funded " ++
          "above the base reserve, or whether it holds a TRUSTLINE for the USDC asset this " ++
          "rail pays in — without one the payment is rejected with op_no_trust, which is " ++
          "the most common way a Stellar payment fails. Confirm both with the recipient " ++
          "before paying.")
  | .muxedAccountEd25519 _ _ =>
    .notAWallet destinationRailId
      ("this is a muxed account (M…): a Stellar account plus a 64-bit subaccount id, which " ++
        "is what an exchange or custodian hands out so it can tell its own customers apart " ++
        "inside one shared omnibus account. It is a valid Stellar destination in general, " ++
        "but NOT one this rail can pay: patala-stellar builds only plain Ed25519 payment " ++
        "destinations, so it would drop the subaccount id and the money would land in the " ++
        "omnibus account with nothing to say it was yours — which is precisely the " ++
        "unrecoverable case. Ask the recipient for an account they control directly (G…), " ++
        "not a deposit address at a custodian.")
  | .contract _ =>
    .notAWallet destinationRailId
      ("this is a Soroban contract address (C…), not an account. A contract has no keypair " ++
        "and no one can sign for it; this rail builds classic PAYMENT operations, which a " ++
        "contract address cannot be the destination of at all. Ask for the recipient's " ++
        "account address (G…).")
  | .preAuthTx _ | .hashX _ | .signedPayloadEd25519 _ _ =>
    .notAWallet destinationRailId
      ("this is a valid StrKey, but it encodes a SIGNER (a pre-authorized transaction, a " ++
        "hash-x signer, or a signed payload), not an account. Signers are things that may " ++
        "authorize a transaction on an account; they are not places money can be sent, " ++
        "and nothing sent using one is recoverable. Ask for the recipient's account " ++
        "address (G…).")
  | .privateKeyEd25519 _ => secretSeedRefusal

/-- Check a Stellar destination address, offline. -/
def validate (crate : StrkeyCrate) (dest : String) : DestinationVerdict :=
  if trim dest = "" then
    .malformed destinationRailId "an empty destination is not an address on any rail"
  else if trim dest ≠ dest then
    .malformed destinationRailId
      ("this address has leading or trailing whitespace, which came from the copy rather " ++
        "than from the address — remove it and check nothing else was picked up with it")
  else if looksLikeSeed dest then secretSeedRefusal
  else match foreignFormat dest with
    | some what =>
      .wrongNetwork destinationRailId
        ("this looks like " ++ what ++ ", not a Stellar address. The stellar rail pays USDC on " ++
          "Stellar only; funds sent using an address from another chain do not arrive on " ++
          "that chain, they simply do not arrive. Ask for the recipient's Stellar account " ++
          "address — it starts with G and is 56 characters.")
    | none =>
      match crate.fromString dest with
      | none => rejected dest
      | some parsed => classify crate parsed

end Validation

section Exactness

/-- The decoders as documented: an account is the text of its key, whichever of them reads it. -/
structure Documented (crates : Crates) (crate : StrkeyCrate) : Prop where
  account : ∀ text, crates.strkeyDecode text = StrKey.account text
  fromString : ∀ text key,
    crate.fromString text = some (.publicKeyEd25519 key) ↔ StrKey.account text = some key

/-- No shape looked at before the decoder has this text. -/
structure Unshaped (dest : String) : Prop where
  nonempty : dest ≠ ""
  trimmed : trim dest = dest
  noSeed : looksLikeSeed dest = false
  noForeign : foreignFormat dest = none

variable {crates : Crates} {crate : StrkeyCrate}

theorem isDigit_not_whitespace {c : Char} (digit : Base32.IsDigit c) : isWhitespace c = false := by
  unfold Base32.IsDigit at digit
  simp only [isWhitespace, Bool.or_eq_false_iff, Bool.and_eq_false_iff, decide_eq_false_iff_not,
    beq_eq_false_iff_ne]
  omega

/-- Every text the decoder reads as an account gets past the shapes. -/
theorem unshaped_of_account {dest : String} {key : Bytes 32}
    (read : StrKey.account dest = some key) : Unshaped dest := by
  obtain ⟨length, digits, first⟩ := StrKey.account_shape read
  have other : ∀ c, c ≠ 'G' → c ≠ 'g' → dest.toList.head? ≠ some c := by
    intro c notUpper notLower same
    rw [same] at first
    rcases first with upper | lower
    · exact notUpper (Option.some.inj upper)
    · exact notLower (Option.some.inj lower)
  refine ⟨?_, ?_, ?_, ?_⟩
  · rintro rfl
    exact absurd length (by decide)
  · exact trim_of_plain fun c member => isDigit_not_whitespace (digits c member)
  · simp [looksLikeSeed, other 'S' (by decide) (by decide), other 's' (by decide) (by decide)]
  · simp only [foreignFormat, length]
    rw [if_neg (by omega), if_neg (by omega),
      bech32Format_eq_none (other 'b' (by decide) (by decide)) (other 't' (by decide) (by decide)),
      hexFormat_eq_none (other '0' (by decide) (by decide))]
    rfl

theorem validate_of_unshaped {dest : String} (unshaped : Unshaped dest) :
    validate crate dest = match crate.fromString dest with
      | none => rejected dest
      | some parsed => classify crate parsed := by
  rw [validate, unshaped.trimmed, if_neg unshaped.nonempty, if_neg (fun h => h rfl),
    unshaped.noSeed, unshaped.noForeign]
  rfl

theorem rejected_decided (dest : String) : (rejected dest).Decided := by
  unfold rejected
  split <;> exact DestinationVerdict.decided_malformed ..

theorem classify_decided (parsed : Strkey) : (classify crate parsed).Decided := by
  cases parsed with
  | publicKeyEd25519 key =>
    simp only [classify]
    split
    · exact DestinationVerdict.decided_notAWallet ..
    · exact DestinationVerdict.decided_structurallyValid ..
  | privateKeyEd25519 seed => exact DestinationVerdict.decided_malformed ..
  | preAuthTx hash => exact DestinationVerdict.decided_notAWallet ..
  | hashX hash => exact DestinationVerdict.decided_notAWallet ..
  | muxedAccountEd25519 key id => exact DestinationVerdict.decided_notAWallet ..
  | signedPayloadEd25519 key payload => exact DestinationVerdict.decided_notAWallet ..
  | contract hash => exact DestinationVerdict.decided_notAWallet ..

/-- Every verdict of the rail is a refusal or a structurally valid address. -/
theorem validate_decided (dest : String) : (validate crate dest).Decided := by
  unfold validate
  split
  · exact DestinationVerdict.decided_malformed ..
  split
  · exact DestinationVerdict.decided_malformed ..
  split
  · exact DestinationVerdict.decided_malformed ..
  split
  · exact DestinationVerdict.decided_wrongNetwork ..
  split
  · exact rejected_decided dest
  · exact classify_decided _

/-- What is classified as valid is an account whose key is on the curve. -/
theorem classify_structurallyValid {parsed : Strkey} :
    (classify crate parsed).status = .structurallyValid ↔
      ∃ key, parsed = .publicKeyEd25519 key ∧ crate.isOnCurve key = true := by
  cases parsed with
  -- the reasons are left as they are put together
  | publicKeyEd25519 key =>
    cases onCurve : crate.isOnCurve key <;> simp [classify, onCurve, -String.reduceAppend]
  | privateKeyEd25519 seed => simp [classify, secretSeedRefusal, -String.reduceAppend]
  | preAuthTx hash => simp [classify, -String.reduceAppend]
  | hashX hash => simp [classify, -String.reduceAppend]
  | muxedAccountEd25519 key id => simp [classify, -String.reduceAppend]
  | signedPayloadEd25519 key payload => simp [classify, -String.reduceAppend]
  | contract hash => simp [classify, -String.reduceAppend]

theorem rejected_status (dest : String) : (rejected dest).status = .malformed := by
  unfold rejected
  split <;> rfl

/-- A verdict that is structurally valid came from the decoder. -/
theorem validate_structurallyValid {dest : String}
    (valid : (validate crate dest).status = .structurallyValid) :
    ∃ key, crate.fromString dest = some (.publicKeyEd25519 key) ∧ crate.isOnCurve key = true := by
  unfold validate at valid
  split at valid
  · cases valid
  split at valid
  · cases valid
  split at valid
  · cases valid
  split at valid
  · cases valid
  cases parsed : crate.fromString dest with
  | none => simp [parsed, rejected_status] at valid
  | some found =>
    simp only [parsed] at valid
    obtain ⟨key, rfl, onCurve⟩ := classify_structurallyValid.mp valid
    exact ⟨key, rfl, onCurve⟩

/-- The verdict is exact: valid is what the charge can parse and on the curve, all else is
refused, and no shape hides an account from the decoder. -/
theorem account_verdict_exact (documented : Documented crates crate) (dest : String) :
    ((validate crate dest).status = .structurallyValid ↔
      ∃ key, fromStrkey crates dest = .ok key ∧ crate.isOnCurve key = true) ∧
    ((validate crate dest).status ≠ .structurallyValid →
      (validate crate dest).isRefusal = true) ∧
    ∀ key, fromStrkey crates dest = .ok key → Unshaped dest := by
  have decoded : ∀ key, fromStrkey crates dest = .ok key ↔ StrKey.account dest = some key := by
    intro key
    rw [fromStrkey_ok_iff, documented.account]
  refine ⟨⟨?_, ?_⟩, ?_, ?_⟩
  · intro valid
    obtain ⟨key, parsed, onCurve⟩ := validate_structurallyValid valid
    exact ⟨key, (decoded key).mpr ((documented.fromString dest key).mp parsed), onCurve⟩
  · rintro ⟨key, read, onCurve⟩
    have account := (decoded key).mp read
    rw [validate_of_unshaped (unshaped_of_account account),
      (documented.fromString dest key).mpr account]
    exact classify_structurallyValid.mpr ⟨key, rfl, onCurve⟩
  · intro other
    exact (validate_decided dest).resolve_right other
  · intro key read
    exact unshaped_of_account ((decoded key).mp read)

end Exactness

section Account

def accountText : String := "GAAZI4TCR3TY5OJHCTJC2A4QSY6CJWJH5IAJTGKIN2ER7LBNVKOCCWN7"

def accountKey : Bytes 32 :=
  ⟨[1, 148, 114, 98, 142, 231, 142, 185, 39, 20, 210, 45, 3, 144, 150, 60, 36, 217, 39, 234, 0,
    153, 153, 72, 110, 137, 31, 172, 45, 170, 156, 33], rfl⟩

/-- A decoder of accounts, and a curve with this one's key on it. -/
def accountCrate : StrkeyCrate where
  fromString text := (StrKey.account text).map .publicKeyEd25519
  isOnCurve key := key = accountKey

def strkeyCrates : Crates := { Instance.crates with strkeyDecode := StrKey.account }

theorem strkeyCrates_documented : Documented strkeyCrates accountCrate where
  account _ := rfl
  fromString text key := by
    rw [accountCrate, Option.map_eq_some_iff]
    constructor
    · rintro ⟨read, account, same⟩
      cases same
      exact account
    · intro account
      exact ⟨key, account, rfl⟩

theorem account_read : fromStrkey strkeyCrates accountText = .ok accountKey :=
  fromStrkey_ok_iff.mpr (by decide +kernel)

theorem account_structurallyValid :
    (validate accountCrate accountText).status = .structurallyValid :=
  (account_verdict_exact strkeyCrates_documented accountText).1.mpr
    ⟨accountKey, account_read, by decide⟩

end Account

end Patala.Stellar
