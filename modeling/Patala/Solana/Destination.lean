import Patala.Core.Destination
import Patala.Lib.Base58
import Patala.Solana.Message

/-! Checking a Solana destination offline. An address is 32 bytes of base58 on the curve; the
shapes of other chains' addresses are named before anything is decoded, and none of them is
the shape of 32 bytes. -/

namespace Patala.Solana

open Machine

def railId : String := "solana"

/-- Canonical USDC mint on Solana mainnet-beta. -/
def usdcMainnetMint : String := "EPjFWdd5AufqSSqeM2qN1xzybapC8G4wEGGkZwyTDt1v"

/-- USDC on devnet. -/
def usdcDevnetMint : String := "4zMMC9srt5Ri5X14GAgXhaHii3GnPAEERYPJgZJDncDU"

def base58Alphabet : String := "123456789ABCDEFGHJKLMNPQRSTUVWXYZabcdefghijkmnopqrstuvwxyz"

/-- The look-alike most likely meant by an excluded character. -/
def base58Lookalike (c : Char) : Option String :=
  if c = '0' then some ("the digit 0 is not in the base58 alphabet — did you mean the letter O? " ++
    "(base58 omits both, so re-copy the address rather than guessing)")
  else if c = 'O' then some ("the letter O is not in the base58 alphabet — did you mean the digit " ++
    "0? (base58 omits both, so re-copy the address rather than guessing)")
  else if c = 'I' then some ("the capital I is not in the base58 alphabet — did you mean a " ++
    "lowercase l or the digit 1? (base58 omits I and l, so re-copy the address rather than guessing)")
  else if c = 'l' then some ("the lowercase l is not in the base58 alphabet — did you mean a " ++
    "capital I or the digit 1? (base58 omits I and l, so re-copy the address rather than guessing)")
  else none

/-- Addresses that decode and that no customer can be paid at, with what each one is. -/
def wellKnownAccounts : List (String × String) :=
  [("11111111111111111111111111111111", "the System Program (the all-zeroes account id)"),
    ("TokenkegQfeZyiNwAJbNbGKPFXCWuBvf9Ss623VQ5DA", "the SPL Token program"),
    ("TokenzQdBNbLqP5VEhdkAS6EPFLC1PHnBqCXEpPxuEb", "the SPL Token-2022 program"),
    ("ATokenGPvbdGVxr1b2hvZbsiqW5xWH25efTNsLJA8knL", "the Associated Token Account program"),
    ("MemoSq4gqABAXKb96qnH8TysNcWxMyWCqXgDLGmfcHr", "the SPL Memo v3 program"),
    ("ComputeBudget111111111111111111111111111111", "the Compute Budget program"),
    ("Stake11111111111111111111111111111111111111", "the Stake program"),
    ("Vote111111111111111111111111111111111111111", "the Vote program"),
    ("SysvarRent111111111111111111111111111111111", "the Rent sysvar"),
    ("SysvarC1ock11111111111111111111111111111111", "the Clock sysvar"),
    ("1nc1nerator11111111111111111111111111111111",
      "the incinerator — anything sent here is burned, permanently and by design"),
    (usdcMainnetMint, "the mainnet-beta USDC mint account itself, not a wallet holding USDC"),
    (usdcDevnetMint, "the devnet USDC mint account itself, not a wallet holding USDC"),
    ("So11111111111111111111111111111111111111112",
      "the Wrapped SOL mint account itself, not a wallet")]

/-- What a shape check recognized. A secret seed is a disclosure, not a wrong address. -/
inductive ForeignFormat where
  | otherChain (what : String)
  | stellarSecretSeed
deriving DecidableEq

section Shapes

def isUpperBase32 (s : String) : Bool :=
  asBytes s ≠ [] && (asBytes s).all fun b => (65 ≤ b && b ≤ 90) || (50 ≤ b && b ≤ 55)

/-- A Stellar address by its first letter and its length. -/
def stellarFormat (dest : String) : Option ForeignFormat :=
  let len := (asBytes dest).length
  let first := dest.toList.head?
  if !isUpperBase32 dest then none
  else if first = some 'S' ∧ len = 56 then some .stellarSecretSeed
  else if first = some 'G' ∧ len = 56 then some (.otherChain "a Stellar account address (G…)")
  else if first = some 'C' ∧ len = 56 then
    some (.otherChain "a Stellar/Soroban contract address (C…)")
  else if first = some 'T' ∧ len = 56 then
    some (.otherChain "a Stellar pre-authorized-transaction signer (T…)")
  else if first = some 'X' ∧ len = 56 then some (.otherChain "a Stellar hash-x signer (X…)")
  else if first = some 'M' ∧ len = 69 then some (.otherChain "a Stellar muxed account address (M…)")
  else if first = some 'P' ∧ 56 ≤ len then
    some (.otherChain "a Stellar signed-payload signer (P…)")
  else none

variable (crates : Crates)

/-- A Bitcoin address of either era, at a length no Solana address was taken to have. -/
def bitcoinFormat (dest : String) : Option ForeignFormat :=
  let len := (asBytes dest).length
  if len = 43 ∨ len = 44 then none
  else if (26 ≤ len ∧ len ≤ 35) ∧
      (dest.toList.head? = some '1' ∨ dest.toList.head? = some '3') ∧
      (crates.bs58Decode dest).map List.length = some 25 then
    some (.otherChain "a legacy Bitcoin address")
  else (bech32Format dest).map .otherChain

/-- An address well formed for another chain, named. -/
def foreignFormat (dest : String) : Option ForeignFormat :=
  ((stellarFormat dest).or (bitcoinFormat crates dest)).or ((hexFormat dest).map .otherChain)

end Shapes

section Validation

def secretSeedRefusal (what : String) : DestinationVerdict :=
  .malformed railId
    ("STOP — this is not an address, it is " ++ what ++ ". You have just pasted a PRIVATE KEY into " ++
      "a destination field. Treat it as disclosed: create a new account, move everything " ++
      "the old key controls to it, and never use the old key again. patala has not logged " ++
      "the value and this message does not repeat it, but wherever you copied it from may " ++
      "have. The address you want is the PUBLIC one derived from that key.")

variable (crates : Crates) (derivation : Derivation)

/-- How many bytes a text decodes to, in words. -/
def decodedSize (dest : String) : String :=
  match crates.bs58Decode dest with
  | some bytes => s!"{bytes.length} bytes"
  | none => "something base58 could not decode at all"

/-- The checks behind the shapes: the alphabet, the length, the curve. -/
def validateBase58 (dest : String) : DestinationVerdict :=
  match dest.toList.find? fun c => !base58Alphabet.toList.contains c with
  | some bad =>
    let detail := (base58Lookalike bad).getD
      ("the character " ++ debugChar bad ++ " is not in the base58 alphabet Solana addresses use")
    .malformed railId ("this is not a Solana address: " ++ detail ++ ".")
  | none =>
    match pubkeyFromBase58 crates dest with
    | .error _ =>
      .malformed railId
        ("this is base58 but it decodes to " ++ decodedSize crates dest ++ "; a Solana address is " ++
          "exactly 32 bytes, which is always 43 or 44 characters. A string of the wrong length is " ++
          "usually an address for a different chain, or one that lost characters when " ++
          "it was copied.")
    | .ok key =>
      if !derivation.isOnCurve key then
        .notAWallet railId
          ("this is a valid 32-byte Solana account id, but it is not on the ed25519 curve, so " ++
            "no private key can exist for it — it is a program-derived address (a program's own " ++
            "account, or an associated token account). If it is an associated token account, " ++
            "note that this rail derives the recipient's token account from their WALLET address " ++
            "itself: give it the wallet, not the token account, or the transfer is built against " ++
            "the token account of a token account and the funds are unreachable.")
      else
        .structurallyValid railId
          ("this is a well-formed Solana address: 32 bytes of base58, on the ed25519 curve, and " ++
            "not a program or mint this rail knows of. That is every check possible without asking " ++
            "the chain a question — whether the account exists, is rent-exempt, or already holds a " ++
            "USDC token account are all chain queries, and whether the person on the other end can " ++
            "actually be credited on it is not knowable at all. Confirm with them before paying.")

/-- Check a Solana destination address, offline. -/
def validate (dest : String) : DestinationVerdict :=
  if trim dest = "" then .malformed railId "an empty destination is not an address on any rail"
  else if trim dest ≠ dest then
    .malformed railId
      ("this address has leading or trailing whitespace, which came from the copy rather " ++
        "than from the address — remove it and check nothing else was picked up with it")
  else match wellKnownAccounts.find? fun account => account.1 = dest with
    | some (_, what) =>
      .notAWallet railId
        ("this is " ++ what ++ ". It is a real Solana account, but no one holds a key for it and " ++
          "nothing sent to it can be recovered — by the recipient, by you, or by anyone. " ++
          "Ask for the recipient's own wallet address.")
    | none =>
      match foreignFormat crates dest with
      | some .stellarSecretSeed => secretSeedRefusal "a Stellar secret seed (S…)"
      | some (.otherChain what) =>
        .wrongNetwork railId
          ("this looks like " ++ what ++ ", not a Solana address. The solana rail pays SPL USDC " ++
            "on Solana only; funds sent using an address from another chain do not arrive " ++
            "on that chain, they simply do not arrive. Ask for the recipient's Solana " ++
            "wallet address — 32 bytes of base58, 43 or 44 characters.")
      | none => validateBase58 crates derivation dest

end Validation

section Exactness

variable (crates : Crates) (derivation : Derivation)

/-- The rail's digits are the digits of base58. -/
theorem mem_base58Alphabet {c : Char} : base58Alphabet.toList.contains c ↔ c ∈ Base58.alphabet := by
  have same : base58Alphabet.toList = Base58.alphabet := by decide
  rw [same, List.contains_iff_mem]

theorem alphabet_not_whitespace {c : Char} (digit : c ∈ Base58.alphabet) : isWhitespace c = false :=
  Codec.forall_mem_of_all (p := fun c => isWhitespace c = false) (by decide) c digit

theorem alphabet_ascii {c : Char} (digit : c ∈ Base58.alphabet) : c.toNat < 128 :=
  Codec.forall_mem_of_all (p := fun c => c.toNat < 128) (by decide) c digit

theorem stellarFormat_of_short {dest : String} (short : (asBytes dest).length ≤ 44) :
    stellarFormat dest = none := by
  have lengths : (asBytes dest).length ≠ 56 ∧ (asBytes dest).length ≠ 69 ∧
      ¬ 56 ≤ (asBytes dest).length := by omega
  simp [stellarFormat, lengths.1, lengths.2.1, lengths.2.2]

/-- A text of 43 or 44 characters is not taken for a Bitcoin address; any other address of 32
bytes starts with the digit zero, as no bech32 address does, and a legacy one has 25 bytes. -/
theorem bitcoinFormat_of_led {dest : String} {bytes : List UInt8}
    (decoded : crates.bs58Decode dest = some bytes) (size : bytes.length = 32)
    (led : (asBytes dest).length = 43 ∨ (asBytes dest).length = 44 ∨
      dest.toList.head? = some '1') : bitcoinFormat crates dest = none := by
  by_cases wide : (asBytes dest).length = 43 ∨ (asBytes dest).length = 44
  · simp only [bitcoinFormat]
    rw [if_pos wide]
  · have one : dest.toList.head? = some '1' := by tauto
    simp only [bitcoinFormat]
    rw [if_neg wide, if_neg (by simp [decoded, size]),
      bech32Format_eq_none (by simp [one]) (by simp [one])]
    rfl

/-- No text of 32 bytes has the shape of an address of another chain, at any of its lengths. -/
theorem foreignFormat_of_decode (documented : ∀ text, crates.bs58Decode text = Base58.decode text)
    {dest : String} {bytes : List UInt8} (decoded : crates.bs58Decode dest = some bytes)
    (size : bytes.length = 32) : foreignFormat crates dest = none := by
  have read := (documented dest).symm.trans decoded
  have digits := Base58.mem_alphabet_of_decode read
  have lengths := Base58.length_of_decode_32 read size
  have count := length_asBytes_of_ascii fun c member => alphabet_ascii (digits c member)
  have notZero : dest.toList.head? ≠ some '0' := by
    intro zero
    exact absurd (digits '0' (List.mem_of_head? zero)) (by decide)
  have led : (asBytes dest).length = 43 ∨ (asBytes dest).length = 44 ∨
      dest.toList.head? = some '1' := by
    by_cases one : dest.toList.head? = some '1'
    · exact .inr (.inr one)
    · have wide := Base58.length_of_decode_32_unled read size one
      omega
  rw [foreignFormat, stellarFormat_of_short (by omega),
    bitcoinFormat_of_led crates decoded size led, hexFormat_eq_none notZero]
  rfl

/-- Behind the shapes, what is valid is what the charge can parse and a key can sign for. -/
theorem validateBase58_status (documented : ∀ text, crates.bs58Decode text = Base58.decode text)
    (dest : String) :
    (validateBase58 crates derivation dest).status = .structurallyValid ↔
      ∃ key, pubkeyFromBase58 crates dest = .ok key ∧ derivation.isOnCurve key = true := by
  unfold validateBase58
  cases found : dest.toList.find? fun c => !base58Alphabet.toList.contains c with
  | some bad =>
    simp only [DestinationVerdict.malformed_status, reduceCtorEq, false_iff]
    rintro ⟨key, parsed, -⟩
    have decoded := (documented dest).symm.trans ((pubkeyFromBase58_ok_iff crates).mp parsed)
    have outside := List.find?_some found
    have listed := Base58.mem_alphabet_of_decode decoded bad (List.mem_of_find?_eq_some found)
    simp only [mem_base58Alphabet.mpr listed] at outside
    cases outside
  | none =>
    cases parsed : pubkeyFromBase58 crates dest with
    -- the reasons are left as they are put together
    | error failure => simp [-String.reduceAppend]
    | ok key => cases onCurve : derivation.isOnCurve key <;> simp [onCurve, -String.reduceAppend]

/-- Every verdict of the rail is a refusal or a structurally valid address. -/
theorem validate_decided (dest : String) : (validate crates derivation dest).Decided := by
  unfold validate
  split
  · exact DestinationVerdict.decided_malformed ..
  split
  · exact DestinationVerdict.decided_malformed ..
  split
  · exact DestinationVerdict.decided_notAWallet ..
  split
  · exact DestinationVerdict.decided_malformed ..
  · exact DestinationVerdict.decided_wrongNetwork ..
  unfold validateBase58
  split
  · exact DestinationVerdict.decided_malformed ..
  split
  · exact DestinationVerdict.decided_malformed ..
  split
  · exact DestinationVerdict.decided_notAWallet ..
  · exact DestinationVerdict.decided_structurallyValid ..

/-- A destination that decodes reaches the checks behind the shapes, a well-known account apart. -/
theorem validate_of_decode (documented : ∀ text, crates.bs58Decode text = Base58.decode text)
    {dest : String} {bytes : List UInt8} (decoded : crates.bs58Decode dest = some bytes)
    (size : bytes.length = 32) (unlisted : dest ∉ wellKnownAccounts.map Prod.fst) :
    validate crates derivation dest = validateBase58 crates derivation dest := by
  have read := (documented dest).symm.trans decoded
  have plain : trim dest = dest := trim_of_plain fun c member =>
    alphabet_not_whitespace (Base58.mem_alphabet_of_decode read c member)
  have nonempty : dest ≠ "" := by
    rintro rfl
    have lengths := (Base58.length_of_decode_32 read size).1
    exact absurd lengths (by decide)
  have unknown : (wellKnownAccounts.find? fun account => account.1 = dest) = none := by
    apply List.find?_eq_none.mpr
    intro account listed same
    exact unlisted (of_decide_eq_true same ▸ List.mem_map_of_mem listed)
  rw [validate, plain, if_neg nonempty, if_neg (fun h => h rfl), unknown,
    foreignFormat_of_decode crates documented decoded size]

/-- A verdict that is structurally valid was given behind the shapes. -/
theorem validate_structurallyValid {dest : String}
    (valid : (validate crates derivation dest).status = .structurallyValid) :
    dest ∉ wellKnownAccounts.map Prod.fst ∧
      (validateBase58 crates derivation dest).status = .structurallyValid := by
  unfold validate at valid
  split at valid
  · cases valid
  split at valid
  · cases valid
  split at valid
  · cases valid
  rename_i unknown
  refine ⟨?_, ?_⟩
  · intro listed
    obtain ⟨account, member, same⟩ := List.mem_map.mp listed
    exact List.find?_eq_none.mp unknown account member (decide_eq_true same)
  · split at valid
    · cases valid
    · cases valid
    · exact valid

/-- The verdict is exact: valid is what the charge can parse, on the curve and no account known
here; all else is refused, and no shape hides an address of 32 bytes. -/
theorem address_verdict_exact
    (documented : ∀ text, crates.bs58Decode text = Base58.decode text) (dest : String) :
    ((validate crates derivation dest).status = .structurallyValid ↔
      ∃ key, pubkeyFromBase58 crates dest = .ok key ∧ derivation.isOnCurve key = true ∧
        dest ∉ wellKnownAccounts.map Prod.fst) ∧
    ((validate crates derivation dest).status ≠ .structurallyValid →
      (validate crates derivation dest).isRefusal = true) ∧
    ∀ bytes, crates.bs58Decode dest = some bytes → bytes.length = 32 →
      foreignFormat crates dest = none := by
  refine ⟨?_, ?_, fun bytes => foreignFormat_of_decode crates documented⟩
  · constructor
    · intro valid
      obtain ⟨unlisted, behind⟩ := validate_structurallyValid crates derivation valid
      obtain ⟨key, parsed, onCurve⟩ :=
        (validateBase58_status crates derivation documented dest).mp behind
      exact ⟨key, parsed, onCurve, unlisted⟩
    · rintro ⟨key, parsed, onCurve, unlisted⟩
      have decoded := (pubkeyFromBase58_ok_iff crates).mp parsed
      rw [validate_of_decode crates derivation documented decoded key.toList_length unlisted]
      exact (validateBase58_status crates derivation documented dest).mpr ⟨key, parsed, onCurve⟩
  · intro other
    exact (validate_decided crates derivation dest).resolve_right other

end Exactness

section Wallet

def bs58Crates : Crates where
  blake3 _ := List.Vector.replicate 32 0
  hexEncode := Codec.hexEncode
  bs58Encode := Base58.encode
  bs58Decode := Base58.decode
  toVec _ := []
  fromSlice _ := none

def walletAddress : String := "6dNVeXf5rQrTVAvpjTv2oyeHiWMCGSCUuUkxYCK6bZTs"

def walletKey : PubKey :=
  ⟨[0x53, 0x9b, 0xa5, 0xa2, 0x20, 0xd3, 0xbe, 0x1b, 0x88, 0x26, 0xa5, 0x9f, 0xca, 0x78, 0xe6, 0x1a,
    0xce, 0xde, 0x9b, 0x30, 0xd6, 0xce, 0xad, 0xa9, 0x69, 0x36, 0x14, 0x47, 0x9c, 0x09, 0x25, 0xb6],
    rfl⟩

/-- The wallet's key is a point of the curve, the program ids are none. -/
def walletCurve : Derivation where
  sha256 _ := List.Vector.replicate 32 0
  isOnCurve key := key = walletKey

theorem wallet_parsed : pubkeyFromBase58 bs58Crates walletAddress = .ok walletKey :=
  (pubkeyFromBase58_ok_iff bs58Crates).mpr (by decide)

theorem wallet_unlisted : walletAddress ∉ wellKnownAccounts.map Prod.fst := by decide

theorem bs58Crates_documented (text : String) : bs58Crates.bs58Decode text = Base58.decode text :=
  rfl

theorem wallet_structurallyValid :
    (validate bs58Crates walletCurve walletAddress).status = .structurallyValid :=
  (address_verdict_exact bs58Crates walletCurve bs58Crates_documented walletAddress).1.mpr
    ⟨walletKey, wallet_parsed, by decide, wallet_unlisted⟩

/-- An address of 32 bytes can have 32 characters. -/
example : Base58.decode "11111111111111111111111111111112" =
    some (List.replicate 31 0 ++ [1]) := by
  decide

end Wallet

end Patala.Solana
