import Patala.Stellar.TxFacts

/-! `StellarRail::charge` and `charge_split`: everything is checked, built and signed
before anything is submitted, and a receipt is issued only for the hash that was
signed. The clock is an input. -/

namespace Patala.Stellar

open Machine

/-- One payee of a split. -/
structure SplitLeg where
  destination : Str
  amountMinor : UInt64
deriving DecidableEq

/-- A payment request's checked parts. -/
structure Prepared where
  signer : Keypair
  dest : PubKey
  issuer : PubKey
  asset : Asset
  amount : Int64

/-- A split's checked parts: its legs as they are paid and as they are recorded. -/
structure SplitPrepared where
  signer : Keypair
  issuer : PubKey
  legs : List PaymentLeg
  pairs : List (Str × Int64)

/-- A transaction's hash, its signature and the text that is submitted. -/
structure Sealed where
  hash : Bytes 32
  signature : Sig
  text : String
deriving DecidableEq

section

variable (crates : Crates)

def requireSigner (rail : StellarRail σ) (operation : String) : Except Error Keypair :=
  okOr rail.signer (.rail ("stellar rail holds no signing key; it is verify-only " ++
    "(configure one with `with_signer`/`from_env` to " ++ operation ++ ")"))

def configuredIssuer (cfg : StellarConfig) : Except Error PubKey :=
  (fromStrkey crates cfg.usdcIssuer).mapError fun e =>
    .rail ("configured usdc_issuer is invalid: " ++ e.toString)

def prepare (rail : StellarRail σ) (req : PayRequest) : Except Error Prepared := do
  req.validate
  insist (req.currency = "USDC")
    (.invalidRequest ("stellar rail only supports USDC, got " ++ req.currency))
  let signer ← requireSigner rail "charge"
  let dest ← (fromStrkey crates req.destination.text).mapError fun e =>
    .invalidRequest ("destination is not a valid stellar address: " ++ e.toString)
  let issuer ← configuredIssuer crates rail.cfg
  let asset ← (usdcAsset "USDC" issuer).mapError StellarError.toError
  let amount ← okOr (tryInt64 req.amountMinor)
    (.invalidRequest "amount_minor exceeds Stellar's i64 range")
  return ⟨signer, dest, issuer, asset, amount⟩

/-- The legs in order, each refused under its own index. -/
def prepareLegs (asset : Asset) (index : Nat) :
    List SplitLeg → Except Error (List PaymentLeg × List (Str × Int64))
  | [] => .ok ([], [])
  | leg :: rest => do
    let dest ← (fromStrkey crates leg.destination.text).mapError fun e =>
      .invalidRequest (s!"leg {index}: destination is not a valid stellar address: " ++ e.toString)
    let amount ← okOr (tryInt64 leg.amountMinor)
      (.invalidRequest s!"leg {index}: amount_minor exceeds Stellar's i64 range")
    let others ← prepareLegs asset (index + 1) rest
    return (⟨dest, asset, amount⟩ :: others.1, (leg.destination, amount) :: others.2)

def prepareSplit (rail : StellarRail σ) (legs : List SplitLeg) (reference : Str) :
    Except Error SplitPrepared := do
  insist (trim reference.text ≠ "") (.invalidRequest "reference must not be empty")
  let signer ← requireSigner rail "charge_split"
  let issuer ← configuredIssuer crates rail.cfg
  let asset ← (usdcAsset "USDC" issuer).mapError StellarError.toError
  let prepared ← prepareLegs crates asset 0 legs
  return ⟨signer, issuer, prepared.1, prepared.2⟩

/-- The sequence number after the one Horizon reports for `source`. -/
def nextSequence (rail : StellarRail σ) (source : PubKey) (world : σ) : Except Error Int64 × σ :=
  match rail.rpc.loadSequence (crates.strkeyEncode source).text world with
  | (.error error, next) => (.error error.toError, next)
  | (.ok seq, next) =>
    (okOr (checkedAdd seq 1) (.rail "account sequence number overflow"), next)

/-- Hash, sign and encode a transaction. -/
def signAndEncode (cfg : StellarConfig) (signer : Keypair) (unsigned : Transaction) :
    Except StellarError Sealed := do
  let hash ← txHash crates (networkId crates cfg.network.passphrase) unsigned
  let signature := signer.sign hash.toList
  let text ← envelopeToXdrBase64 crates (envelope unsigned signer.pubkey signature)
  return ⟨hash, signature, text⟩

/-- Submit, and insist on success under the hash that was signed. -/
def submit (rail : StellarRail σ) (failure : String) (sealed : Sealed) (world : σ) :
    Except Error String × σ :=
  match rail.rpc.submitTransaction sealed.text world with
  | (.error error, next) => (.error error.toError, next)
  | (.ok submitted, next) =>
    let answer := do
      insist (submitted.successful = true) (.rail failure)
      insist (submitted.hash = crates.hexEncode sealed.hash.toList) (.rail
        "horizon-reported transaction hash does not match the locally computed hash")
      return submitted.hash
    (answer, next)

def encodeProof (bytes : Except String (List UInt8)) : Except Error (List UInt8) :=
  bytes.mapError fun e => .rail ("encode receipt proof: " ++ e)

/-- The payment's transaction before it is signed. -/
def unsignedPayment (cfg : StellarConfig) (req : PayRequest) (prepared : Prepared)
    (seqNum : Int64) : Transaction :=
  let source := prepared.signer.pubkey
  buildTransaction source prepared.dest prepared.asset prepared.amount seqNum cfg.baseFeeStroops
    (memoHash crates railId (crates.strkeyEncode source) req.destination req.reference)

def paymentBinding (cfg : StellarConfig) (req : PayRequest) (prepared : Prepared) (seqNum : Int64)
    (sealed : Sealed) (hash : String) : StellarBinding where
  chain := "stellar"
  networkPassphrase := cfg.network.passphrase
  txHash := hash
  source := crates.strkeyEncode prepared.signer.pubkey
  destination := req.destination
  assetCode := "USDC"
  assetIssuer := (crates.strkeyEncode prepared.issuer).text
  amountStroops := prepared.amount
  seqNum := seqNum
  fee := cfg.baseFeeStroops
  memoHash := crates.hexEncode (memoHash crates railId (crates.strkeyEncode prepared.signer.pubkey)
    req.destination req.reference).toList
  signature := crates.hexEncode sealed.signature.toList

def issue (cfg : StellarConfig) (req : PayRequest) (prepared : Prepared) (seqNum : Int64)
    (sealed : Sealed) (hash : String) (now : UInt64) : Except Error Receipt := do
  let proof ← encodeProof
    (crates.toVec (paymentBinding crates cfg req prepared seqNum sealed hash))
  return ⟨railId.text, req.amountMinor, req.currency, req.reference, proof, now⟩

/-- The split's total fee bid and its transaction before it is signed. -/
def unsignedSplit (cfg : StellarConfig) (reference : Str) (prepared : SplitPrepared)
    (seqNum : Int64) : Except StellarError (UInt32 × Transaction) := do
  let source := prepared.signer.pubkey
  let memo := splitMemoHash crates railId (crates.strkeyEncode source) reference prepared.pairs
  let fee ← totalFee cfg.baseFeeStroops prepared.legs.length
  let unsigned ← buildPaymentTransaction source prepared.legs seqNum cfg.baseFeeStroops memo
  return (fee, unsigned)

def splitBinding (cfg : StellarConfig) (reference : Str) (prepared : SplitPrepared)
    (seqNum : Int64) (fee : UInt32) (sealed : Sealed) (hash : String) : StellarSplitBinding where
  chain := "stellar"
  networkPassphrase := cfg.network.passphrase
  txHash := hash
  source := crates.strkeyEncode prepared.signer.pubkey
  assetCode := "USDC"
  assetIssuer := (crates.strkeyEncode prepared.issuer).text
  legs := prepared.pairs
  seqNum := seqNum
  fee := fee
  memoHash := crates.hexEncode (splitMemoHash crates railId
    (crates.strkeyEncode prepared.signer.pubkey) reference prepared.pairs).toList
  signature := crates.hexEncode sealed.signature.toList

def issueSplit (cfg : StellarConfig) (reference : Str) (prepared : SplitPrepared)
    (seqNum : Int64) (fee : UInt32) (sealed : Sealed) (hash : String) (now : UInt64) :
    Except Error Receipt := do
  let total ← (totalAmount prepared.legs).mapError StellarError.toError
  let proof ← encodeProof
    (crates.splitToVec (splitBinding crates cfg reference prepared seqNum fee sealed hash))
  return ⟨railId.text, total.toUInt64, "USDC", reference, proof, now⟩

namespace StellarRail

def charge (rail : StellarRail σ) (req : PayRequest) (now : UInt64) (world : σ) :
    Except Error Receipt × σ :=
  match prepare crates rail req with
  | .error error => (.error error, world)
  | .ok prepared =>
    match nextSequence crates rail prepared.signer.pubkey world with
    | (.error error, next) => (.error error, next)
    | (.ok seqNum, next) =>
      match signAndEncode crates rail.cfg prepared.signer
          (unsignedPayment crates rail.cfg req prepared seqNum) with
      | .error error => (.error error.toError, next)
      | .ok sealed =>
        match submit crates rail "stellar transaction failed on submission" sealed next with
        | (.error error, last) => (.error error, last)
        | (.ok hash, last) => (issue crates rail.cfg req prepared seqNum sealed hash now, last)

def chargeSplit (rail : StellarRail σ) (legs : List SplitLeg) (reference : Str) (now : UInt64)
    (world : σ) : Except Error Receipt × σ :=
  match prepareSplit crates rail legs reference with
  | .error error => (.error error, world)
  | .ok prepared =>
    match nextSequence crates rail prepared.signer.pubkey world with
    | (.error error, next) => (.error error, next)
    | (.ok seqNum, next) =>
      match unsignedSplit crates rail.cfg reference prepared seqNum with
      | .error error => (.error error.toError, next)
      | .ok (fee, unsigned) =>
        match signAndEncode crates rail.cfg prepared.signer unsigned with
        | .error error => (.error error.toError, next)
        | .ok sealed =>
          match submit crates rail "stellar split transaction failed on submission" sealed next with
          | (.error error, last) => (.error error, last)
          | (.ok hash, last) =>
            (issueSplit crates rail.cfg reference prepared seqNum fee sealed hash now, last)

end StellarRail

end

end Patala.Stellar
