import Patala.Stellar.TxFacts

/-! `StellarRail::verify` and `verify_split`: a receipt's binding is checked and its
transaction rebuilt, hashed and signature-checked without the network, then what
Horizon returns for that hash is compared with it. -/

namespace Patala.Stellar

open Machine

section

variable (crates : Crates)

/-- Hex text of exactly `n` bytes. -/
def hexArray (n : Nat) (text : String) : Option (Bytes n) :=
  (crates.hexDecode text).bind (toArray? n)

/-- Right chain, right network, right asset; answers the configured issuer. -/
def checkAsset (cfg : StellarConfig) (chain passphrase assetCode assetIssuer : String) :
    Option PubKey := do
  require (chain = "stellar")
  require (passphrase = cfg.network.passphrase)
  let issuer ← crates.strkeyDecode cfg.usdcIssuer
  require (assetCode = "USDC")
  require (assetIssuer = (crates.strkeyEncode issuer).text)
  return issuer

/-- The rebuilt transaction hashes to the claimed hash and is signed by its source. -/
def checkSigned (passphrase claimed signature : String) (source : PubKey) (rebuilt : Transaction) :
    Option Unit := do
  let sig ← hexArray crates 64 signature
  let hash ← (txHash crates (networkId crates passphrase) rebuilt).toOption
  let claimedBytes ← crates.hexDecode claimed
  require (claimedBytes = hash.toList)
  require (crates.ed25519Verify source hash.toList sig = true)

structure Checked where
  binding : StellarBinding
  issuer : PubKey
  sourcePk : PubKey
  destPk : PubKey
  memo : Bytes 32

def checkBinding (cfg : StellarConfig) (receipt : Receipt) : Option Checked := do
  require (receipt.railId = railId.text)
  require (receipt.currency = "USDC")
  let binding ← crates.fromSlice receipt.proof
  let issuer ← checkAsset crates cfg binding.chain binding.networkPassphrase binding.assetCode
    binding.assetIssuer
  require (binding.amountStroops = receipt.amountMinor.toInt64)
  require (binding.memoHash = crates.hexEncode
    (memoHash crates railId binding.source binding.destination receipt.reference).toList)
  let sourcePk ← crates.strkeyDecode binding.source.text
  let destPk ← crates.strkeyDecode binding.destination.text
  let memo ← hexArray crates 32 binding.memoHash
  let asset ← (usdcAsset binding.assetCode issuer).toOption
  checkSigned crates binding.networkPassphrase binding.txHash binding.signature sourcePk
    (buildTransaction sourcePk destPk asset binding.amountStroops binding.seqNum binding.fee memo)
  return ⟨binding, issuer, sourcePk, destPk, memo⟩

/-- Horizon's envelope decodes to exactly the checked payment. -/
def checkEnvelope (checked : Checked) (record : TxRecord) : Bool :=
  record.successful &&
    match envelopeFromXdrBase64 crates record.envelopeXdr with
    | .error _ => false
    | .ok env =>
      match decodeSinglePayment env with
      | .error _ => false
      | .ok decoded =>
        decoded.sourcePk = checked.sourcePk && decoded.destPk = checked.destPk &&
          decoded.amount = checked.binding.amountStroops && decoded.memo = checked.memo &&
          decoded.seqNum = checked.binding.seqNum && decoded.fee = checked.binding.fee &&
          assetIs decoded.asset "USDC" checked.issuer

structure SplitChecked where
  binding : StellarSplitBinding
  issuer : PubKey
  sourcePk : PubKey
  memo : Bytes 32

/-- The checked sum of a binding's leg amounts. -/
def sumLegs (total : Int64) : List (Str × Int64) → Option Int64
  | [] => some total
  | (_, amount) :: rest => do
    let sum ← checkedAdd total amount
    sumLegs sum rest

/-- A binding's legs as payment legs of one asset. -/
def readLegs (asset : Asset) : List (Str × Int64) → Option (List PaymentLeg)
  | [] => some []
  | (destination, amount) :: rest => do
    let destPk ← crates.strkeyDecode destination.text
    let legs ← readLegs asset rest
    return ⟨destPk, asset, amount⟩ :: legs

def checkSplitBinding (cfg : StellarConfig) (receipt : Receipt) : Option SplitChecked := do
  require (receipt.railId = railId.text)
  require (receipt.currency = "USDC")
  let binding ← crates.splitFromSlice receipt.proof
  let issuer ← checkAsset crates cfg binding.chain binding.networkPassphrase binding.assetCode
    binding.assetIssuer
  require (binding.legs ≠ [])
  let total ← sumLegs 0 binding.legs
  require (total = receipt.amountMinor.toInt64)
  require (binding.memoHash = crates.hexEncode
    (splitMemoHash crates railId binding.source receipt.reference binding.legs).toList)
  let sourcePk ← crates.strkeyDecode binding.source.text
  let asset ← (usdcAsset binding.assetCode issuer).toOption
  let legs ← readLegs crates asset binding.legs
  let memo ← hexArray crates 32 binding.memoHash
  -- The floor of this division is the per-operation fee the builder multiplies again.
  let count ← tryUInt32 legs.length
  require (0 < count)
  let rebuilt ← (buildPaymentTransaction sourcePk legs binding.seqNum (binding.fee / count)
    memo).toOption
  checkSigned crates binding.networkPassphrase binding.txHash binding.signature sourcePk rebuilt
  return ⟨binding, issuer, sourcePk, memo⟩

/-- The decoded legs are the binding's, in order. -/
def matchLegs (issuer : PubKey) : List (Str × Int64) → List DecodedLeg → Bool
  | [], [] => true
  | (destination, amount) :: rest, leg :: legs =>
    crates.strkeyDecode destination.text = some leg.destPk && leg.amount = amount &&
      assetIs leg.asset "USDC" issuer && matchLegs issuer rest legs
  | _, _ => false

/-- Horizon's envelope decodes to exactly the checked legs, in order. -/
def checkSplitEnvelope (checked : SplitChecked) (record : TxRecord) : Bool :=
  record.successful &&
    match envelopeFromXdrBase64 crates record.envelopeXdr with
    | .error _ => false
    | .ok env =>
      match decodePayments env with
      | .error _ => false
      | .ok decoded =>
        decoded.legs.length = checked.binding.legs.length && decoded.sourcePk = checked.sourcePk &&
          decoded.memo = checked.memo && decoded.seqNum = checked.binding.seqNum &&
          decoded.fee = checked.binding.fee &&
          matchLegs crates checked.issuer checked.binding.legs decoded.legs

/-- Ask Horizon for a hash and check its answer; a failure to ask is passed on. -/
def readBack (rpc : StellarRpc σ) (hash : String) (check : TxRecord → Bool) (world : σ) :
    Except Error Bool × σ :=
  match rpc.getTransaction hash world with
  | (.error error, next) => (.error error.toError, next)
  | (.ok none, next) => (.ok false, next)
  | (.ok (some record), next) => (.ok (check record), next)

namespace StellarRail

def verify (rail : StellarRail σ) (receipt : Receipt) (world : σ) : Except Error Bool × σ :=
  match checkBinding crates rail.cfg receipt with
  | none => (.ok false, world)
  | some checked => readBack rail.rpc checked.binding.txHash (checkEnvelope crates checked) world

def verifySplit (rail : StellarRail σ) (receipt : Receipt) (world : σ) : Except Error Bool × σ :=
  match checkSplitBinding crates rail.cfg receipt with
  | none => (.ok false, world)
  | some checked =>
    readBack rail.rpc checked.binding.txHash (checkSplitEnvelope crates checked) world

end StellarRail

end

end Patala.Stellar
