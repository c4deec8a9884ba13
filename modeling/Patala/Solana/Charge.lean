import Patala.Lib.Fallible
import Patala.Solana.Message

/-! `SolanaRail::charge`: check the request, build and sign one transaction with the
binding memo and the transfer, submit it, and issue the receipt. The clock is an
input, and so is the key the rail may hold. -/

namespace Patala.Solana

open Machine

/-- A signing key; the public key is the wallet's address. -/
structure Keypair where
  pubkey : PubKey
  sign : List UInt8 → Bytes 64

/-- The two instructions of a payment and the accounts the money moves between. -/
structure Payment where
  source : PubKey
  destAta : PubKey
  instructions : List Instruction

section

variable (crates : Crates) (derivation : Derivation)

def prepare (signer : Option Keypair) (req : PayRequest) : Except Error (Keypair × PubKey) := do
  req.validate
  insist (req.currency = "USDC")
    (.invalidRequest ("solana rail only supports USDC, got " ++ req.currency))
  let signer ← okOr signer (.rail ("solana rail holds no signing key; it is verify-only " ++
    "(configure one with `with_signer`/`from_env` to charge)"))
  let dest ← (pubkeyFromBase58 crates req.destination.text).mapError fun e =>
    .invalidRequest ("destination is not a valid solana address: " ++ e.toString)
  return (signer, dest)

def latestBlockhash (rail : SolanaRail σ) (world : σ) : Except Error (Bytes 32) × σ :=
  match rail.rpc.getLatestBlockhash rail.cfg.commitment.asStr world with
  | (.error error, next) => (.error error.toError, next)
  | (.ok blockhash, next) =>
    (okOr ((crates.bs58Decode blockhash).bind (toArray? 32)) (.rail "blockhash is not 32 bytes"), next)

def buildPayment (cfg : SolanaConfig) (payer dest : PubKey) (req : PayRequest) :
    Except SolanaError Payment := do
  let source ← associatedTokenAddress crates derivation payer cfg.usdcMint
  let destAta ← associatedTokenAddress crates derivation dest cfg.usdcMint
  let note ← memo crates payer (bindingMemo crates payer req.reference)
  let transfer ← transferChecked crates source cfg.usdcMint destAta payer req.amountMinor usdcDecimals
  return ⟨source, destAta, [note, transfer]⟩

def signAndEncode (signer : Keypair) (payment : Payment) (blockhash : Bytes 32) : String :=
  let message := serializeMessage signer.pubkey payment.instructions blockhash
  b64 (wireTransaction (signer.sign message) message)

def paymentBinding (cfg : SolanaConfig) (payer : PubKey) (req : PayRequest) (signature : String) :
    SolanaBinding where
  chain := "solana"
  txSignature := signature
  mint := cfg.mintBase58 crates
  payer := pubkeyToBase58 crates payer
  destination := req.destination.text
  reference := crates.hexEncode (bindingReference crates payer req.reference).toList

def issue (cfg : SolanaConfig) (payer : PubKey) (req : PayRequest) (signature : String)
    (now : UInt64) : Receipt :=
  ⟨"solana", req.amountMinor, req.currency, req.reference,
    crates.toVec (paymentBinding crates cfg payer req signature), now⟩

/-- The signer is the rail's key, absent on a verify-only rail. -/
def SolanaRail.charge (rail : SolanaRail σ) (signer : Option Keypair) (req : PayRequest)
    (now : UInt64) (world : σ) : Except Error Receipt × σ :=
  match prepare crates signer req with
  | .error error => (.error error, world)
  | .ok (signer, dest) =>
    match latestBlockhash crates rail world with
    | (.error error, next) => (.error error, next)
    | (.ok blockhash, next) =>
      match buildPayment crates derivation rail.cfg signer.pubkey dest req with
      | .error error => (.error error.toError, next)
      | .ok payment =>
        match rail.rpc.sendTransaction (signAndEncode signer payment blockhash) next with
        | (.error error, last) => (.error error.toError, last)
        | (.ok signature, last) => (.ok (issue crates rail.cfg signer.pubkey req signature now), last)

end

end Patala.Solana
