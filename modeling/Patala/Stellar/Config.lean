import Patala.Core.Rail
import Patala.Stellar.Xdr

/-! The Stellar rail's configuration, keys, Horizon seam and receipt bindings, and
the code it calls and does not contain. -/

namespace Patala.Stellar

open Machine

inductive StellarError where
  | rpc (message : String)
  | badAddress (address : String)
  | config (message : String)
  | xdr (message : String)
deriving DecidableEq

def StellarError.toString : StellarError → String
  | rpc message => "stellar horizon: " ++ message
  | badAddress address => "not a valid stellar address: " ++ address
  | config message => "stellar rail misconfigured: " ++ message
  | xdr message => "stellar xdr: " ++ message

def StellarError.toError (error : StellarError) : Error := .rail error.toString

inductive Network where
  | publicNet
  | testnet
deriving DecidableEq

def Network.passphrase : Network → String
  | publicNet => "Public Global Stellar Network ; September 2015"
  | testnet => "Test SDF Network ; September 2015"

structure StellarConfig where
  network : Network
  usdcIssuer : String
  baseFeeStroops : UInt32

abbrev PubKey := Bytes 32

abbrev Sig := Bytes 64

/-- A signing key: its public key and its deterministic signatures. -/
structure Keypair where
  pubkey : PubKey
  sign : List UInt8 → Sig

/-- The data carried in a single payment's proof. -/
structure StellarBinding where
  chain : String
  networkPassphrase : String
  txHash : String
  source : Str
  destination : Str
  assetCode : String
  assetIssuer : String
  amountStroops : Int64
  seqNum : Int64
  fee : UInt32
  memoHash : String
  signature : String
deriving DecidableEq

/-- The data carried in a split's proof; `legs` are destinations and amounts in
transaction order, `fee` is the total bid. -/
structure StellarSplitBinding where
  chain : String
  networkPassphrase : String
  txHash : String
  source : Str
  assetCode : String
  assetIssuer : String
  legs : List (Str × Int64)
  seqNum : Int64
  fee : UInt32
  memoHash : String
  signature : String
deriving DecidableEq

/-- The hash, the text encodings, signature checking, XDR and the JSON forms of the
bindings. Failing encoders report a text. -/
structure Crates where
  sha256 : List UInt8 → Bytes 32
  hexEncode : List UInt8 → String
  hexDecode : String → Option (List UInt8)
  strkeyEncode : Bytes 32 → Str
  strkeyDecode : String → Option (Bytes 32)
  ed25519Verify : PubKey → List UInt8 → Sig → Bool
  payloadToXdr : Bytes 32 → Transaction → Except String (List UInt8)
  envelopeToXdrBase64 : TransactionEnvelope → Except String String
  envelopeFromXdrBase64 : String → Except String TransactionEnvelope
  toVec : StellarBinding → Except String (List UInt8)
  fromSlice : List UInt8 → Option StellarBinding
  splitToVec : StellarSplitBinding → Except String (List UInt8)
  splitFromSlice : List UInt8 → Option StellarSplitBinding

/-- What Horizon reports about a submission. -/
structure SubmitResult where
  hash : String
  successful : Bool
deriving DecidableEq

/-- What Horizon reports about a transaction it knows. -/
structure TxRecord where
  successful : Bool
  envelopeXdr : String
deriving DecidableEq

/-- The network seam over a world `σ`. -/
structure StellarRpc (σ : Type) where
  loadSequence : String → σ → Except StellarError Int64 × σ
  submitTransaction : String → σ → Except StellarError SubmitResult × σ
  getTransaction : String → σ → Except StellarError (Option TxRecord) × σ

structure StellarRail (σ : Type) where
  cfg : StellarConfig
  rpc : StellarRpc σ
  signer : Option Keypair

/-- The rail's id, `"stellar"`. -/
def railId : Str := ⟨"stellar", by decide⟩

/-- `PubKey::from_strkey`. -/
def fromStrkey (crates : Crates) (text : String) : Except StellarError PubKey :=
  match crates.strkeyDecode text with
  | some key => .ok key
  | none => .error (.badAddress text)

theorem fromStrkey_ok_iff {crates : Crates} {text : String} {key : PubKey} :
    fromStrkey crates text = .ok key ↔ crates.strkeyDecode text = some key := by
  unfold fromStrkey
  cases crates.strkeyDecode text <;> simp

end Patala.Stellar
