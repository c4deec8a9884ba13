import Patala.Core.Rail
import Patala.Json.Value
import Patala.Lib.Machine

/-! The Solana rail's configuration, its RPC seam, and the binding that ties an
on-chain transaction to one payer and one reference. -/

namespace Patala.Solana

open Machine Json

abbrev PubKey := Bytes 32

inductive SolanaError where
  | rpc (message : String)
  | badAddress (address : String)
  | derivation
  | config (message : String)
deriving DecidableEq

def SolanaError.toString : SolanaError → String
  | rpc message => "solana rpc: " ++ message
  | badAddress address => "not a valid solana address: " ++ address
  | derivation => "could not derive associated token address"
  | config message => "solana rail misconfigured: " ++ message

def SolanaError.toError (error : SolanaError) : Error := .rail error.toString

/-- Confirmation level required before a receipt may be honoured. -/
inductive Commitment where
  | confirmed
  | finalized
deriving DecidableEq

def Commitment.asStr : Commitment → String
  | confirmed => "confirmed"
  | finalized => "finalized"

structure SolanaConfig where
  commitment : Commitment
  usdcMint : PubKey

/-- The data carried in a receipt's proof. -/
structure SolanaBinding where
  chain : String
  txSignature : String
  mint : String
  payer : String
  destination : String
  reference : String
deriving DecidableEq

/-- The code this rail calls and does not contain: the hash, the text encodings,
and the JSON form of the binding. -/
structure Crates where
  blake3 : List UInt8 → Bytes 32
  hexEncode : List UInt8 → String
  bs58Encode : List UInt8 → String
  bs58Decode : String → Option (List UInt8)
  toVec : SolanaBinding → List UInt8
  fromSlice : List UInt8 → Option SolanaBinding

/-- The network seam over a world `σ`. -/
structure SolanaRpc (σ : Type) where
  getTransaction : String → String → σ → Except SolanaError (Option Value) × σ
  getLatestBlockhash : String → σ → Except SolanaError String × σ
  sendTransaction : String → σ → Except SolanaError String × σ

structure SolanaRail (σ : Type) where
  cfg : SolanaConfig
  rpc : SolanaRpc σ

section

variable (crates : Crates)

def pubkeyFromBase58 (text : String) : Except SolanaError PubKey :=
  match (crates.bs58Decode text).bind (toArray? 32) with
  | some key => .ok key
  | none => .error (.badAddress text)

def pubkeyToBase58 (key : PubKey) : String := crates.bs58Encode key.toList

def SolanaConfig.mintBase58 (cfg : SolanaConfig) : String := pubkeyToBase58 crates cfg.usdcMint

/-- The bytes hashed into a binding: domain, payer, length-prefixed reference. -/
def bindingPreimage (payer : PubKey) (reference : Str) : List UInt8 :=
  asBytes "patala-solana-pay-v1" ++ payer.toList ++ reference.framed

def bindingReference (payer : PubKey) (reference : Str) : Bytes 32 :=
  crates.blake3 (bindingPreimage payer reference)

/-- The exact memo a bound transaction must carry. -/
def bindingMemo (payer : PubKey) (reference : Str) : String :=
  "patala:v1:" ++ crates.hexEncode (bindingReference crates payer reference).toList

/-- A decoded key is the one its own base58 text names. -/
theorem pubkeyFromBase58_ok_iff {text : String} {key : PubKey} :
    pubkeyFromBase58 crates text = .ok key ↔ crates.bs58Decode text = some key.toList := by
  unfold pubkeyFromBase58
  cases decoded : crates.bs58Decode text with
  | none => simp
  | some bytes =>
    cases array : toArray? 32 bytes with
    | none =>
      have differs : bytes ≠ key.toList := by
        intro same
        rw [toArray?_eq_some.mpr same] at array
        cases array
      simp [array, differs]
    | some found =>
      have same := toArray?_eq_some.mp array
      subst bytes
      simp only [Option.bind_some, array, Except.ok.injEq, Option.some.injEq]
      exact ⟨congrArg _, fun equal => Subtype.ext equal⟩

/-- The preimage of a binding determines payer and reference. -/
theorem bindingPreimage_injective : Function.Injective fun pair : PubKey × Str =>
    bindingPreimage pair.1 pair.2 := by
  intro a b same
  have fields : a.1.toList ++ a.2.framed = b.1.toList ++ b.2.framed := by
    simpa [bindingPreimage] using same
  obtain ⟨payer, reference⟩ := List.append_inj fields (by simp)
  exact Prod.ext (Subtype.ext payer) (Str.framed_prefixFree.injective reference)

/-- Two memos of one payer agree only for references with the same binding. -/
theorem bindingReference_of_memo (hexInjective : Function.Injective crates.hexEncode)
    {payer : PubKey} {first second : Str}
    (same : bindingMemo crates payer first = bindingMemo crates payer second) :
    bindingReference crates payer first = bindingReference crates payer second := by
  have hexSame : crates.hexEncode (bindingReference crates payer first).toList =
      crates.hexEncode (bindingReference crates payer second).toList :=
    String.append_right_inj _ |>.mp same
  exact Subtype.ext (hexInjective hexSame)

end

end Patala.Solana
