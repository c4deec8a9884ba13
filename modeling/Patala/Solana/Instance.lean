import Patala.Lib.Codec
import Patala.Solana.Verify

/-! An instance of the called code that can be run: hexadecimal everywhere, and
BLAKE3, base58 and JSON on named inputs, extended so that what is written is read
back for every key and every binding. -/

namespace Patala.Solana

open Machine Json

namespace Instance

/-- The wallet of thirty-two bytes 7. -/
def wallet : PubKey := ⟨List.replicate 32 7, rfl⟩

def walletBase58 : String := "US517G5965aydkZ46HS38QLi7UQiSojurfbQfKCELFx"

/-- The wallet of thirty-two bytes 9. -/
def shopBase58 : String := "cGfHiC6Kgg3FpFZvgwGcswsCRtp4aBP2fzuXRQPizuN"

/-- USDC on devnet. -/
def mint : PubKey :=
  ⟨[59, 68, 44, 179, 145, 33, 87, 241, 58, 147, 61, 1, 52, 40, 45, 3,
    43, 95, 254, 205, 1, 162, 219, 241, 183, 121, 6, 8, 223, 0, 46, 167], rfl⟩

def mintBase58 : String := "4zMMC9srt5Ri5X14GAgXhaHii3GnPAEERYPJgZJDncDU"

def order42 : Str := ⟨"order-42", by decide⟩

def order43 : Str := ⟨"order-43", by decide⟩

def digest42 : Bytes 32 :=
  ⟨[48, 218, 93, 157, 42, 106, 228, 249, 215, 157, 97, 2, 66, 16, 219, 68,
    142, 116, 148, 182, 59, 34, 114, 195, 78, 56, 185, 137, 204, 121, 103, 120], rfl⟩

def digest43 : Bytes 32 :=
  ⟨[154, 107, 48, 197, 40, 35, 238, 101, 171, 224, 88, 143, 58, 188, 205, 230,
    84, 180, 4, 133, 50, 201, 133, 183, 251, 86, 29, 55, 109, 255, 240, 59], rfl⟩

def blake3 (bytes : List UInt8) : Bytes 32 :=
  if bytes = bindingPreimage wallet order42 then digest42
  else if bytes = bindingPreimage wallet order43 then digest43
  else List.Vector.replicate 32 0

def keyTable : List (List UInt8 × String) :=
  [(wallet.toList, walletBase58), (mint.toList, mintBase58)]

def txSignature : String :=
  "5VERv8NMvzbJMEkV8xnrLkEaWRtSz9CosKDYjCJjBRnbJLgp8uirBgmQpjKhoR4tjF3ZpRzrFmBV6UjKdiSZkQUW"

/-- A binding of the wallet's payment to the shop. -/
def bindingOf (digest : Bytes 32) : SolanaBinding where
  chain := "solana"
  txSignature := txSignature
  mint := mintBase58
  payer := walletBase58
  destination := shopBase58
  reference := Codec.hexEncode digest.toList

/-- The JSON of a binding whose fields need no escapes. -/
def bindingJson (binding : SolanaBinding) : List UInt8 :=
  asBytes "\x7b\"chain\":\"" ++ (asBytes binding.chain ++
    (asBytes "\",\"tx_signature\":\"" ++ (asBytes binding.txSignature ++
    (asBytes "\",\"mint\":\"" ++ (asBytes binding.mint ++
    (asBytes "\",\"payer\":\"" ++ (asBytes binding.payer ++
    (asBytes "\",\"destination\":\"" ++ (asBytes binding.destination ++
    (asBytes "\",\"reference\":\"" ++ (asBytes binding.reference ++
      asBytes "\"\x7d")))))))))))

def bindingTable : List (SolanaBinding × List UInt8) :=
  [bindingOf digest42, bindingOf digest43].map fun binding =>
    (binding, bindingJson binding)

instance encodableSolanaBinding : Encodable SolanaBinding :=
  Encodable.ofLeftInverse
    (fun binding => (binding.chain, binding.txSignature, binding.mint, binding.payer,
      binding.destination, binding.reference))
    (fun (chain, txSignature, mint, payer, destination, reference) =>
      ⟨chain, txSignature, mint, payer, destination, reference⟩)
    fun _ => rfl

/-- `!` is no base58 digit and no JSON text starts with a zero byte, so they mark
the codes outside the tables. -/
def crates : Crates where
  blake3 := blake3
  hexEncode := Codec.hexEncode
  bs58Encode := Codec.encode Codec.bangMarking keyTable
  bs58Decode := Codec.decode Codec.bangMarking keyTable
  toVec := Codec.encode Codec.zeroMarking bindingTable
  fromSlice := Codec.decode Codec.zeroMarking bindingTable

theorem hexEncode_injective : Function.Injective crates.hexEncode := by
  intro a b same
  have read := congrArg Codec.hexDecode same
  simpa [crates, Codec.hexDecode_hexEncode] using read

theorem keyTable_valid : Codec.WellFormed Codec.bangMarking keyTable where
  distinct := by decide
  unmarked := by decide

theorem bindingTable_valid : Codec.WellFormed Codec.zeroMarking bindingTable where
  distinct := by decide +kernel
  unmarked := by decide

theorem bs58Decode_bs58Encode (bytes : List UInt8) :
    crates.bs58Decode (crates.bs58Encode bytes) = some bytes :=
  Codec.decode_encode keyTable_valid bytes

theorem fromSlice_toVec (binding : SolanaBinding) :
    crates.fromSlice (crates.toVec binding) = some binding :=
  Codec.decode_encode bindingTable_valid binding

def receiptOf (reference : Str) (digest : Bytes 32) (amount : UInt64) : Receipt where
  railId := "solana"
  amountMinor := amount
  currency := "USDC"
  reference := reference
  proof := crates.toVec (bindingOf digest)
  settledAtUnix := 1700000000

def tokenBalance (owner amount : String) : Value :=
  .object [("owner", .string owner), ("mint", .string mintBase58),
    ("uiTokenAmount", .object [("amount", .string amount)])]

def memoInstruction (text : String) : Value :=
  .object [("program", .string "spl-memo"), ("parsed", .string text)]

/-- The wallet pays the shop five dollars with the given memos; `others` are the
balances of further owners afterwards. -/
def payment (texts : List String) (others : List Value) : Value :=
  .object [
    ("meta", .object [
      ("err", .null),
      ("preTokenBalances", .array [tokenBalance walletBase58 "5000000"]),
      ("postTokenBalances", .array (tokenBalance shopBase58 "5000000" :: others))]),
    ("transaction", .object [("message", .object [
      ("accountKeys", .array
        [.object [("pubkey", .string walletBase58), ("signer", .bool true)]]),
      ("instructions", .array (texts.map memoInstruction))])])]

/-- A rail whose node answers every question with one transaction. -/
def rail (txn : Value) : SolanaRail Unit where
  cfg := ⟨.confirmed, mint⟩
  rpc := {
    getTransaction := fun _ _ world => (.ok (some txn), world)
    getLatestBlockhash := fun _ world => (.error (.rpc "getLatestBlockhash: no blockhash"), world)
    sendTransaction := fun _ world => (.error (.rpc "sendTransaction: no signature"), world) }

end Instance

end Patala.Solana
