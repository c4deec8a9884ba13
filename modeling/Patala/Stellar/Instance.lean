import Mathlib.Tactic.DeriveEncodable
import Patala.Lib.Codec
import Patala.Stellar.Verify

/-! An instance of the called code that can be run: the XDR of a signature payload in
full, and SHA-256, Ed25519, StrKey, base64 and JSON on named inputs, extended so
that what is written is read back for every key, envelope and binding. -/

namespace Patala.Stellar

open Machine Framing

section Encodings

instance encodableInt64 : Encodable Int64 := Encodable.ofLeftInverse Int64.toInt Int64.ofInt Int64.ofInt_toInt

instance encodableUInt32 : Encodable UInt32 :=
  Encodable.ofLeftInverse UInt32.toNat UInt32.ofNat fun _ => UInt32.ofNat_toNat

instance encodableUInt64 : Encodable UInt64 :=
  Encodable.ofLeftInverse UInt64.toNat UInt64.ofNat fun _ => UInt64.ofNat_toNat

instance encodableBytes : Encodable (Bytes n) :=
  Encodable.ofLeftInjection List.Vector.toList (toArray? n) toArray?_toList

instance encodableStr : Encodable Str :=
  Encodable.ofLeftInjection Str.text
    (fun text => if fits : (asBytes text).length ≤ isizeMax then some ⟨text, fits⟩ else none)
    fun value => by simp [value.fits]

deriving instance Encodable for MuxedAccount
deriving instance Encodable for AlphaNum4
deriving instance Encodable for AlphaNum12
deriving instance Encodable for Asset
deriving instance Encodable for Memo
deriving instance Encodable for TimeBounds
deriving instance Encodable for LedgerBounds
deriving instance Encodable for SignerKey
deriving instance Encodable for PreconditionsV2
deriving instance Encodable for Preconditions
deriving instance Encodable for PaymentOp
deriving instance Encodable for OperationBody
deriving instance Encodable for Operation
deriving instance Encodable for Transaction
deriving instance Encodable for DecoratedSignature
deriving instance Encodable for TransactionV1Envelope
deriving instance Encodable for TransactionEnvelope
deriving instance Encodable for StellarBinding
deriving instance Encodable for StellarSplitBinding

end Encodings

namespace Instance

section Xdr

/-- `width` big-endian bytes. -/
def be (width value : Nat) : List UInt8 := (leBytes width value).reverse

def i64Xdr (value : Int64) : List UInt8 := be 8 value.toUInt64.toNat

def optionXdr (item : α → List UInt8) : Option α → List UInt8
  | none => be 4 0
  | some value => be 4 1 ++ item value

def listXdr (item : α → List UInt8) (items : List α) : List UInt8 :=
  be 4 items.length ++ items.flatMap item

/-- A byte string behind its length, padded to a multiple of four. -/
def opaqueXdr (bytes : List UInt8) : List UInt8 :=
  be 4 bytes.length ++ bytes ++ List.replicate ((4 - bytes.length % 4) % 4) 0

def muxedXdr : MuxedAccount → List UInt8
  | .ed25519 key => be 4 0 ++ key.toList
  | .muxedEd25519 id key => be 4 0x100 ++ be 8 id.toNat ++ key.toList

def assetXdr : Asset → List UInt8
  | .native => be 4 0
  | .creditAlphanum4 asset => be 4 1 ++ asset.assetCode.toList ++ be 4 0 ++ asset.issuer.toList
  | .creditAlphanum12 asset => be 4 2 ++ asset.assetCode.toList ++ be 4 0 ++ asset.issuer.toList

def memoXdr : Memo → List UInt8
  | .none => be 4 0
  | .text text => be 4 1 ++ opaqueXdr text.val
  | .id id => be 4 2 ++ be 8 id.toNat
  | .hash hash => be 4 3 ++ hash.toList
  | .ret hash => be 4 4 ++ hash.toList

def signerKeyXdr : SignerKey → List UInt8
  | .ed25519 key => be 4 0 ++ key.toList
  | .preAuthTx hash => be 4 1 ++ hash.toList
  | .hashX hash => be 4 2 ++ hash.toList
  | .ed25519SignedPayload key payload => be 4 3 ++ key.toList ++ opaqueXdr payload.val

def timeBoundsXdr (bounds : TimeBounds) : List UInt8 :=
  be 8 bounds.minTime.toNat ++ be 8 bounds.maxTime.toNat

def ledgerBoundsXdr (bounds : LedgerBounds) : List UInt8 :=
  be 4 bounds.minLedger.toNat ++ be 4 bounds.maxLedger.toNat

def preconditionsXdr : Preconditions → List UInt8
  | .none => be 4 0
  | .time bounds => be 4 1 ++ timeBoundsXdr bounds
  | .v2 cond => be 4 2 ++ optionXdr timeBoundsXdr cond.timeBounds ++
      optionXdr ledgerBoundsXdr cond.ledgerBounds ++ optionXdr i64Xdr cond.minSeqNum ++
      be 8 cond.minSeqAge.toNat ++ be 4 cond.minSeqLedgerGap.toNat ++
      listXdr signerKeyXdr cond.extraSigners.val

def operationXdr (op : Operation) : List UInt8 :=
  optionXdr muxedXdr op.sourceAccount ++
    match op.body with
    | .payment pay => be 4 1 ++ muxedXdr pay.destination ++ assetXdr pay.asset ++ i64Xdr pay.amount
    | .bumpSequence bumpTo => be 4 11 ++ i64Xdr bumpTo
    | .other kind xdr => be 4 kind.toNat ++ xdr

def transactionXdr (tx : Transaction) : List UInt8 :=
  muxedXdr tx.sourceAccount ++ be 4 tx.fee.toNat ++ i64Xdr tx.seqNum ++ preconditionsXdr tx.cond ++
    memoXdr tx.memo ++ listXdr operationXdr tx.operations.val ++ be 4 0

/-- The signature payload: network, envelope type, transaction. -/
def payloadXdr (netId : Bytes 32) (tx : Transaction) : List UInt8 :=
  netId.toList ++ be 4 2 ++ transactionXdr tx

end Xdr

section Inputs

/-- The public key of the seed of thirty-two bytes 7. -/
def wallet : Bytes 32 :=
  ⟨[234, 74, 108, 99, 226, 156, 82, 10, 190, 245, 80, 123, 19, 46, 197, 249,
    149, 71, 118, 174, 190, 190, 123, 146, 66, 30, 234, 105, 20, 70, 210, 44], rfl⟩

def shop : Bytes 32 := List.Vector.replicate 32 9

def tipJar : Bytes 32 := List.Vector.replicate 32 11

def issuer : Bytes 32 := List.Vector.replicate 32 42

def walletStr : Str := ⟨"GDVEU3DD4KOFECV66VIHWEZOYX4ZKR3WV27L464SIIPOU2IUI3JCZA57", by decide⟩

def shopStr : Str := ⟨"GAEQSCIJBEEQSCIJBEEQSCIJBEEQSCIJBEEQSCIJBEEQSCIJBEEQSH7S", by decide⟩

def tipJarStr : Str := ⟨"GAFQWCYLBMFQWCYLBMFQWCYLBMFQWCYLBMFQWCYLBMFQWCYLBMFQWYPX", by decide⟩

def issuerStr : Str := ⟨"GAVCUKRKFIVCUKRKFIVCUKRKFIVCUKRKFIVCUKRKFIVCUKRKFIVCUPVC", by decide⟩

def invoice7 : Str := ⟨"invoice-7", by decide⟩

def testnetId : Bytes 32 :=
  ⟨[206, 224, 48, 45, 89, 132, 77, 50, 189, 202, 145, 92, 130, 3, 221, 68,
    179, 63, 187, 126, 220, 25, 5, 30, 163, 122, 190, 223, 40, 236, 212, 114], rfl⟩

/-- The memo of the wallet's payment to the shop. -/
def payMemo : Bytes 32 :=
  ⟨[221, 70, 248, 27, 52, 211, 143, 88, 173, 35, 78, 162, 71, 129, 250, 105,
    37, 228, 250, 130, 205, 75, 161, 73, 16, 242, 197, 228, 110, 54, 238, 212], rfl⟩

/-- The wallet pays the shop 1.25 dollars. -/
def payTx : Transaction := buildTransaction wallet shop
  (usdc issuer) 12500000 101 100 payMemo

def payHash : Bytes 32 :=
  ⟨[156, 200, 156, 212, 143, 12, 64, 88, 24, 239, 247, 57, 119, 184, 145, 183,
    206, 43, 216, 32, 115, 251, 199, 98, 107, 126, 226, 111, 214, 137, 138, 90], rfl⟩

def paySig : Bytes 64 :=
  ⟨[61, 148, 73, 65, 64, 226, 172, 163, 18, 104, 217, 205, 206, 4, 53, 99,
    190, 211, 84, 238, 141, 82, 117, 219, 67, 13, 217, 224, 48, 111, 46, 123,
    123, 162, 165, 239, 226, 203, 27, 190, 129, 169, 112, 229, 234, 62, 61, 173,
    113, 60, 205, 236, 158, 62, 24, 80, 251, 209, 234, 232, 238, 206, 105, 0], rfl⟩

/-- The memos of three monthly instalments from the wallet to the shop. -/
def instalmentMemo1 : Bytes 32 :=
  ⟨[242, 207, 10, 104, 217, 68, 25, 122, 31, 174, 226, 84, 143, 61, 18, 207,
    227, 139, 195, 23, 16, 149, 239, 38, 203, 246, 242, 188, 253, 101, 200, 110], rfl⟩

def instalmentMemo2 : Bytes 32 :=
  ⟨[218, 122, 192, 1, 36, 212, 102, 18, 189, 222, 238, 250, 63, 63, 202, 222,
    25, 54, 251, 159, 150, 121, 46, 106, 151, 101, 55, 117, 67, 106, 199, 21], rfl⟩

def instalmentMemo3 : Bytes 32 :=
  ⟨[109, 81, 31, 1, 210, 151, 159, 41, 235, 81, 61, 182, 139, 7, 166, 25,
    222, 0, 202, 132, 106, 59, 157, 192, 144, 9, 171, 206, 86, 122, 79, 144], rfl⟩

/-- The memo of their cancellation. -/
def cancelMemo : Bytes 32 :=
  ⟨[163, 38, 181, 85, 120, 27, 137, 47, 185, 213, 27, 124, 64, 53, 194, 160,
    26, 50, 112, 85, 162, 245, 64, 184, 18, 100, 194, 36, 218, 248, 57, 24], rfl⟩

def splitLegs : List (Str × Int64) := [(shopStr, 7000000), (tipJarStr, 3000000)]

def splitMemo : Bytes 32 :=
  ⟨[240, 78, 117, 205, 86, 202, 81, 166, 66, 183, 166, 214, 208, 186, 73, 55,
    198, 251, 10, 118, 154, 64, 250, 155, 184, 54, 33, 216, 5, 149, 201, 208], rfl⟩

def splitOps : List Operation :=
  [paymentOp ⟨shop, usdc issuer, 7000000⟩,
    paymentOp ⟨tipJar, usdc issuer, 3000000⟩]

/-- The wallet pays the shop and the tip jar at once, under a given fee bid. -/
def splitTx (fee : UInt32) : Transaction :=
  ⟨.ed25519 wallet, fee, 101, .none, .hash splitMemo, ⟨splitOps, by decide⟩⟩

/-- The hash of the split under a bid of 200. -/
def splitHash : Bytes 32 :=
  ⟨[101, 236, 114, 80, 193, 240, 132, 12, 189, 214, 3, 47, 112, 107, 231, 80,
    17, 58, 232, 159, 181, 158, 132, 2, 111, 70, 242, 153, 40, 239, 207, 226], rfl⟩

def splitSig : Bytes 64 :=
  ⟨[187, 150, 101, 97, 172, 41, 37, 50, 140, 8, 170, 106, 165, 49, 177, 150,
    48, 223, 123, 203, 12, 197, 148, 214, 11, 232, 172, 7, 121, 197, 116, 139,
    197, 214, 14, 240, 187, 195, 99, 139, 5, 255, 0, 16, 155, 237, 167, 51,
    35, 250, 107, 91, 51, 90, 63, 86, 142, 94, 207, 91, 79, 54, 77, 5], rfl⟩

def payEnvelope : String :=
  "AAAAAgAAAADqSmxj4pxSCr71UHsTLsX5lUd2rr6+e5JCHuppFEbSLAAAAGQAAAAAAAAAZQAAAAAAAAAD3Ub4GzTT" ++
    "j1itI06iR4H6aSXk+oLNS6FJEPLF5G427tQAAAABAAAAAAAAAAEAAAAACQkJCQkJCQkJCQkJCQkJCQkJCQkJCQkJ" ++
    "CQkJCQkJCQkAAAABVVNEQwAAAAAqKioqKioqKioqKioqKioqKioqKioqKioqKioqKioqKgAAAAAAvrwgAAAAAAAA" ++
    "AAEURtIsAAAAQD2USUFA4qyjEmjZzc4ENWO+01TujVJ120MN2eAwby57e6Kl7+LLG76BqXDl6j49rXE8zeyePhhQ" ++
    "+9Hq6O7OaQA="

def splitEnvelope : String :=
  "AAAAAgAAAADqSmxj4pxSCr71UHsTLsX5lUd2rr6+e5JCHuppFEbSLAAAAMgAAAAAAAAAZQAAAAAAAAAD8E51zVbK" ++
    "UaZCt6bW0LpJN8b7CnaaQPqbuDYh2AWVydAAAAACAAAAAAAAAAEAAAAACQkJCQkJCQkJCQkJCQkJCQkJCQkJCQkJ" ++
    "CQkJCQkJCQkAAAABVVNEQwAAAAAqKioqKioqKioqKioqKioqKioqKioqKioqKioqKioqKgAAAAAAas/AAAAAAAAA" ++
    "AAEAAAAACwsLCwsLCwsLCwsLCwsLCwsLCwsLCwsLCwsLCwsLCwsAAAABVVNEQwAAAAAqKioqKioqKioqKioqKioq" ++
    "KioqKioqKioqKioqKioqKgAAAAAALcbAAAAAAAAAAAEURtIsAAAAQLuWZWGsKSUyjAiqaqUxsZYw33vLDMWU1gvo" ++
    "rAd5xXSLxdYO8LvDY4sF/wAQm+2nMyP6a1szWj9Wjl7PW082TQU="

/-- The split under a bid of 201 with the signature of the bid of 200. -/
def oddSplitEnvelope : String :=
  "AAAAAgAAAADqSmxj4pxSCr71UHsTLsX5lUd2rr6+e5JCHuppFEbSLAAAAMkAAAAAAAAAZQAAAAAAAAAD8E51zVbK" ++
    "UaZCt6bW0LpJN8b7CnaaQPqbuDYh2AWVydAAAAACAAAAAAAAAAEAAAAACQkJCQkJCQkJCQkJCQkJCQkJCQkJCQkJ" ++
    "CQkJCQkJCQkAAAABVVNEQwAAAAAqKioqKioqKioqKioqKioqKioqKioqKioqKioqKioqKgAAAAAAas/AAAAAAAAA" ++
    "AAEAAAAACwsLCwsLCwsLCwsLCwsLCwsLCwsLCwsLCwsLCwsLCwsAAAABVVNEQwAAAAAqKioqKioqKioqKioqKioq" ++
    "KioqKioqKioqKioqKioqKgAAAAAALcbAAAAAAAAAAAEURtIsAAAAQLuWZWGsKSUyjAiqaqUxsZYw33vLDMWU1gvo" ++
    "rAd5xXSLxdYO8LvDY4sF/wAQm+2nMyP6a1szWj9Wjl7PW082TQU="

def payBinding : StellarBinding where
  chain := "stellar"
  networkPassphrase := "Test SDF Network ; September 2015"
  txHash := Codec.hexEncode payHash.toList
  source := walletStr
  destination := shopStr
  assetCode := "USDC"
  assetIssuer := issuerStr.text
  amountStroops := 12500000
  seqNum := 101
  fee := 100
  memoHash := Codec.hexEncode payMemo.toList
  signature := Codec.hexEncode paySig.toList

def splitBinding (fee : UInt32) : StellarSplitBinding where
  chain := "stellar"
  networkPassphrase := "Test SDF Network ; September 2015"
  txHash := Codec.hexEncode splitHash.toList
  source := walletStr
  assetCode := "USDC"
  assetIssuer := issuerStr.text
  legs := splitLegs
  seqNum := 101
  fee := fee
  memoHash := Codec.hexEncode splitMemo.toList
  signature := Codec.hexEncode splitSig.toList

end Inputs

section Tables

def hashTable : List (List UInt8 × Bytes 32) :=
  [(asBytes "Test SDF Network ; September 2015", testnetId),
    (payPreimage railId walletStr shopStr invoice7, payMemo),
    (payloadXdr testnetId payTx, payHash),
    (splitPreimage railId walletStr invoice7 splitLegs, splitMemo),
    (payloadXdr testnetId (splitTx 200), splitHash),
    (recurringPreimage railId walletStr shopStr invoice7 100 1 3, instalmentMemo1),
    (recurringPreimage railId walletStr shopStr invoice7 100 2 3, instalmentMemo2),
    (recurringPreimage railId walletStr shopStr invoice7 100 3 3, instalmentMemo3),
    (cancelPreimage railId walletStr invoice7 100, cancelMemo)]

def sha256 (bytes : List UInt8) : Bytes 32 :=
  match hashTable.find? fun entry => entry.1 = bytes with
  | some entry => entry.2
  | none => List.Vector.replicate 32 0

/-- The wallet's signatures of the two transaction hashes. -/
def sign (msg : List UInt8) : Sig :=
  if msg = payHash.toList then paySig
  else if msg = splitHash.toList then splitSig
  else List.Vector.replicate 64 0

def keypair : Keypair := ⟨wallet, sign⟩

def keyTable : List (Bytes 32 × Str) :=
  [(wallet, walletStr), (shop, shopStr), (tipJar, tipJarStr), (issuer, issuerStr)]

/-- A key in hexadecimal, behind a digit that starts no address. -/
def hexText (key : Bytes 32) : List Char := '0' :: Codec.hexDigits key.toList

theorem hexText_ascii (key : Bytes 32) : ∀ c ∈ hexText key, c.toNat < 128 := by
  have digits := Codec.hexDigits_ascii key.toList
  intro c member
  rcases List.mem_cons.mp member with same | later
  · rw [same]
    decide
  · exact digits c later

theorem fits_hexText (key : Bytes 32) :
    (asBytes (String.ofList (hexText key))).length ≤ isizeMax := by
  rw [asBytes, Codec.bytes_ofList (hexText_ascii key), List.length_map, hexText, List.length_cons,
    Codec.length_hexDigits, key.toList_length]
  decide

/-- StrKey on the named keys; any other key in hexadecimal. -/
def strkeyEncode (key : Bytes 32) : Str :=
  match keyTable.find? fun entry => entry.1 = key with
  | some entry => entry.2
  | none => ⟨String.ofList (hexText key), fits_hexText key⟩

def strkeyDecode (text : String) : Option (Bytes 32) :=
  match keyTable.find? fun entry => entry.2.text = text with
  | some entry => some entry.1
  | none =>
    match Codec.ascii text with
    | '0' :: digits => (Codec.hexBytes digits).bind (toArray? 32)
    | _ => none

def envelopeTable : List (TransactionEnvelope × String) :=
  [(envelope payTx wallet paySig, payEnvelope),
    (envelope (splitTx 200) wallet splitSig, splitEnvelope),
    (envelope (splitTx 201) wallet splitSig, oddSplitEnvelope)]

def quoted (text : String) : List UInt8 := asBytes "\"" ++ asBytes text ++ asBytes "\""

def integer (value : Int) : List UInt8 := asBytes (toString value)

/-- The JSON of a binding whose fields need no escapes. -/
def bindingJson (binding : StellarBinding) : List UInt8 :=
  asBytes "\x7b\"chain\":" ++ (quoted binding.chain ++
    (asBytes ",\"network_passphrase\":" ++ (quoted binding.networkPassphrase ++
    (asBytes ",\"tx_hash\":" ++ (quoted binding.txHash ++
    (asBytes ",\"source\":" ++ (quoted binding.source.text ++
    (asBytes ",\"destination\":" ++ (quoted binding.destination.text ++
    (asBytes ",\"asset_code\":" ++ (quoted binding.assetCode ++
    (asBytes ",\"asset_issuer\":" ++ (quoted binding.assetIssuer ++
    (asBytes ",\"amount_stroops\":" ++ (integer binding.amountStroops.toInt ++
    (asBytes ",\"seq_num\":" ++ (integer binding.seqNum.toInt ++
    (asBytes ",\"fee\":" ++ (integer binding.fee.toNat ++
    (asBytes ",\"memo_hash\":" ++ (quoted binding.memoHash ++
    (asBytes ",\"signature\":" ++ (quoted binding.signature ++
      asBytes "\x7d")))))))))))))))))))))))

def legJson (leg : Str × Int64) : List UInt8 :=
  asBytes "[" ++ quoted leg.1.text ++ asBytes "," ++ integer leg.2.toInt ++ asBytes "]"

def splitBindingJson (binding : StellarSplitBinding) : List UInt8 :=
  asBytes "\x7b\"chain\":" ++ (quoted binding.chain ++
    (asBytes ",\"network_passphrase\":" ++ (quoted binding.networkPassphrase ++
    (asBytes ",\"tx_hash\":" ++ (quoted binding.txHash ++
    (asBytes ",\"source\":" ++ (quoted binding.source.text ++
    (asBytes ",\"asset_code\":" ++ (quoted binding.assetCode ++
    (asBytes ",\"asset_issuer\":" ++ (quoted binding.assetIssuer ++
    (asBytes ",\"legs\":[" ++
      (((binding.legs.map legJson).intersperse (asBytes ",")).flatten ++ (asBytes "]" ++
    (asBytes ",\"seq_num\":" ++ (integer binding.seqNum.toInt ++
    (asBytes ",\"fee\":" ++ (integer binding.fee.toNat ++
    (asBytes ",\"memo_hash\":" ++ (quoted binding.memoHash ++
    (asBytes ",\"signature\":" ++ (quoted binding.signature ++
      asBytes "\x7d"))))))))))))))))))))))

def bindingTable : List (StellarBinding × List UInt8) :=
  [(payBinding, bindingJson payBinding)]

def splitBindingTable : List (StellarSplitBinding × List UInt8) :=
  [splitBinding 200, splitBinding 201].map fun binding =>
    (binding, splitBindingJson binding)

/-- `!` is no base64 digit and no JSON text starts with a zero byte, so they mark the
codes outside the tables. -/
def crates : Crates where
  sha256 := sha256
  hexEncode := Codec.hexEncode
  hexDecode := Codec.hexDecode
  strkeyEncode := strkeyEncode
  strkeyDecode := strkeyDecode
  ed25519Verify key msg sig := decide (key = wallet ∧ sig = sign msg)
  payloadToXdr netId tx := .ok (payloadXdr netId tx)
  envelopeToXdrBase64 env := .ok (Codec.encode Codec.bangMarking envelopeTable env)
  envelopeFromXdrBase64 text :=
    match Codec.decode Codec.bangMarking envelopeTable text with
    | some env => .ok env
    | none => .error "invalid base64 XDR"
  toVec binding := .ok (Codec.encode Codec.zeroMarking bindingTable binding)
  fromSlice := Codec.decode Codec.zeroMarking bindingTable
  splitToVec binding := .ok (Codec.encode Codec.zeroMarking splitBindingTable binding)
  splitFromSlice := Codec.decode Codec.zeroMarking splitBindingTable

end Tables

section Laws

theorem hexDecode_hexEncode (bytes : List UInt8) :
    crates.hexDecode (crates.hexEncode bytes) = some bytes := Codec.hexDecode_hexEncode bytes

theorem strkeyDecode_strkeyEncode (key : Bytes 32) :
    crates.strkeyDecode (crates.strkeyEncode key).text = some key := by
  change strkeyDecode (strkeyEncode key).text = some key
  cases known : keyTable.find? fun entry => entry.1 = key with
  | some entry =>
    have member := List.mem_of_find?_eq_some known
    have same : entry.1 = key := by simpa using List.find?_some known
    subst key
    have listed : ∀ entry ∈ keyTable, strkeyDecode entry.2.text = some entry.1 := by
      decide
    simpa [strkeyEncode, known] using listed entry member
  | none =>
    have absent : keyTable.find? (fun entry =>
        entry.2.text = String.ofList (hexText key)) = none := by
      apply List.find?_eq_none.mpr
      intro entry member same
      have text : entry.2.text = String.ofList (hexText key) := by
        simpa using same
      have addresses : ∀ entry ∈ keyTable, (Codec.ascii entry.2.text).head? ≠ some '0' := by
        decide
      exact addresses entry member (by rw [text, Codec.ascii_ofList (hexText_ascii key)]; rfl)
    simp only [strkeyEncode, known, strkeyDecode, absent, Codec.ascii_ofList (hexText_ascii key)]
    simp only [hexText, Codec.hexBytes_hexDigits, Option.bind_some, toArray?_toList]

theorem envelopeTable_valid : Codec.WellFormed Codec.bangMarking envelopeTable where
  distinct := by decide
  unmarked := by decide

theorem bindingTable_valid : Codec.WellFormed Codec.zeroMarking bindingTable where
  distinct := by decide
  unmarked := by decide

theorem splitBindingTable_valid : Codec.WellFormed Codec.zeroMarking splitBindingTable where
  distinct := by decide +kernel
  unmarked := by decide

theorem envelopeFromXdrBase64_toXdrBase64 (env : TransactionEnvelope) :
    ∃ text, crates.envelopeToXdrBase64 env = .ok text ∧
      crates.envelopeFromXdrBase64 text = .ok env := by
  refine ⟨Codec.encode Codec.bangMarking envelopeTable env, rfl, ?_⟩
  simp only [crates, Codec.decode_encode envelopeTable_valid]

theorem fromSlice_toVec (binding : StellarBinding) :
    ∃ bytes, crates.toVec binding = .ok bytes ∧ crates.fromSlice bytes = some binding :=
  ⟨Codec.encode Codec.zeroMarking bindingTable binding, rfl,
    Codec.decode_encode bindingTable_valid binding⟩

theorem splitFromSlice_splitToVec (binding : StellarSplitBinding) :
    ∃ bytes, crates.splitToVec binding = .ok bytes ∧
      crates.splitFromSlice bytes = some binding :=
  ⟨Codec.encode Codec.zeroMarking splitBindingTable binding, rfl,
    Codec.decode_encode splitBindingTable_valid binding⟩

theorem ed25519Verify_sign (msg : List UInt8) :
    crates.ed25519Verify keypair.pubkey msg (keypair.sign msg) = true := by
  simp [crates, keypair]

end Laws

section Receipts

/-- A testnet rail over one recorded Horizon answer. -/
def rail (record : TxRecord) : StellarRail Unit where
  cfg := ⟨.testnet, issuerStr.text, 100⟩
  rpc := {
    loadSequence := fun _ world => (.ok 100, world)
    submitTransaction := fun _ world =>
      (.error (.rpc "POST /transactions: HTTP 504 Gateway Timeout"), world)
    getTransaction := fun _ world => (.ok (some record), world) }
  signer := some keypair

/-- The same rail over a Horizon that includes the next transaction submitted to it,
under a given hash. -/
def liveRail (hash : Bytes 32) : StellarRail (Option String) where
  cfg := ⟨.testnet, issuerStr.text, 100⟩
  rpc := {
    loadSequence := fun _ world => (.ok 100, world)
    submitTransaction := fun text _ => (.ok ⟨Codec.hexEncode hash.toList, true⟩, some text)
    getTransaction := fun asked world =>
      (.ok (if asked = Codec.hexEncode hash.toList then world.map (⟨true, ·⟩) else none), world) }
  signer := some keypair

/-- Horizon's records of the payment, and of the split under either bid. -/
def payRecord : TxRecord := ⟨true, payEnvelope⟩

def splitRecord : TxRecord := ⟨true, splitEnvelope⟩

def oddSplitRecord : TxRecord := ⟨true, oddSplitEnvelope⟩

def payReceipt : Receipt :=
  ⟨"stellar", 12500000, "USDC", invoice7, bindingJson payBinding, 1700000000⟩

def splitReceipt (fee : UInt32) : Receipt :=
  ⟨"stellar", 10000000, "USDC", invoice7, splitBindingJson (splitBinding fee), 1700000000⟩

end Receipts

end Instance

end Patala.Stellar
