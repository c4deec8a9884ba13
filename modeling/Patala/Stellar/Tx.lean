import Patala.Stellar.Config

/-! Building, hashing and decoding payment transactions, and the memo hashes that
bind them to what they pay for. -/

namespace Patala.Stellar

open Machine Framing

section Assets

/-- A string as `{:?}` prints it, for text whose only unprintable characters are
the named escapes. -/
def debugStr (text : String) : String :=
  "\"" ++ String.ofList (text.toList.flatMap fun c =>
    match c with
    | '"' => ['\\', '"']
    | '\\' => ['\\', '\\']
    | '\n' => ['\\', 'n']
    | '\r' => ['\\', 'r']
    | '\t' => ['\\', 't']
    | c => if c.toNat = 0 then ['\\', '0'] else [c]) ++ "\""

def isAsciiAlphanumeric (byte : UInt8) : Bool :=
  (48 ≤ byte && byte ≤ 57) || (65 ≤ byte && byte ≤ 90) || (97 ≤ byte && byte ≤ 122)

/-- The code's bytes padded with zeros to four. -/
def padCode (code : List UInt8) (fits : code.length ≤ 4) : Bytes 4 :=
  ⟨code ++ List.replicate (4 - code.length) 0, by
    rw [List.length_append, List.length_replicate, Nat.add_sub_cancel' fits]⟩

/-- One to four ASCII letters or digits, padded; anything else is refused. -/
def assetCode4 (code : String) : Except StellarError (Bytes 4) :=
  let bytes := asBytes code
  if fits : bytes ≠ [] ∧ bytes.length ≤ 4 ∧ bytes.all isAsciiAlphanumeric then
    .ok (padCode bytes fits.2.1)
  else .error (.config ("asset code " ++ debugStr code ++ " must be 1-4 ASCII alphanumerics"))

def usdcAsset (code : String) (issuer : PubKey) : Except StellarError Asset :=
  match assetCode4 code with
  | .ok assetCode => .ok (.creditAlphanum4 ⟨assetCode, issuer⟩)
  | .error error => .error error

/-- Is `asset` the four-letter credit asset of this code and issuer? -/
def assetIs (asset : Asset) (code : String) (issuer : PubKey) : Bool :=
  match asset, assetCode4 code with
  | .creditAlphanum4 found, .ok want => found.assetCode = want && found.issuer = issuer
  | _, _ => false

end Assets

section Memos

variable (crates : Crates)

/-- `i64::to_le_bytes`. -/
def i64Bytes (value : Int64) : List UInt8 := leBytes 8 value.toUInt64.toNat

/-- `u32::to_le_bytes`. -/
def u32Bytes (value : UInt32) : List UInt8 := leBytes 4 value.toNat

/-- What a single payment's memo hashes: four length-prefixed fields. -/
def payPreimage (rail source destination reference : Str) : List UInt8 :=
  asBytes "patala-stellar-pay-v1" ++
    [rail, source, destination, reference].flatMap Str.framed

def memoHash (rail source destination reference : Str) : Bytes 32 :=
  crates.sha256 (payPreimage rail source destination reference)

/-- A leg inside a split's memo: its destination behind its length, then its amount. -/
def legBytes (leg : Str × Int64) : List UInt8 := leg.1.framed ++ i64Bytes leg.2

/-- What a split's memo hashes: three fields, the leg count, every leg in order. -/
def splitPreimage (rail source reference : Str) (legs : List (Str × Int64)) : List UInt8 :=
  asBytes "patala-stellar-split-v1" ++ [rail, source, reference].flatMap Str.framed ++
    counted legBytes legs

def splitMemoHash (rail source reference : Str) (legs : List (Str × Int64)) : Bytes 32 :=
  crates.sha256 (splitPreimage rail source reference legs)

def recurringPreimage (rail source destination reference : Str) (baseSeq : Int64)
    (index count : UInt32) : List UInt8 :=
  asBytes "patala-stellar-recurring-v1" ++
    [rail, source, destination, reference].flatMap Str.framed ++
    i64Bytes baseSeq ++ u32Bytes index ++ u32Bytes count

def recurringMemoHash (rail source destination reference : Str) (baseSeq : Int64)
    (index count : UInt32) : Bytes 32 :=
  crates.sha256 (recurringPreimage rail source destination reference baseSeq index count)

def cancelPreimage (rail source reference : Str) (baseSeq : Int64) : List UInt8 :=
  asBytes "patala-stellar-recurring-cancel-v1" ++ [rail, source, reference].flatMap Str.framed ++
    i64Bytes baseSeq

def cancelMemoHash (rail source reference : Str) (baseSeq : Int64) : Bytes 32 :=
  crates.sha256 (cancelPreimage rail source reference baseSeq)

def networkId (passphrase : String) : Bytes 32 := crates.sha256 (asBytes passphrase)

end Memos

section Building

/-- One payee, one asset, one amount. -/
structure PaymentLeg where
  destPk : PubKey
  asset : Asset
  amount : Int64
deriving DecidableEq

/-- The payment of one leg by the transaction's own source, unvalidated. -/
def paymentOp (leg : PaymentLeg) : Operation :=
  ⟨none, .payment ⟨.ed25519 leg.destPk, leg.asset, leg.amount⟩⟩

def transactionFromOps (source : PubKey) (ops : List Operation) (seqNum : Int64) (fee : UInt32)
    (memo : Bytes 32) (cond : Preconditions) : Except StellarError Transaction :=
  if fits : ops.length ≤ maxOperations then
    .ok ⟨.ed25519 source, fee, seqNum, cond, .hash memo, ⟨ops, fits⟩⟩
  else .error (.xdr "a stellar transaction carries at most 100 operations")

def totalAmountFrom (index : Nat) (total : Int64) : List PaymentLeg → Except StellarError Int64
  | [] => .ok total
  | leg :: rest =>
    match checkedAdd total leg.amount with
    | none => .error (.config
        s!"leg {index}: summing payment amounts overflows Stellar's i64 amount range")
    | some sum => totalAmountFrom (index + 1) sum rest

/-- The checked sum of every leg's amount. -/
def totalAmount (legs : List PaymentLeg) : Except StellarError Int64 := totalAmountFrom 0 0 legs

/-- The checked fee bid for `opCount` operations. -/
def totalFee (baseFee : UInt32) (opCount : Nat) : Except StellarError UInt32 :=
  match tryUInt32 opCount with
  | none => .error (.config s!"absurd operation count {opCount}")
  | some ops =>
    match checkedMul baseFee ops with
    | none => .error (.config
        s!"fee bid overflows u32: {baseFee} stroops × {ops} operations")
    | some fee => .ok fee

/-- Refuse the first leg whose amount is not strictly positive. -/
def checkPositive (index : Nat) : List PaymentLeg → Except StellarError Unit
  | [] => .ok ()
  | leg :: rest =>
    let amount := leg.amount.toInt
    if amount ≤ 0 then .error (.config
      s!"leg {index}: payment amount must be strictly positive, got {amount}")
    else checkPositive (index + 1) rest

/-- The checked builder for one to a hundred legs. -/
def buildPaymentTransaction (source : PubKey) (legs : List PaymentLeg) (seqNum : Int64)
    (baseFee : UInt32) (memo : Bytes 32) : Except StellarError Transaction :=
  let count := legs.length
  if legs = [] then .error (.config "a payment transaction needs at least one leg")
  else if maxOperations < count then .error (.config
    (s!"{count} legs exceeds Stellar's limit of 100 operations per transaction; " ++
      "split the bundle across several transactions (each is then separately atomic — " ++
      "atomicity does NOT extend across them)"))
  else do
    checkPositive 0 legs
    let _ ← totalAmount legs
    let fee ← totalFee baseFee count
    transactionFromOps source (legs.map paymentOp) seqNum fee memo .none

/-- One payment under explicit preconditions; one operation is always within bounds. -/
def buildTransactionWithPreconditions (source dest : PubKey) (asset : Asset) (amount seqNum : Int64)
    (fee : UInt32) (memo : Bytes 32) (cond : Preconditions) : Transaction :=
  ⟨.ed25519 source, fee, seqNum, cond, .hash memo,
    ⟨[paymentOp ⟨dest, asset, amount⟩], by simp [maxOperations]⟩⟩

/-- The unchecked builder for one payment, which can encode whatever a receipt claims. -/
def buildTransaction (source dest : PubKey) (asset : Asset) (amount seqNum : Int64) (fee : UInt32)
    (memo : Bytes 32) : Transaction :=
  buildTransactionWithPreconditions source dest asset amount seqNum fee memo .none

def buildBumpSequenceTransaction (source : PubKey) (seqNum : Int64) (fee : UInt32)
    (bumpTo : Int64) (memo : Bytes 32) : Transaction :=
  ⟨.ed25519 source, fee, seqNum, .none, .hash memo,
    ⟨[⟨none, .bumpSequence bumpTo⟩], by simp [maxOperations]⟩⟩

theorem transactionFromOps_single (source dest : PubKey) (asset : Asset) (amount seqNum : Int64)
    (fee : UInt32) (memo : Bytes 32) (cond : Preconditions) :
    transactionFromOps source [paymentOp ⟨dest, asset, amount⟩] seqNum fee memo cond =
      .ok (buildTransactionWithPreconditions source dest asset amount seqNum fee memo cond) := rfl

theorem transactionFromOps_bump (source : PubKey) (seqNum : Int64) (fee : UInt32)
    (bumpTo : Int64) (memo : Bytes 32) :
    transactionFromOps source [⟨none, .bumpSequence bumpTo⟩] seqNum fee memo .none =
      .ok (buildBumpSequenceTransaction source seqNum fee bumpTo memo) := rfl

end Building

section Signing

variable (crates : Crates)

def signingPayload (netId : Bytes 32) (tx : Transaction) : Except StellarError (List UInt8) :=
  (crates.payloadToXdr netId tx).mapError fun e => .xdr ("encode signature payload: " ++ e)

/-- The hash that is signed, and by which Horizon indexes the transaction. -/
def txHash (netId : Bytes 32) (tx : Transaction) : Except StellarError (Bytes 32) :=
  (signingPayload crates netId tx).map crates.sha256

/-- A signed transaction under the last four bytes of its signer's key. -/
def envelope (tx : Transaction) (signer : PubKey) (signature : Sig) : TransactionEnvelope :=
  .tx ⟨tx, ⟨[⟨⟨signer.toList.drop 28, by simp⟩, ⟨signature.toList, by simp⟩⟩], by simp⟩⟩

def envelopeToXdrBase64 (env : TransactionEnvelope) : Except StellarError String :=
  (crates.envelopeToXdrBase64 env).mapError fun e => .xdr ("encode envelope: " ++ e)

def envelopeFromXdrBase64 (text : String) : Except StellarError TransactionEnvelope :=
  (crates.envelopeFromXdrBase64 text).mapError fun e => .xdr ("decode envelope: " ++ e)

end Signing

section Decoding

structure DecodedLeg where
  destPk : PubKey
  asset : Asset
  amount : Int64
deriving DecidableEq

structure DecodedPayments where
  sourcePk : PubKey
  seqNum : Int64
  fee : UInt32
  memo : Bytes 32
  legs : List DecodedLeg
deriving DecidableEq

/-- One operation as a leg: a payment without a source override, to a plain key, of
a positive amount. -/
def decodeLeg (index : Nat) (op : Operation) : Except StellarError DecodedLeg :=
  if op.sourceAccount.isSome then .error (.xdr
    s!"operation {index} carries its own source override")
  else match op.body with
    | .payment pay =>
      match pay.destination with
      | .ed25519 destPk =>
        let amount := pay.amount.toInt
        if amount ≤ 0 then .error (.xdr
          s!"operation {index}: payment amount {amount} is not strictly positive")
        else .ok ⟨destPk, pay.asset, pay.amount⟩
      | _ => .error (.xdr s!"operation {index}: destination is not a plain Ed25519 key")
    | _ => .error (.xdr s!"operation {index} is not PAYMENT")

def decodeLegs (index : Nat) : List Operation → Except StellarError (List DecodedLeg)
  | [] => .ok []
  | op :: rest => do
    let leg ← decodeLeg index op
    let legs ← decodeLegs (index + 1) rest
    return leg :: legs

/-- Every leg and the transaction's fields; one bad leg rejects the envelope. -/
def decodePayments (env : TransactionEnvelope) : Except StellarError DecodedPayments :=
  match env with
  | .tx v1 =>
    match v1.tx.sourceAccount with
    | .ed25519 sourcePk =>
      match v1.tx.memo with
      | .hash memo =>
        let ops := v1.tx.operations.val
        let count := ops.length
        if ops = [] then .error (.xdr "transaction carries no operations at all")
        else if maxOperations < count then .error (.xdr
          s!"{count} operations exceeds the protocol limit of 100")
        else do
          let legs ← decodeLegs 0 ops
          return ⟨sourcePk, v1.tx.seqNum, v1.tx.fee, memo, legs⟩
      | _ => .error (.xdr "memo is not MEMO_HASH")
    | _ => .error (.xdr "source account is not a plain Ed25519 key")
  | _ => .error (.xdr "not a v1 (ENVELOPE_TYPE_TX) envelope")

structure DecodedPayment where
  sourcePk : PubKey
  seqNum : Int64
  fee : UInt32
  destPk : PubKey
  asset : Asset
  amount : Int64
  memo : Bytes 32
deriving DecidableEq

/-- `decodePayments`, and there is exactly one leg. -/
def decodeSinglePayment (env : TransactionEnvelope) : Except StellarError DecodedPayment := do
  let decoded ← decodePayments env
  let count := decoded.legs.length
  match decoded.legs with
  | [leg] => return ⟨decoded.sourcePk, decoded.seqNum, decoded.fee, leg.destPk, leg.asset,
      leg.amount, decoded.memo⟩
  | _ => .error (.xdr s!"expected exactly one operation, found {count}")

end Decoding

end Patala.Stellar
