import Patala.Lib.Machine

/-! The XDR types of a classic Stellar transaction, as far as the rail builds or
reads them. Parts it never looks into carry their own XDR bytes. -/

namespace Patala.Stellar

open Machine

/-- `VecM<T, MAX>`: a list that respects its bound. -/
abbrev VecM (α : Type) (bound : Nat) := { items : List α // items.length ≤ bound }

inductive MuxedAccount where
  | ed25519 (key : Bytes 32)
  | muxedEd25519 (id : UInt64) (key : Bytes 32)
deriving DecidableEq

structure AlphaNum4 where
  assetCode : Bytes 4
  issuer : Bytes 32
deriving DecidableEq

structure AlphaNum12 where
  assetCode : Bytes 12
  issuer : Bytes 32
deriving DecidableEq

inductive Asset where
  | native
  | creditAlphanum4 (asset : AlphaNum4)
  | creditAlphanum12 (asset : AlphaNum12)
deriving DecidableEq

inductive Memo where
  | none
  | text (text : VecM UInt8 28)
  | id (id : UInt64)
  | hash (hash : Bytes 32)
  | ret (hash : Bytes 32)
deriving DecidableEq

structure TimeBounds where
  minTime : UInt64
  maxTime : UInt64
deriving DecidableEq

structure LedgerBounds where
  minLedger : UInt32
  maxLedger : UInt32
deriving DecidableEq

inductive SignerKey where
  | ed25519 (key : Bytes 32)
  | preAuthTx (hash : Bytes 32)
  | hashX (hash : Bytes 32)
  | ed25519SignedPayload (key : Bytes 32) (payload : VecM UInt8 64)
deriving DecidableEq

structure PreconditionsV2 where
  timeBounds : Option TimeBounds
  ledgerBounds : Option LedgerBounds
  minSeqNum : Option Int64
  minSeqAge : UInt64
  minSeqLedgerGap : UInt32
  extraSigners : VecM SignerKey 2
deriving DecidableEq

inductive Preconditions where
  | none
  | time (bounds : TimeBounds)
  | v2 (cond : PreconditionsV2)
deriving DecidableEq

structure PaymentOp where
  destination : MuxedAccount
  asset : Asset
  amount : Int64
deriving DecidableEq

/-- An operation's body: the two kinds the rail builds, and every other kind by its
discriminant and XDR. -/
inductive OperationBody where
  | payment (op : PaymentOp)
  | bumpSequence (bumpTo : Int64)
  | other (kind : UInt32) (xdr : List UInt8)
deriving DecidableEq

structure Operation where
  sourceAccount : Option MuxedAccount
  body : OperationBody
deriving DecidableEq

/-- The most operations one transaction may carry. -/
def maxOperations : Nat := 100

structure Transaction where
  sourceAccount : MuxedAccount
  fee : UInt32
  seqNum : Int64
  cond : Preconditions
  memo : Memo
  operations : VecM Operation maxOperations
deriving DecidableEq

structure DecoratedSignature where
  hint : Bytes 4
  signature : VecM UInt8 64
deriving DecidableEq

structure TransactionV1Envelope where
  tx : Transaction
  signatures : VecM DecoratedSignature 20
deriving DecidableEq

inductive TransactionEnvelope where
  | txV0 (xdr : List UInt8)
  | tx (v1 : TransactionV1Envelope)
  | txFeeBump (xdr : List UInt8)
deriving DecidableEq

end Patala.Stellar
