import Patala.Stellar.MemoBinding
import Patala.Stellar.SplitSoundness

/-! One ledger transaction answers for one receipt: its memo hash holds a single
preimage, whose domain tag says which verifier and whose fields say which reference. -/

namespace Patala.Stellar

open Machine Framing

/-- The two verifiers of the rail. -/
inductive Verifier where
  | single
  | split
deriving DecidableEq

section Passing

variable (crates : Crates)

def Verifier.run (rail : StellarRail σ) (receipt : Receipt) (world : σ) :
    Verifier → Except Error Bool × σ
  | .single => rail.verify crates receipt world
  | .split => rail.verifySplit crates receipt world

/-- The hash for which a verifier asks Horizon. -/
def Verifier.asks (receipt : Receipt) : Verifier → Option String
  | .single => (crates.fromSlice receipt.proof).map StellarBinding.txHash
  | .split => (crates.splitFromSlice receipt.proof).map StellarSplitBinding.txHash

/-- What a verifier hashes into the memo it expects. -/
def Verifier.preimage (receipt : Receipt) : Verifier → Option (List UInt8)
  | .single => (crates.fromSlice receipt.proof).map fun binding =>
    payPreimage railId binding.source binding.destination receipt.reference
  | .split => (crates.splitFromSlice receipt.proof).map fun binding =>
    splitPreimage railId binding.source receipt.reference binding.legs

/-- A receipt is accepted on the strength of `record`. -/
def PassesOn (verifier : Verifier) (rail : StellarRail σ) (receipt : Receipt) (world : σ)
    (record : TxRecord) : Prop :=
  (verifier.run crates rail receipt world).1 = .ok true ∧
    ∃ hash, verifier.asks crates receipt = some hash ∧ Serves rail.rpc world hash record

/-- The memo preimages of some receipts, under either verifier. -/
def memoPreimages (receipts : Set Receipt) : Set (List UInt8) :=
  { bytes | ∃ receipt ∈ receipts, ∃ verifier : Verifier,
    verifier.preimage crates receipt = some bytes }

end Passing

section Preimages

/-- Equal preimages come from one verifier and one reference. -/
theorem preimage_inj {crates : Crates} {first second : Receipt} {mine theirs : Verifier}
    {bytes : List UInt8} (left : mine.preimage crates first = some bytes)
    (right : theirs.preimage crates second = some bytes) :
    mine = theirs ∧ first.reference = second.reference := by
  cases mine <;> cases theirs <;>
    obtain ⟨binding, -, rfl⟩ := Option.map_eq_some_iff.mp left <;>
    obtain ⟨other, -, same⟩ := Option.map_eq_some_iff.mp right
  · have equal := @MemoBinding.preimage_injective (.pay ..) (.pay ..) same
    simp only [MemoBinding.pay.injEq] at equal
    exact ⟨rfl, equal.2.2.2.symm⟩
  · cases @MemoBinding.preimage_injective (.split ..) (.pay ..) same
  · cases @MemoBinding.preimage_injective (.pay ..) (.split ..) same
  · have equal := @MemoBinding.preimage_injective (.split ..) (.split ..) same
    simp only [MemoBinding.split.injEq] at equal
    exact ⟨rfl, equal.2.2.1.symm⟩

end Preimages

section Amounts

theorem totalPaid_of_single {tx : Transaction} {dest : PubKey} {asset : Asset} {amount : Int64}
    (operations : tx.operations.val = [⟨none, .payment ⟨.ed25519 dest, asset, amount⟩⟩]) :
    totalPaid tx = amount.toInt := by
  simp [totalPaid, operations, opAmount]

theorem totalPaid_of_legs {crates : Crates} {issuer : PubKey} {tx : Transaction}
    {pairs : List (Str × Int64)} {legs : List DecodedLeg}
    (operations : tx.operations.val = legs.map fun leg => paymentOp leg.toLeg)
    (matched : LegsMatch crates issuer pairs legs) : totalPaid tx = pairSum pairs := by
  unfold totalPaid pairSum
  rw [operations]
  clear operations
  induction matched with
  | nil => rfl
  | cons here _ ih =>
    obtain ⟨-, -, amount⟩ := here
    simp only [List.map_cons, List.sum_cons]
    rw [ih, ← amount]
    rfl

end Amounts

section Redeeming

variable {crates : Crates}

/-- What a record must be to let a receipt pass: its memo is the receipt's, its
payments are the receipt's amount. -/
structure PaidBy (crates : Crates) (verifier : Verifier) (receipt : Receipt) (record : TxRecord)
    (preimage : List UInt8) (v1 : TransactionV1Envelope) : Prop where
  derived : verifier.preimage crates receipt = some preimage
  envelope : envelopeFromXdrBase64 crates record.envelopeXdr = .ok (.tx v1)
  memo : v1.tx.memo = .hash (crates.sha256 preimage)
  amount : totalPaid v1.tx = receipt.amountMinor.toNat

theorem PassesOn.paid (hex : ∀ bytes, crates.hexDecode (crates.hexEncode bytes) = some bytes)
    {verifier : Verifier} {rail : StellarRail σ} {receipt : Receipt} {world : σ} {record : TxRecord}
    (passes : PassesOn crates verifier rail receipt world record) :
    ∃ preimage v1, PaidBy crates verifier receipt record preimage v1 := by
  obtain ⟨accepted, hash, asked, served⟩ := passes
  cases verifier with
  | single =>
    obtain ⟨checked, record', v1, binds, served', holds⟩ :=
      StellarRail.verify_eq_true.mp accepted
    have proved := holds.proves binds hex
    have sameHash : checked.binding.txHash = hash := by
      simpa [Verifier.asks, binds.parsed] using asked
    subst hash
    have same : record' = record := Option.some.inj (Except.ok.inj (served'.symm.trans served))
    subst record'
    refine ⟨_, v1, by simp [Verifier.preimage, binds.parsed], holds.envelope, proved.memo, ?_⟩
    rw [totalPaid_of_single proved.operations, proved.amount]
  | split =>
    obtain ⟨checked, legs, rebuilt, record', v1, decoded, binds, served', holds⟩ :=
      StellarRail.verifySplit_eq_true.mp accepted
    have sameHash : checked.binding.txHash = hash := by
      simpa [Verifier.asks, binds.parsed] using asked
    subst hash
    have same : record' = record := Option.some.inj (Except.ok.inj (served'.symm.trans served))
    subst record'
    have memo := holds.decoded.memo
    rw [decoded_hash hex binds.memoHash binds.memo] at memo
    refine ⟨_, v1, by simp [Verifier.preimage, binds.parsed], holds.envelope, memo, ?_⟩
    rw [totalPaid_of_legs holds.decoded.operations holds.matched, binds.amount_eq]

/-- Two receipts that pass on one record pass under one verifier and agree on
reference and amount; none passes under both. -/
theorem redeemed_once (hex : ∀ bytes, crates.hexDecode (crates.hexEncode bytes) = some bytes)
    (receipts : Set Receipt)
    (collisionFree : Set.InjOn crates.sha256 (memoPreimages crates receipts))
    (rail : StellarRail σ) (other : StellarRail τ) (world : σ) (world' : τ) (record : TxRecord) :
    (∀ first ∈ receipts, ∀ second ∈ receipts, ∀ mine theirs : Verifier,
      PassesOn crates mine rail first world record →
      PassesOn crates theirs other second world' record →
      mine = theirs ∧ first.reference = second.reference ∧
        first.amountMinor = second.amountMinor) ∧
    ∀ receipt ∈ receipts, ¬ (PassesOn crates .single rail receipt world record ∧
      PassesOn crates .split other receipt world' record) := by
  have agree : ∀ first ∈ receipts, ∀ second ∈ receipts, ∀ mine theirs : Verifier,
      PassesOn crates mine rail first world record →
      PassesOn crates theirs other second world' record →
      mine = theirs ∧ first.reference = second.reference ∧
        first.amountMinor = second.amountMinor := by
    intro first member second member' mine theirs passes passes'
    obtain ⟨preimage, v1, paid⟩ := passes.paid hex
    obtain ⟨preimage', v1', paid'⟩ := passes'.paid hex
    have sameTx : v1 = v1' :=
      TransactionEnvelope.tx.inj (Except.ok.inj (paid.envelope.symm.trans paid'.envelope))
    subst v1'
    have hashes : crates.sha256 preimage = crates.sha256 preimage' :=
      Memo.hash.inj (paid.memo.symm.trans paid'.memo)
    have same : preimage = preimage' := collisionFree ⟨first, member, mine, paid.derived⟩
      ⟨second, member', theirs, paid'.derived⟩ hashes
    subst preimage'
    obtain ⟨verifiers, references⟩ := preimage_inj paid.derived paid'.derived
    have amounts := paid.amount.symm.trans paid'.amount
    exact ⟨verifiers, references, UInt64.toNat_inj.mp (Int.ofNat_inj.mp amounts)⟩
  refine ⟨agree, ?_⟩
  intro receipt member both
  obtain ⟨impossible, -, -⟩ := agree receipt member receipt member .single .split both.1 both.2
  cases impossible

end Redeeming

/-- A payment and a split of the same invoice. -/
def invoiceReceipts : Set Receipt := {Instance.payReceipt, Instance.splitReceipt 200}

private theorem invoiceReceipts_collisionFree :
    Set.InjOn Instance.crates.sha256 (memoPreimages Instance.crates invoiceReceipts) := by
  have payment : Instance.crates.fromSlice Instance.payReceipt.proof = some Instance.payBinding ∧
      Instance.crates.splitFromSlice Instance.payReceipt.proof = none := by decide +kernel
  have split : Instance.crates.fromSlice (Instance.splitReceipt 200).proof = none ∧
      Instance.crates.splitFromSlice (Instance.splitReceipt 200).proof =
        some (Instance.splitBinding 200) := by decide +kernel
  have known : ∀ bytes ∈ memoPreimages Instance.crates invoiceReceipts,
      bytes = payPreimage railId Instance.walletStr Instance.shopStr Instance.invoice7 ∨
      bytes = splitPreimage railId Instance.walletStr Instance.invoice7 Instance.splitLegs := by
    rintro bytes ⟨receipt, rfl | rfl, verifier, derived⟩
    · cases verifier with
      | single =>
        rw [Verifier.preimage, payment.1] at derived
        exact .inl (Option.some.inj derived).symm
      | split =>
        rw [Verifier.preimage, payment.2] at derived
        cases derived
    · cases verifier with
      | single =>
        rw [Verifier.preimage, split.1] at derived
        cases derived
      | split =>
        rw [Verifier.preimage, split.2] at derived
        exact .inr (Option.some.inj derived).symm
  have differ : Instance.crates.sha256
      (payPreimage railId Instance.walletStr Instance.shopStr Instance.invoice7) ≠
      Instance.crates.sha256
        (splitPreimage railId Instance.walletStr Instance.invoice7 Instance.splitLegs) := by
    decide +kernel
  intro bytes member bytes' member' same
  rcases known bytes member with rfl | rfl <;> rcases known bytes' member' with rfl | rfl
  · rfl
  · exact absurd same differ
  · exact absurd same.symm differ
  · rfl

theorem payReceipt_redeemed_once :
    PassesOn Instance.crates .single (Instance.rail Instance.payRecord)
      Instance.payReceipt () Instance.payRecord ∧
    (∀ first ∈ invoiceReceipts, ∀ second ∈ invoiceReceipts, ∀ mine theirs : Verifier,
      PassesOn Instance.crates mine (Instance.rail Instance.payRecord) first ()
        Instance.payRecord →
      PassesOn Instance.crates theirs (Instance.rail Instance.payRecord) second ()
        Instance.payRecord →
      mine = theirs ∧ first.reference = second.reference ∧
        first.amountMinor = second.amountMinor) ∧
    ∀ receipt ∈ invoiceReceipts, ¬ (
      PassesOn Instance.crates .single (Instance.rail Instance.payRecord) receipt ()
        Instance.payRecord ∧
      PassesOn Instance.crates .split (Instance.rail Instance.payRecord) receipt ()
        Instance.payRecord) := by
  have passes : PassesOn Instance.crates .single (Instance.rail Instance.payRecord)
      Instance.payReceipt () Instance.payRecord := by
    refine ⟨by decide +kernel, Instance.payBinding.txHash, by decide +kernel, rfl⟩
  exact ⟨passes, redeemed_once Instance.hexDecode_hexEncode invoiceReceipts
    invoiceReceipts_collisionFree (Instance.rail Instance.payRecord)
    (Instance.rail Instance.payRecord) () () Instance.payRecord⟩

end Patala.Stellar
