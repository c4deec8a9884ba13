import Mathlib.Algebra.Order.BigOperators.Group.List
import Patala.Stellar.TxFacts

/-! What the checked builder accepts, what its transactions decode to, and which envelopes
decode at all. -/

namespace Patala.Stellar

open Machine

section Sums

/-- What does not fit an `i64` is the only sum the checked addition refuses. -/
theorem checkedAdd_eq_none {a b : Int64} :
    checkedAdd a b = none ↔ ¬ (-2 ^ 63 ≤ a.toInt + b.toInt ∧ a.toInt + b.toInt < 2 ^ 63) := by
  constructor
  · rintro overflows ⟨low, high⟩
    have fits : (Int64.ofInt (a.toInt + b.toInt)).toInt = a.toInt + b.toInt :=
      Int64.toInt_ofInt_of_le low high
    rw [checkedAdd_eq_some.mpr fits] at overflows
    cases overflows
  · intro outside
    cases added : checkedAdd a b with
    | none => rfl
    | some sum =>
      have exactly := checkedAdd_eq_some.mp added
      have low := sum.le_toInt
      have high := sum.toInt_lt
      exact absurd ⟨by omega, by omega⟩ outside

theorem legSum_nonneg {legs : List PaymentLeg} (positive : ∀ leg ∈ legs, 0 < leg.amount.toInt) :
    0 ≤ legSum legs := by
  apply List.sum_nonneg
  intro amount member
  obtain ⟨leg, present, same⟩ := List.mem_map.mp member
  have := positive leg present
  omega

/-- Positive amounts are summed exactly when their exact sum fits. -/
theorem totalAmountFrom_ok_iff {index : Nat} {total : Int64} {legs : List PaymentLeg}
    (start : 0 ≤ total.toInt) (positive : ∀ leg ∈ legs, 0 < leg.amount.toInt) :
    (∃ sum, totalAmountFrom index total legs = .ok sum) ↔
      total.toInt + legSum legs < 2 ^ 63 := by
  induction legs generalizing index total with
  | nil =>
    have small := total.toInt_lt
    simpa [totalAmountFrom, legSum] using small
  | cons leg rest ih =>
    obtain ⟨here, others⟩ := List.forall_mem_cons.mp positive
    have later := legSum_nonneg others
    have split : legSum (leg :: rest) = leg.amount.toInt + legSum rest := rfl
    rw [totalAmountFrom, split]
    cases added : checkedAdd total leg.amount with
    | none =>
      have overflows := checkedAdd_eq_none.mp added
      constructor
      · rintro ⟨sum, refused⟩
        cases refused
      · intro fits
        exact absurd ⟨by omega, by omega⟩ overflows
    | some sum =>
      have exactly := checkedAdd_eq_some.mp added
      rw [ih (by omega) others, exactly]
      omega

end Sums

section Builder

/-- What the checked builder accepts: one to a hundred positive amounts whose sum fits an
`i64`, at a fee bid that fits a `u32`. -/
structure Payable (legs : List PaymentLeg) (baseFee : UInt32) : Prop where
  atLeastOne : 1 ≤ legs.length
  atMost : legs.length ≤ 100
  positive : ∀ leg ∈ legs, 0 < leg.amount.toInt
  sumFits : legSum legs < 2 ^ 63
  feeFits : baseFee.toNat * legs.length < 2 ^ 32

theorem Built.payable {source : PubKey} {legs : List PaymentLeg} {seqNum : Int64}
    {baseFee : UInt32} {memo : Bytes 32} {tx : Transaction}
    (built : Built source legs seqNum baseFee memo tx) : Payable legs baseFee where
  atLeastOne := List.length_pos_iff.mpr built.nonempty
  atMost := built.bounded
  positive := built.positive
  sumFits := by
    have exact := (totalAmountFrom_ok_iff (by decide)
      built.positive).mp built.summed
    simpa using exact
  feeFits := by
    obtain ⟨-, exactly⟩ := totalFee_ok_iff.mp built.fee
    rw [← exactly]
    exact tx.fee.toNat_lt

theorem Payable.builds {legs : List PaymentLeg} {baseFee : UInt32} (payable : Payable legs baseFee)
    (source : PubKey) (seqNum : Int64) (memo : Bytes 32) :
    ∃ tx, buildPaymentTransaction source legs seqNum baseFee memo = .ok tx := by
  have small : legs.length < 2 ^ 32 := by
    have := payable.atMost
    omega
  have priced : totalFee baseFee legs.length =
      .ok (UInt32.ofNat (baseFee.toNat * legs.length)) :=
    totalFee_ok_iff.mpr ⟨small, UInt32.toNat_ofNat_of_lt' payable.feeFits⟩
  have fits : (legs.map paymentOp).length ≤ maxOperations := by
    simpa [maxOperations] using payable.atMost
  have summed : ∃ total, totalAmount legs = .ok total :=
    (totalAmountFrom_ok_iff (by decide) payable.positive).mpr (by simpa using payable.sumFits)
  exact ⟨⟨.ed25519 source, _, seqNum, .none, .hash memo, ⟨legs.map paymentOp, fits⟩⟩,
    buildPaymentTransaction_ok_iff.mpr ⟨List.length_pos_iff.mp payable.atLeastOne, payable.atMost,
      payable.positive, summed, priced, rfl, rfl, rfl, rfl, rfl⟩⟩

/-- One leg is built as the unchecked builder builds it. -/
theorem Built.single {source : PubKey} {leg : PaymentLeg} {seqNum : Int64} {baseFee : UInt32}
    {memo : Bytes 32} {tx : Transaction} (built : Built source [leg] seqNum baseFee memo tx) :
    tx = buildTransaction source leg.destPk leg.asset leg.amount seqNum baseFee memo := by
  rcases tx with ⟨txSource, txFee, txSeqNum, txCond, txMemo, ⟨txOps, txBound⟩⟩
  obtain ⟨-, -, -, -, priced, rfl, rfl, rfl, rfl, operations⟩ := built
  dsimp only at operations priced
  subst txOps
  obtain ⟨-, exactly⟩ := totalFee_ok_iff.mp priced
  have same : txFee = baseFee := UInt32.toNat_inj.mp (by simpa using exactly)
  subst txFee
  rfl

end Builder

section Decoder

/-- A payment by the transaction's own source, of a positive amount to a plain key. -/
structure PlainPayment (op : Operation) : Prop where
  noOverride : op.sourceAccount = none
  payment : ∃ destPk asset amount, op.body = .payment ⟨.ed25519 destPk, asset, amount⟩ ∧
    0 < amount.toInt

/-- A v1 envelope of a plain source and a hash memo that carries one to a hundred plain
payments and nothing else. -/
def Decodable (env : TransactionEnvelope) : Prop :=
  ∃ v1 sourcePk memo, env = .tx v1 ∧ v1.tx.sourceAccount = .ed25519 sourcePk ∧
    v1.tx.memo = .hash memo ∧ 1 ≤ v1.tx.operations.val.length ∧
    v1.tx.operations.val.length ≤ 100 ∧ ∀ op ∈ v1.tx.operations.val, PlainPayment op

theorem PlainPayment.leg {op : Operation} (plain : PlainPayment op) :
    ∃ leg : DecodedLeg, op = paymentOp leg.toLeg ∧ 0 < leg.amount.toInt := by
  rcases op with ⟨sourceAccount, body⟩
  obtain ⟨rfl, destPk, asset, amount, rfl, positive⟩ := plain
  exact ⟨⟨destPk, asset, amount⟩, rfl, positive⟩

/-- Plain payments are the payments of some legs, in order. -/
theorem legs_of_plain {ops : List Operation} (plain : ∀ op ∈ ops, PlainPayment op) :
    ∃ legs : List DecodedLeg, ops = legs.map (fun leg => paymentOp leg.toLeg) ∧
      ∀ leg ∈ legs, 0 < leg.amount.toInt := by
  induction ops with
  | nil => exact ⟨[], rfl, nofun⟩
  | cons op rest ih =>
    obtain ⟨here, others⟩ := List.forall_mem_cons.mp plain
    obtain ⟨leg, head, positive⟩ := here.leg
    obtain ⟨legs, tail, positives⟩ := ih others
    exact ⟨leg :: legs, by rw [List.map_cons, ← head, ← tail],
      List.forall_mem_cons.mpr ⟨positive, positives⟩⟩

theorem decodes_iff_decodable (env : TransactionEnvelope) :
    (∃ decoded, decodePayments env = .ok decoded) ↔ Decodable env := by
  constructor
  · rintro ⟨decoded, success⟩
    obtain ⟨v1, rfl, decodes⟩ := decodePayments_ok_iff.mp success
    refine ⟨v1, _, _, rfl, decodes.source, decodes.memo, ?_, v1.tx.operations.property, ?_⟩
    · rw [decodes.operations, List.length_map]
      exact List.length_pos_iff.mpr decodes.nonempty
    · intro op member
      rw [decodes.operations] at member
      obtain ⟨leg, present, rfl⟩ := List.mem_map.mp member
      exact ⟨rfl, _, _, _, rfl, decodes.positive leg present⟩
  · rintro ⟨v1, sourcePk, memo, rfl, source, hashed, some, -, plain⟩
    obtain ⟨legs, operations, positive⟩ := legs_of_plain plain
    refine ⟨⟨sourcePk, v1.tx.seqNum, v1.tx.fee, memo, legs⟩, decodePayments_ok_iff.mpr
      ⟨v1, rfl, source, hashed, rfl, rfl, ?_, operations, positive⟩⟩
    intro empty
    dsimp only at empty
    rw [operations, empty] at some
    exact absurd some (by decide)

end Decoder

/-- The builder succeeds exactly on payable legs; what it builds decodes, under any signature,
to what it was built from, and one leg is built as the single-payment builder builds it; and an
envelope decodes exactly when it is a bundle of plain payments. -/
theorem build_decode_round_trip :
    (∀ (source : PubKey) (legs : List PaymentLeg) (seqNum : Int64) (baseFee : UInt32)
        (memo : Bytes 32),
      ((∃ tx, buildPaymentTransaction source legs seqNum baseFee memo = .ok tx) ↔
        Payable legs baseFee) ∧
      ∀ tx, buildPaymentTransaction source legs seqNum baseFee memo = .ok tx →
        (∀ signer signature, ∃ fee : UInt32, fee.toNat = baseFee.toNat * legs.length ∧
          decodePayments (envelope tx signer signature) =
            .ok ⟨source, seqNum, fee, memo, legs.map PaymentLeg.decoded⟩) ∧
        ∀ leg, legs = [leg] →
          tx = buildTransaction source leg.destPk leg.asset leg.amount seqNum baseFee memo) ∧
    ∀ env, (∃ decoded, decodePayments env = .ok decoded) ↔ Decodable env := by
  refine ⟨?_, decodes_iff_decodable⟩
  intro source legs seqNum baseFee memo
  constructor
  · constructor
    · rintro ⟨tx, success⟩
      exact (buildPaymentTransaction_ok_iff.mp success).payable
    · intro payable
      exact payable.builds source seqNum memo
  · intro tx success
    have built := buildPaymentTransaction_ok_iff.mp success
    constructor
    · intro signer signature
      exact ⟨tx.fee, (totalFee_ok_iff.mp built.fee).2,
        decodePayments_ok_iff.mpr ⟨_, rfl, built.decodedFrom⟩⟩
    · intro leg one
      subst legs
      exact built.single

/-- Two legs of 700 and 300 stroops at a base fee of 100. -/
def twoLegs : List PaymentLeg :=
  [⟨List.Vector.replicate 32 1, .native, 700⟩, ⟨List.Vector.replicate 32 2, .native, 300⟩]

theorem two_legs_round_trip : ∃ tx,
    buildPaymentTransaction (List.Vector.replicate 32 3) twoLegs 7 100
      (List.Vector.replicate 32 4) = .ok tx ∧
    ∀ signer signature, ∃ fee : UInt32, fee.toNat = 200 ∧
      decodePayments (envelope tx signer signature) = .ok ⟨List.Vector.replicate 32 3, 7, fee,
        List.Vector.replicate 32 4, twoLegs.map PaymentLeg.decoded⟩ := by
  have exact := build_decode_round_trip.1 (List.Vector.replicate 32 3) twoLegs 7 100
    (List.Vector.replicate 32 4)
  have positive : ∀ leg ∈ twoLegs, 0 < leg.amount.toInt :=
    List.forall_mem_cons.mpr ⟨by decide, List.forall_mem_cons.mpr ⟨by decide, nofun⟩⟩
  obtain ⟨tx, built⟩ := exact.1.mpr ⟨by decide, by decide, positive, by decide, by decide⟩
  exact ⟨tx, built, (exact.2 tx built).1⟩

end Patala.Stellar
