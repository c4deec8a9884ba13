import Mathlib.Algebra.BigOperators.Group.List.Basic
import Mathlib.Algebra.Order.Ring.Int
import Patala.Stellar.Tx

/-! What the builders accept and what the decoders read back, each as the exact
condition on its input. -/

namespace Patala.Stellar

open Machine

section Assets

/-- The bytes of `USDC`. -/
def usdcCode : Bytes 4 := ⟨[85, 83, 68, 67], rfl⟩

/-- USDC of an issuer. -/
def usdc (issuer : PubKey) : Asset := .creditAlphanum4 ⟨usdcCode, issuer⟩

theorem assetCode4_usdc : assetCode4 "USDC" = .ok usdcCode := rfl

theorem usdcAsset_usdc (issuer : PubKey) : usdcAsset "USDC" issuer = .ok (usdc issuer) := rfl

theorem assetIs_iff {asset : Asset} {issuer : PubKey} :
    assetIs asset "USDC" issuer = true ↔ asset = usdc issuer := by
  constructor
  · intro accepted
    cases asset with
    | native => simp [assetIs] at accepted
    | creditAlphanum4 found =>
      rcases found with ⟨assetCode, foundIssuer⟩
      obtain ⟨sameCode, sameIssuer⟩ : assetCode = usdcCode ∧ foundIssuer = issuer := by
        simpa [assetIs, assetCode4_usdc] using accepted
      rw [sameCode, sameIssuer]
      rfl
    | creditAlphanum12 found => simp [assetIs] at accepted
  · intro same
    subst asset
    simp [assetIs, usdc, assetCode4_usdc]

end Assets

section Sums

/-- The exact sum of leg amounts. -/
def legSum (legs : List PaymentLeg) : Int := (legs.map fun leg => leg.amount.toInt).sum

/-- What an operation pays. -/
def opAmount (op : Operation) : Int :=
  match op.body with
  | .payment pay => pay.amount.toInt
  | _ => 0

/-- What a transaction pays in all. -/
def totalPaid (tx : Transaction) : Int := (tx.operations.val.map opAmount).sum

theorem totalFee_ok_iff {baseFee fee : UInt32} {opCount : Nat} :
    totalFee baseFee opCount = .ok fee ↔
      opCount < 2 ^ 32 ∧ fee.toNat = baseFee.toNat * opCount := by
  constructor
  · intro success
    cases counted : tryUInt32 opCount with
    | none => simp [totalFee, counted] at success
    | some ops =>
      have same := tryUInt32_eq_some.mp counted
      have small := ops.toNat_lt
      cases multiplied : checkedMul baseFee ops with
      | none => simp [totalFee, counted, multiplied] at success
      | some found =>
        have equal : found = fee := by simpa [totalFee, counted, multiplied] using success
        subst fee
        rw [← same]
        exact ⟨small, checkedMul_eq_some.mp multiplied⟩
  · rintro ⟨small, product⟩
    have counted : tryUInt32 opCount = some (UInt32.ofNat opCount) :=
      tryUInt32_eq_some.mpr (UInt32.toNat_ofNat_of_lt' small)
    have multiplied : checkedMul baseFee (UInt32.ofNat opCount) = some fee := by
      apply checkedMul_eq_some.mpr
      rw [UInt32.toNat_ofNat_of_lt' small, product]
    simp [totalFee, counted, multiplied]

end Sums

section Builder

theorem checkPositive_ok_iff {index : Nat} {legs : List PaymentLeg} :
    checkPositive index legs = .ok () ↔ ∀ leg ∈ legs, 0 < leg.amount.toInt := by
  induction legs generalizing index with
  | nil => simp [checkPositive]
  | cons leg rest ih =>
    unfold checkPositive
    by_cases positive : 0 < leg.amount.toInt
    · simp [positive, not_le.mpr positive, ih]
    · simp [positive, not_lt.mp positive]

/-- Everything the checked builder checks, and the transaction it then builds. -/
structure Built (source : PubKey) (legs : List PaymentLeg) (seqNum : Int64) (baseFee : UInt32)
    (memo : Bytes 32) (tx : Transaction) : Prop where
  nonempty : legs ≠ []
  bounded : legs.length ≤ maxOperations
  positive : ∀ leg ∈ legs, 0 < leg.amount.toInt
  summed : ∃ total, totalAmount legs = .ok total
  fee : totalFee baseFee legs.length = .ok tx.fee
  source : tx.sourceAccount = .ed25519 source
  seqNum : tx.seqNum = seqNum
  cond : tx.cond = .none
  memo : tx.memo = .hash memo
  operations : tx.operations.val = legs.map paymentOp

theorem buildPaymentTransaction_ok_iff {source : PubKey} {legs : List PaymentLeg} {seqNum : Int64}
    {baseFee : UInt32} {memo : Bytes 32} {tx : Transaction} :
    buildPaymentTransaction source legs seqNum baseFee memo = .ok tx ↔
      Built source legs seqNum baseFee memo tx := by
  constructor
  · intro success
    unfold buildPaymentTransaction at success
    dsimp only at success
    split at success
    · cases success
    rename_i nonempty
    split at success
    · cases success
    rename_i notLonger
    have bounded : legs.length ≤ maxOperations := not_lt.mp notLonger
    cases checked : checkPositive 0 legs with
    | error error => simp [checked, bind, Except.bind] at success
    | ok _ =>
      cases summed : totalAmount legs with
      | error error => simp [checked, summed, bind, Except.bind] at success
      | ok total =>
        cases priced : totalFee baseFee legs.length with
        | error error => simp [checked, summed, priced, bind, Except.bind] at success
        | ok fee =>
          have fits : (legs.map paymentOp).length ≤ maxOperations := by simpa using bounded
          simp only [checked, summed, priced, bind, Except.bind, transactionFromOps,
            dif_pos fits] at success
          have same := Except.ok.inj success
          subst tx
          exact ⟨nonempty, bounded, checkPositive_ok_iff.mp checked, ⟨total, summed⟩, priced, rfl,
            rfl, rfl, rfl, rfl⟩
  · intro built
    rcases tx with ⟨txSource, txFee, txSeqNum, txCond, txMemo, ⟨txOps, txBound⟩⟩
    obtain ⟨nonempty, bounded, positive, ⟨total, summed⟩, priced, rfl, rfl, rfl, rfl, operations⟩ :=
      built
    dsimp only at operations priced
    subst txOps
    have notLonger : ¬ maxOperations < legs.length := not_lt.mpr bounded
    have fits : (legs.map paymentOp).length ≤ maxOperations := by simpa using bounded
    simp [buildPaymentTransaction, nonempty, notLonger, checkPositive_ok_iff.mpr positive, summed,
      priced, transactionFromOps, bounded, bind, Except.bind]

end Builder

section Decoder

/-- The leg a decoded leg was built from. -/
def DecodedLeg.toLeg (leg : DecodedLeg) : PaymentLeg := ⟨leg.destPk, leg.asset, leg.amount⟩

/-- What a leg decodes to. -/
def PaymentLeg.decoded (leg : PaymentLeg) : DecodedLeg := ⟨leg.destPk, leg.asset, leg.amount⟩

theorem decodeLeg_ok_iff {index : Nat} {op : Operation} {leg : DecodedLeg} :
    decodeLeg index op = .ok leg ↔ op = paymentOp leg.toLeg ∧ 0 < leg.amount.toInt := by
  constructor
  · intro success
    unfold decodeLeg at success
    split at success
    · cases success
    rename_i noOverride
    split at success
    · rename_i pay payment
      split at success
      · rename_i destPk plain
        dsimp only at success
        split at success
        · cases success
        rename_i positive
        have same := Except.ok.inj success
        subst leg
        refine ⟨?_, not_le.mp positive⟩
        rcases op with ⟨sourceAccount, body⟩
        rcases pay with ⟨destination, asset, amount⟩
        have absent : sourceAccount = none := by simpa using noOverride
        dsimp only at payment plain
        subst body destination absent
        rfl
      · cases success
    · cases success
  · rintro ⟨same, positive⟩
    subst op
    rcases leg with ⟨destPk, asset, amount⟩
    have notNegative : ¬ amount.toInt ≤ 0 := not_le.mpr positive
    simp [decodeLeg, paymentOp, DecodedLeg.toLeg, notNegative]

theorem decodeLegs_ok {index : Nat} {ops : List Operation} {legs : List DecodedLeg}
    (success : decodeLegs index ops = .ok legs) :
    ops = legs.map (fun leg => paymentOp leg.toLeg) ∧ ∀ leg ∈ legs, 0 < leg.amount.toInt := by
  induction ops generalizing index legs with
  | nil =>
    have same : [] = legs := Except.ok.inj success
    subst legs
    simp
  | cons op ops ih =>
    cases decoded : decodeLeg index op with
    | error error => simp [decodeLegs, decoded, bind, Except.bind] at success
    | ok leg =>
      cases later : decodeLegs (index + 1) ops with
      | error error => simp [decodeLegs, decoded, later, bind, Except.bind] at success
      | ok rest =>
        have same : leg :: rest = legs := by
          simpa [decodeLegs, decoded, later, bind, Except.bind, pure, Except.pure] using success
        subst legs
        obtain ⟨head, positive⟩ := decodeLeg_ok_iff.mp decoded
        obtain ⟨tail, others⟩ := ih later
        exact ⟨by rw [List.map_cons, ← head, ← tail], List.forall_mem_cons.mpr ⟨positive, others⟩⟩

theorem decodeLegs_of_positive {index : Nat} {legs : List DecodedLeg}
    (positive : ∀ leg ∈ legs, 0 < leg.amount.toInt) :
    decodeLegs index (legs.map fun leg => paymentOp leg.toLeg) = .ok legs := by
  induction legs generalizing index with
  | nil => rfl
  | cons leg rest ih =>
    obtain ⟨here, others⟩ := List.forall_mem_cons.mp positive
    have head : decodeLeg index (paymentOp leg.toLeg) = .ok leg := decodeLeg_ok_iff.mpr ⟨rfl, here⟩
    simp [decodeLegs, head, ih others, bind, Except.bind, pure, Except.pure]

/-- What a decoded envelope is: a v1 transaction of one to a hundred payments, each
positive and by the source itself, under a hash memo. -/
structure DecodedFrom (tx : Transaction) (decoded : DecodedPayments) : Prop where
  source : tx.sourceAccount = .ed25519 decoded.sourcePk
  memo : tx.memo = .hash decoded.memo
  seqNum : tx.seqNum = decoded.seqNum
  fee : tx.fee = decoded.fee
  nonempty : decoded.legs ≠ []
  operations : tx.operations.val = decoded.legs.map fun leg => paymentOp leg.toLeg
  positive : ∀ leg ∈ decoded.legs, 0 < leg.amount.toInt

/-- A transaction of plain payments by its own source. -/
def OnlyPayments (tx : Transaction) : Prop := ∀ op ∈ tx.operations.val, ∃ leg, op = paymentOp leg

theorem Built.onlyPayments {source : PubKey} {legs : List PaymentLeg} {seqNum : Int64}
    {baseFee : UInt32} {memo : Bytes 32} {tx : Transaction}
    (built : Built source legs seqNum baseFee memo tx) : OnlyPayments tx := by
  intro op member
  rw [built.operations] at member
  obtain ⟨leg, -, same⟩ := List.mem_map.mp member
  exact ⟨leg, same.symm⟩

/-- A built transaction decodes to the legs it was built from. -/
theorem Built.decodedFrom {source : PubKey} {legs : List PaymentLeg} {seqNum : Int64}
    {baseFee : UInt32} {memo : Bytes 32} {tx : Transaction}
    (built : Built source legs seqNum baseFee memo tx) :
    DecodedFrom tx ⟨source, seqNum, tx.fee, memo, legs.map PaymentLeg.decoded⟩ := by
  refine ⟨built.source, built.memo, built.seqNum, rfl, ?_, ?_, ?_⟩
  · simpa using built.nonempty
  · rw [List.map_map]
    exact built.operations
  · intro leg member
    obtain ⟨found, present, same⟩ := List.mem_map.mp member
    rw [← same]
    exact built.positive found present

theorem decodePayments_ok_iff {env : TransactionEnvelope} {decoded : DecodedPayments} :
    decodePayments env = .ok decoded ↔
      ∃ v1, env = .tx v1 ∧ DecodedFrom v1.tx decoded := by
  constructor
  · intro success
    unfold decodePayments at success
    split at success
    · rename_i v1
      split at success
      · rename_i sourcePk source
        split at success
        · rename_i memo hashed
          dsimp only at success
          split at success
          · cases success
          rename_i nonempty
          split at success
          · cases success
          cases legsDecoded : decodeLegs 0 v1.tx.operations.val with
          | error error => simp [legsDecoded, bind, Except.bind] at success
          | ok legs =>
            have same : (⟨sourcePk, v1.tx.seqNum, v1.tx.fee, memo, legs⟩ : DecodedPayments) =
                decoded := by
              simpa [legsDecoded, bind, Except.bind, pure, Except.pure] using success
            subst decoded
            obtain ⟨operations, positive⟩ := decodeLegs_ok legsDecoded
            refine ⟨v1, rfl, source, hashed, rfl, rfl, ?_, operations, positive⟩
            intro empty
            dsimp only at empty
            rw [empty] at operations
            exact nonempty operations
        · cases success
      · cases success
    · cases success
  · rintro ⟨v1, same, decodes⟩
    subst env
    obtain ⟨source, memo, seqNum, fee, nonempty, operations, positive⟩ := decodes
    have notEmpty : v1.tx.operations.val ≠ [] := by
      rw [operations]
      simpa using nonempty
    have bounded : ¬ maxOperations < v1.tx.operations.val.length :=
      not_lt.mpr v1.tx.operations.property
    have legsDecoded : decodeLegs 0 v1.tx.operations.val = .ok decoded.legs := by
      rw [operations]
      exact decodeLegs_of_positive positive
    simp [decodePayments, source, memo, seqNum, fee, notEmpty, bounded, legsDecoded, bind,
      Except.bind, pure, Except.pure]

theorem decodeSinglePayment_ok_iff {env : TransactionEnvelope} {decoded : DecodedPayment} :
    decodeSinglePayment env = .ok decoded ↔
      ∃ v1, env = .tx v1 ∧ DecodedFrom v1.tx ⟨decoded.sourcePk, decoded.seqNum, decoded.fee,
        decoded.memo, [⟨decoded.destPk, decoded.asset, decoded.amount⟩]⟩ := by
  rw [← decodePayments_ok_iff]
  constructor
  · intro success
    cases all : decodePayments env with
    | error error => simp [decodeSinglePayment, all, bind, Except.bind] at success
    | ok payments =>
      rcases payments with ⟨sourcePk, seqNum, fee, memo, legs⟩
      match legs with
      | [] => simp [decodeSinglePayment, all, bind, Except.bind] at success
      | [leg] =>
        have same : (⟨sourcePk, seqNum, fee, leg.destPk, leg.asset, leg.amount, memo⟩ :
            DecodedPayment) = decoded := by
          simpa [decodeSinglePayment, all, bind, Except.bind, pure, Except.pure] using success
        subst decoded
        rfl
      | _ :: _ :: _ => simp [decodeSinglePayment, all, bind, Except.bind] at success
  · intro all
    simp [decodeSinglePayment, all, bind, Except.bind, pure, Except.pure]

end Decoder

end Patala.Stellar
