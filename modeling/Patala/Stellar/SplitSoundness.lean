import Mathlib.Algebra.Order.BigOperators.Group.List
import Patala.Stellar.VerifySoundness

/-! An accepted split receipt is its binding's legs on the ledger. The fee is the one
part of the transaction that the hash does not pin: the rebuilt transaction carries
the binding's fee rounded down to a multiple of the leg count. -/

namespace Patala.Stellar

open Machine

section Sums

theorem pairSum_of_read {crates : Crates} {asset : Asset} {pairs : List (Str × Int64)}
    {legs : List PaymentLeg} (read : readLegs crates asset pairs = some legs) :
    pairSum pairs = legSum legs := by
  have matched := readLegs_eq_some.mp read
  clear read
  induction matched with
  | nil => rfl
  | cons here _ ih =>
    obtain ⟨-, -, amount⟩ := here
    simp only [pairSum, legSum, List.map_cons, List.sum_cons] at ih ⊢
    rw [ih, amount]

theorem legSum_pos {legs : List PaymentLeg} (nonempty : legs ≠ [])
    (positive : ∀ leg ∈ legs, 0 < leg.amount.toInt) : 0 < legSum legs := by
  apply List.sum_pos
  · intro amount member
    obtain ⟨leg, present, same⟩ := List.mem_map.mp member
    rw [← same]
    exact positive leg present
  · simpa using nonempty

end Sums

/-- What an accepted split receipt is meant to establish about the transaction
Horizon returned. -/
structure SplitProved (crates : Crates) (cfg : StellarConfig) (receipt : Receipt)
    (binding : StellarSplitBinding) (tx : Transaction) (source issuer : PubKey)
    (dests : List PubKey) : Prop where
  parsed : crates.splitFromSlice receipt.proof = some binding
  issuerKey : crates.strkeyDecode cfg.usdcIssuer = some issuer
  sourceKey : crates.strkeyDecode binding.source.text = some source
  destKeys : List.Forall₂ (fun leg dest => crates.strkeyDecode leg.1.text = some dest)
    binding.legs dests
  paidBy : tx.sourceAccount = .ed25519 source
  operations : tx.operations.val = List.zipWith (fun leg dest =>
    ⟨none, .payment ⟨.ed25519 dest, usdc issuer, leg.2⟩⟩) binding.legs dests
  nonempty : 1 ≤ binding.legs.length
  bounded : binding.legs.length ≤ 100
  positive : ∀ leg ∈ binding.legs, 0 < leg.2.toInt
  amount : pairSum binding.legs = receipt.amountMinor.toNat
  fee : tx.fee = binding.fee
  feeDivides : binding.legs.length ∣ tx.fee.toNat
  memo : tx.memo =
    .hash (splitMemoHash crates railId binding.source receipt.reference binding.legs)

section Legs

variable {crates : Crates} {issuer : PubKey} {pairs : List (Str × Int64)}
  {legs : List DecodedLeg}

theorem LegsMatch.destKeys (matched : LegsMatch crates issuer pairs legs) :
    List.Forall₂ (fun leg dest => crates.strkeyDecode leg.1.text = some dest) pairs
      (legs.map DecodedLeg.destPk) := by
  apply List.forall₂_map_right_iff.mpr
  exact List.Forall₂.imp (fun _ _ here => here.1) matched

theorem LegsMatch.operations (matched : LegsMatch crates issuer pairs legs) :
    legs.map (fun leg => paymentOp leg.toLeg) = List.zipWith (fun leg dest =>
      ⟨none, .payment ⟨.ed25519 dest, usdc issuer, leg.2⟩⟩) pairs (legs.map DecodedLeg.destPk) := by
  induction matched with
  | nil => rfl
  | cons here _ ih =>
    obtain ⟨-, asset, amount⟩ := here
    rw [List.map_cons, List.map_cons, List.zipWith_cons_cons, ih, ← asset, ← amount]
    rfl

theorem LegsMatch.positive (matched : LegsMatch crates issuer pairs legs)
    (positive : ∀ leg ∈ legs, 0 < leg.amount.toInt) : ∀ pair ∈ pairs, 0 < pair.2.toInt := by
  induction matched with
  | nil => simp
  | cons here _ ih =>
    obtain ⟨-, -, amount⟩ := here
    obtain ⟨first, others⟩ := List.forall_mem_cons.mp positive
    rw [amount] at first
    exact List.forall_mem_cons.mpr ⟨first, ih others⟩

end Legs

section Offline

variable {crates : Crates} {cfg : StellarConfig} {receipt : Receipt} {checked : SplitChecked}
  {legs : List PaymentLeg} {rebuilt : Transaction}

theorem SplitBindingChecked.length_eq
    (binds : SplitBindingChecked crates cfg receipt checked legs rebuilt) :
    checked.binding.legs.length = legs.length := (readLegs_eq_some.mp binds.read).length_eq

/-- The receipt's amount is the exact sum of the legs. -/
theorem SplitBindingChecked.amount_eq
    (binds : SplitBindingChecked crates cfg receipt checked legs rebuilt) :
    pairSum checked.binding.legs = receipt.amountMinor.toNat := by
  obtain ⟨count, -, -, built⟩ := binds.built
  have summed := sumLegs_eq_some binds.amount
  rw [pairSum_of_read binds.read, Int64.toInt_zero, zero_add] at summed
  have positive : 0 < receipt.amountMinor.toInt64.toInt := by
    rw [summed]
    exact legSum_pos built.nonempty built.positive
  rw [pairSum_of_read binds.read, ← summed]
  exact (cast_amount rfl positive).1

end Offline

/-- Everything but the divisibility of the fee follows from the checks alone. -/
theorem SplitEnvelopeChecked.proves {crates : Crates} {cfg : StellarConfig} {receipt : Receipt}
    {checked : SplitChecked} {legs : List PaymentLeg} {rebuilt : Transaction} {record : TxRecord}
    {v1 : TransactionV1Envelope} {decoded : List DecodedLeg}
    (holds : SplitEnvelopeChecked crates checked record v1 decoded)
    (binds : SplitBindingChecked crates cfg receipt checked legs rebuilt)
    (hex : ∀ bytes, crates.hexDecode (crates.hexEncode bytes) = some bytes)
    (divides : checked.binding.legs.length ∣ checked.binding.fee.toNat) :
    SplitProved crates cfg receipt checked.binding v1.tx checked.sourcePk checked.issuer
      (decoded.map DecodedLeg.destPk) := by
  obtain ⟨source, memo, -, fee, -, operations, positive⟩ := holds.decoded
  obtain ⟨-, -, issuerKey, -, -⟩ := checkAsset_eq_some.mp binds.asset
  obtain ⟨count, -, -, built⟩ := binds.built
  have bounded : checked.binding.legs.length ≤ 100 := by
    rw [binds.length_eq]
    exact built.bounded
  rw [decoded_hash hex binds.memoHash binds.memo] at memo
  exact {
    parsed := binds.parsed
    issuerKey := issuerKey
    sourceKey := binds.source
    destKeys := holds.matched.destKeys
    paidBy := source
    operations := operations.trans holds.matched.operations
    nonempty := List.length_pos_iff.mpr binds.nonempty
    bounded := bounded
    positive := holds.matched.positive positive
    amount := binds.amount_eq
    fee := fee
    feeDivides := by rw [fee]; exact divides
    memo := memo }

/-- An accepted split receipt is proved by the envelope Horizon returned. -/
def SplitSound (crates : Crates) (rail : StellarRail σ) (receipt : Receipt) (world : σ) : Prop :=
  (rail.verifySplit crates receipt world).1 = .ok true →
    ∃ binding record v1 source issuer dests,
      Serves rail.rpc world binding.txHash record ∧ record.successful = true ∧
      envelopeFromXdrBase64 crates record.envelopeXdr = .ok (.tx v1) ∧
      SplitProved crates rail.cfg receipt binding v1.tx source issuer dests

section Horizon

/-- The transaction that was rebuilt, under the fee of the binding. -/
def claimedEnvelope (binding : StellarSplitBinding) (rebuilt : Transaction) :
    TransactionV1Envelope :=
  ⟨{ rebuilt with fee := binding.fee }, ⟨[], by simp⟩⟩

variable {crates : Crates} {cfg : StellarConfig} {receipt : Receipt} {checked : SplitChecked}
  {legs : List PaymentLeg} {rebuilt : Transaction}

theorem SplitBindingChecked.onlyPayments
    (binds : SplitBindingChecked crates cfg receipt checked legs rebuilt) :
    OnlyPayments (claimedEnvelope checked.binding rebuilt).tx := by
  obtain ⟨count, -, -, built⟩ := binds.built
  exact built.onlyPayments

/-- That transaction passes the comparison with the binding, whatever its fee. -/
theorem SplitBindingChecked.accepts
    (binds : SplitBindingChecked crates cfg receipt checked legs rebuilt) {text : String}
    (read : crates.envelopeFromXdrBase64 text = .ok (.tx (claimedEnvelope checked.binding rebuilt))) :
    SplitEnvelopeChecked crates checked ⟨true, text⟩ (claimedEnvelope checked.binding rebuilt)
      (legs.map PaymentLeg.decoded) := by
  obtain ⟨count, -, -, built⟩ := binds.built
  have envelope : envelopeFromXdrBase64 crates text =
      .ok (.tx (claimedEnvelope checked.binding rebuilt)) := by
    rw [envelopeFromXdrBase64, read]
    rfl
  exact ⟨rfl, envelope, { built.decodedFrom with fee := rfl }, legsMatch_of_read binds.read⟩

/-- A Horizon that answers one record to every question. -/
def answering (record : TxRecord) : StellarRpc Unit where
  loadSequence _ world := (.error (.rpc "no account"), world)
  submitTransaction _ world := (.error (.rpc "no submissions"), world)
  getTransaction _ world := (.ok (some record), world)

end Horizon

/-- Split verification is sound against every Horizon exactly for the receipts whose
binding bids a multiple of its leg count, and those that are refused offline. -/
theorem verifySplit_sound_iff {crates : Crates}
    (hex : ∀ bytes, crates.hexDecode (crates.hexEncode bytes) = some bytes)
    (written : ∀ v1 : TransactionV1Envelope, OnlyPayments v1.tx →
      ∃ text, crates.envelopeFromXdrBase64 text = .ok (.tx v1))
    (cfg : StellarConfig) (signer : Option Keypair) (receipt : Receipt) :
    (∀ (σ : Type) (rpc : StellarRpc σ) (world : σ),
      SplitSound crates ⟨cfg, rpc, signer⟩ receipt world) ↔
    ∀ checked legs rebuilt, SplitBindingChecked crates cfg receipt checked legs rebuilt →
      checked.binding.legs.length ∣ checked.binding.fee.toNat := by
  constructor
  · intro sound checked legs rebuilt binds
    obtain ⟨text, read⟩ := written (claimedEnvelope checked.binding rebuilt) binds.onlyPayments
    have accepted : ((⟨cfg, answering ⟨true, text⟩, signer⟩ : StellarRail Unit).verifySplit crates
        receipt ()).1 = .ok true :=
      StellarRail.verifySplit_eq_true.mpr
        ⟨checked, legs, rebuilt, ⟨true, text⟩, _, _, binds, rfl, binds.accepts read⟩
    obtain ⟨binding, record, v1, source, issuer, dests, -, -, -, proved⟩ :=
      sound Unit (answering ⟨true, text⟩) () accepted
    have same : checked.binding = binding :=
      Option.some.inj (binds.parsed.symm.trans proved.parsed)
    subst binding
    have divides := proved.feeDivides
    rw [proved.fee] at divides
    exact divides
  · intro divides σ rpc world accepted
    obtain ⟨checked, legs, rebuilt, record, v1, decoded, binds, served, holds⟩ :=
      StellarRail.verifySplit_eq_true.mp accepted
    exact ⟨checked.binding, record, v1, checked.sourcePk, checked.issuer, _, served,
      holds.successful, holds.envelope, holds.proves binds hex (divides checked legs rebuilt binds)⟩

/-- A bid of 201 for two legs is accepted, and the envelope's fee is odd. -/
theorem odd_bid_accepted :
    ((Instance.rail Instance.oddSplitRecord).verifySplit Instance.crates
      (Instance.splitReceipt 201) ()).1 = .ok true ∧
    ¬ SplitSound Instance.crates (Instance.rail Instance.oddSplitRecord)
      (Instance.splitReceipt 201) () := by
  have accepted : ((Instance.rail Instance.oddSplitRecord).verifySplit Instance.crates
      (Instance.splitReceipt 201) ()).1 = .ok true := by decide +kernel
  refine ⟨accepted, ?_⟩
  intro sound
  obtain ⟨binding, record, v1, source, issuer, dests, -, -, -, proved⟩ := sound accepted
  have parsed : Instance.crates.splitFromSlice (Instance.splitReceipt 201).proof =
      some (Instance.splitBinding 201) := by decide +kernel
  have same : Instance.splitBinding 201 = binding :=
    Option.some.inj (parsed.symm.trans proved.parsed)
  subst binding
  have divides := proved.feeDivides
  rw [proved.fee] at divides
  revert divides
  decide

theorem even_bid_sound_iff :
    ((Instance.rail Instance.splitRecord).verifySplit Instance.crates
      (Instance.splitReceipt 200) ()).1 = .ok true ∧
    ((∀ (σ : Type) (rpc : StellarRpc σ) (world : σ),
      SplitSound Instance.crates ⟨⟨.testnet, Instance.issuerStr.text, 100⟩, rpc, none⟩
        (Instance.splitReceipt 200) world) ↔
    ∀ checked legs rebuilt, SplitBindingChecked Instance.crates
      ⟨.testnet, Instance.issuerStr.text, 100⟩ (Instance.splitReceipt 200) checked legs rebuilt →
      checked.binding.legs.length ∣ checked.binding.fee.toNat) := by
  have written : ∀ v1 : TransactionV1Envelope, OnlyPayments v1.tx →
      ∃ text, Instance.crates.envelopeFromXdrBase64 text = .ok (.tx v1) := by
    intro v1 _
    obtain ⟨text, -, read⟩ := Instance.envelopeFromXdrBase64_toXdrBase64 (.tx v1)
    exact ⟨text, read⟩
  have accepted : ((Instance.rail Instance.splitRecord).verifySplit Instance.crates
      (Instance.splitReceipt 200) ()).1 = .ok true := by decide +kernel
  exact ⟨accepted, verifySplit_sound_iff Instance.hexDecode_hexEncode written _ none _⟩

end Patala.Stellar
