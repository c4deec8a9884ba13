import Patala.Stellar.Charge
import Patala.Stellar.SplitSoundness

/-! What an honest Horizon includes is paid for: the charge answers with a receipt of
the requested amount, and the rail that issued it verifies it. -/

namespace Patala.Stellar

open Machine Fallible

/-- What is written is read back: hex, StrKey, XDR in base64, JSON, and signatures. -/
structure RoundTrips (crates : Crates) (signer : Option Keypair) : Prop where
  hex : ∀ bytes, crates.hexDecode (crates.hexEncode bytes) = some bytes
  strkey : ∀ key, crates.strkeyDecode (crates.strkeyEncode key).text = some key
  envelope : ∀ v1 text, OnlyPayments v1.tx → crates.envelopeToXdrBase64 (.tx v1) = .ok text →
    crates.envelopeFromXdrBase64 text = .ok (.tx v1)
  binding : ∀ binding, ∃ bytes, crates.toVec binding = .ok bytes ∧
    crates.fromSlice bytes = some binding
  splitBinding : ∀ binding, ∃ bytes, crates.splitToVec binding = .ok bytes ∧
    crates.splitFromSlice bytes = some binding
  signature : ∀ keypair, signer = some keypair → ∀ msg,
    crates.ed25519Verify keypair.pubkey msg (keypair.sign msg) = true

section Preparing

variable {crates : Crates} {rail : StellarRail σ}

theorem requireSigner_ok_iff {operation : String} {signer : Keypair} :
    requireSigner rail operation = .ok signer ↔ rail.signer = some signer := okOr_ok_iff

theorem configuredIssuer_ok_iff {cfg : StellarConfig} {issuer : PubKey} :
    configuredIssuer crates cfg = .ok issuer ↔
      crates.strkeyDecode cfg.usdcIssuer = some issuer := by
  rw [configuredIssuer, mapError_eq_ok, fromStrkey_ok_iff]

/-- Everything checked about a request before Horizon is asked for anything. -/
structure PreparedFrom (crates : Crates) (rail : StellarRail σ) (req : PayRequest)
    (prepared : Prepared) : Prop where
  valid : req.validate = .ok ()
  currency : req.currency = "USDC"
  signer : rail.signer = some prepared.signer
  dest : crates.strkeyDecode req.destination.text = some prepared.dest
  issuer : crates.strkeyDecode rail.cfg.usdcIssuer = some prepared.issuer
  asset : prepared.asset = usdc prepared.issuer
  amount : tryInt64 req.amountMinor = some prepared.amount

theorem prepare_ok_iff {req : PayRequest} {prepared : Prepared} :
    prepare crates rail req = .ok prepared ↔ PreparedFrom crates rail req prepared := by
  simp only [prepare, bind_eq_ok, insist_ok_iff, okOr_ok_iff, mapError_eq_ok, requireSigner_ok_iff,
    configuredIssuer_ok_iff, fromStrkey_ok_iff, exists_const]
  constructor
  · rintro ⟨_, valid, currency, signer, signs, dest, decoded, issuer, configured, asset, isAsset,
      amount, converted, built⟩
    have same := Except.ok.inj built
    subst prepared
    have isUsdc : usdc issuer = asset := Except.ok.inj isAsset
    exact ⟨valid, currency, signs, decoded, configured, isUsdc.symm, converted⟩
  · rintro ⟨valid, currency, signs, decoded, configured, isUsdc, converted⟩
    refine ⟨(), valid, currency, _, signs, _, decoded, _, configured, _, usdcAsset_usdc _, _,
      converted, ?_⟩
    rw [← isUsdc]
    rfl

theorem PreparedFrom.positive {req : PayRequest} {prepared : Prepared}
    (holds : PreparedFrom crates rail req prepared) : 0 < prepared.amount.toInt := by
  have exactly := tryInt64_eq_some.mp holds.amount
  have nonzero : req.amountMinor.toNat ≠ 0 := by
    intro zero
    exact PayRequest.amount_ne_zero holds.valid (UInt64.toNat_inj.mp zero)
  omega

/-- The exact sum of a split's requested amounts. -/
def requestedSum (legs : List SplitLeg) : Int :=
  (legs.map fun leg => (leg.amountMinor.toNat : Int)).sum

theorem prepareLegs_ok {asset : Asset} {index : Nat} {legs : List SplitLeg}
    {paid : List PaymentLeg} {pairs : List (Str × Int64)}
    (success : prepareLegs crates asset index legs = .ok (paid, pairs)) :
    readLegs crates asset pairs = some paid ∧ legSum paid = requestedSum legs := by
  induction legs generalizing index paid pairs with
  | nil =>
    obtain ⟨rfl, rfl⟩ := Prod.mk.inj (Except.ok.inj success)
    exact ⟨rfl, rfl⟩
  | cons leg rest ih =>
    simp only [prepareLegs, bind_eq_ok, okOr_ok_iff, mapError_eq_ok, fromStrkey_ok_iff] at success
    obtain ⟨dest, here, amount, converted, ⟨others, otherPairs⟩, later, built⟩ := success
    obtain ⟨rfl, rfl⟩ := Prod.mk.inj (Except.ok.inj built)
    obtain ⟨read, summed⟩ := ih later
    refine ⟨by simp [readLegs, here, read], ?_⟩
    simp only [legSum, requestedSum, List.map_cons, List.sum_cons] at summed ⊢
    rw [summed, tryInt64_eq_some.mp converted]

/-- Everything checked about a split before Horizon is asked for anything. -/
structure SplitPreparedFrom (crates : Crates) (rail : StellarRail σ) (legs : List SplitLeg)
    (prepared : SplitPrepared) : Prop where
  signer : rail.signer = some prepared.signer
  issuer : crates.strkeyDecode rail.cfg.usdcIssuer = some prepared.issuer
  read : readLegs crates (usdc prepared.issuer) prepared.pairs = some prepared.legs
  summed : legSum prepared.legs = requestedSum legs

theorem prepareSplit_ok {legs : List SplitLeg} {reference : Str} {prepared : SplitPrepared}
    (success : prepareSplit crates rail legs reference = .ok prepared) :
    SplitPreparedFrom crates rail legs prepared := by
  simp only [prepareSplit, bind_eq_ok, insist_ok_iff, mapError_eq_ok, requireSigner_ok_iff,
    configuredIssuer_ok_iff, exists_const] at success
  obtain ⟨-, signer, signs, issuer, configured, asset, isAsset, ⟨paid, pairs⟩, each, built⟩ :=
    success
  have isUsdc : usdc issuer = asset := Except.ok.inj isAsset
  subst asset
  have same := Except.ok.inj built
  subst prepared
  obtain ⟨read, summed⟩ := prepareLegs_ok each
  exact ⟨signs, configured, read, summed⟩

end Preparing

section Sealing

variable {crates : Crates} {cfg : StellarConfig}

theorem signAndEncode_ok {signer : Keypair} {unsigned : Transaction} {sealed : Sealed}
    (success : signAndEncode crates cfg signer unsigned = .ok sealed) :
    txHash crates (networkId crates cfg.network.passphrase) unsigned = .ok sealed.hash ∧
      sealed.signature = signer.sign sealed.hash.toList ∧
      crates.envelopeToXdrBase64 (envelope unsigned signer.pubkey sealed.signature) =
        .ok sealed.text := by
  unfold signAndEncode at success
  obtain ⟨hash, hashed, success⟩ := bind_eq_ok.mp success
  obtain ⟨text, encoded, success⟩ := bind_eq_ok.mp success
  have same := Except.ok.inj success
  subst sealed
  exact ⟨hashed, rfl, mapError_eq_ok.mp encoded⟩

/-- What was sealed passes the offline checks of the transaction it was sealed from. -/
theorem signAndEncode_signedAs {signer : Option Keypair} (laws : RoundTrips crates signer)
    {keypair : Keypair} (signs : signer = some keypair) {unsigned : Transaction} {sealed : Sealed}
    (success : signAndEncode crates cfg keypair unsigned = .ok sealed) :
    SignedAs crates cfg.network.passphrase (crates.hexEncode sealed.hash.toList)
      (crates.hexEncode sealed.signature.toList) keypair.pubkey unsigned := by
  obtain ⟨hashed, signed, -⟩ := signAndEncode_ok success
  refine ⟨sealed.signature, sealed.hash, laws.hex _, hashed, laws.hex _, ?_⟩
  rw [signed]
  exact laws.signature keypair signs sealed.hash.toList

/-- The submitted text decodes to the transaction that was sealed. -/
theorem signAndEncode_envelope {signer : Option Keypair} (laws : RoundTrips crates signer)
    {keypair : Keypair} {unsigned : Transaction} {sealed : Sealed} (only : OnlyPayments unsigned)
    (success : signAndEncode crates cfg keypair unsigned = .ok sealed) :
    ∃ v1, v1.tx = unsigned ∧ envelopeFromXdrBase64 crates sealed.text = .ok (.tx v1) := by
  obtain ⟨-, -, encoded⟩ := signAndEncode_ok success
  exact ⟨_, rfl, mapError_eq_ok.mpr (laws.envelope _ _ only encoded)⟩

/-- Horizon includes what was submitted and reports success under its own hash. -/
def Includes (crates : Crates) (rpc : StellarRpc σ) (sealed : Sealed) (world last : σ) : Prop :=
  rpc.submitTransaction sealed.text world =
    (.ok ⟨crates.hexEncode sealed.hash.toList, true⟩, last)

theorem submit_of_includes {rail : StellarRail σ} {sealed : Sealed} {world last : σ}
    (included : Includes crates rail.rpc sealed world last) (failure : String) :
    submit crates rail failure sealed world =
      (.ok (crates.hexEncode sealed.hash.toList), last) := by
  have answer : rail.rpc.submitTransaction sealed.text world = _ := included
  simp only [submit, answer, insist, ↓reduceIte]
  rfl

end Sealing

section Single

/-- A charge that got as far as submitting: what it prepared, the sequence number it
was given and what it sealed. -/
structure PaymentSubmitted (crates : Crates) (rail : StellarRail σ) (req : PayRequest)
    (world next : σ) (prepared : Prepared) (seqNum : Int64) (sealed : Sealed) : Prop where
  accepted : prepare crates rail req = .ok prepared
  sequence : nextSequence crates rail prepared.signer.pubkey world = (.ok seqNum, next)
  sealed : signAndEncode crates rail.cfg prepared.signer
    (unsignedPayment crates rail.cfg req prepared seqNum) = .ok sealed

variable {crates : Crates} {rail : StellarRail σ} {req : PayRequest} {world next : σ}
  {prepared : Prepared} {seqNum : Int64} {sealed : Sealed}

/-- The receipt of an included payment, around its proof. -/
def paymentReceipt (req : PayRequest) (proof : List UInt8) (now : UInt64) : Receipt :=
  ⟨railId.text, req.amountMinor, req.currency, req.reference, proof, now⟩

theorem PaymentSubmitted.charge_eq
    (submitted : PaymentSubmitted crates rail req world next prepared seqNum sealed)
    (included : Includes crates rail.rpc sealed next last) {proof : List UInt8}
    (written : crates.toVec (paymentBinding crates rail.cfg req prepared seqNum sealed
      (crates.hexEncode sealed.hash.toList)) = .ok proof) (now : UInt64) :
    rail.charge crates req now world = (.ok (paymentReceipt req proof now), last) := by
  obtain ⟨accepted, sequence, sealing⟩ := submitted
  simp only [StellarRail.charge, accepted, sequence, sealing, submit_of_includes included, issue,
    encodeProof, written]
  rfl

/-- The issued receipt passes the offline checks. -/
theorem PaymentSubmitted.bindingChecked (laws : RoundTrips crates rail.signer)
    (submitted : PaymentSubmitted crates rail req world next prepared seqNum sealed)
    {proof : List UInt8} (parsed : crates.fromSlice proof = some (paymentBinding crates rail.cfg req
      prepared seqNum sealed (crates.hexEncode sealed.hash.toList))) (now : UInt64) :
    BindingChecked crates rail.cfg (paymentReceipt req proof now)
      ⟨paymentBinding crates rail.cfg req prepared seqNum sealed
        (crates.hexEncode sealed.hash.toList), prepared.issuer, prepared.signer.pubkey,
        prepared.dest, memoHash crates railId (crates.strkeyEncode prepared.signer.pubkey)
          req.destination req.reference⟩ := by
  have holds := prepare_ok_iff.mp submitted.accepted
  have signed := signAndEncode_signedAs laws holds.signer submitted.sealed
  simp only [unsignedPayment, holds.asset] at signed
  exact {
    rail := rfl
    currency := holds.currency
    parsed := parsed
    asset := checkAsset_eq_some.mpr ⟨rfl, rfl, holds.issuer, rfl, rfl⟩
    amount := tryInt64_eq_toInt64 holds.amount
    memoHash := rfl
    source := laws.strkey _
    dest := holds.dest
    memo := laws.hex _
    signed := signed }

theorem PaymentSubmitted.onlyPayments :
    OnlyPayments (unsignedPayment crates rail.cfg req prepared seqNum) := by
  intro op member
  exact ⟨_, List.mem_singleton.mp member⟩

/-- The submitted envelope decodes to the payment that was prepared. -/
theorem PaymentSubmitted.decodedFrom
    (submitted : PaymentSubmitted crates rail req world next prepared seqNum sealed) :
    DecodedFrom (unsignedPayment crates rail.cfg req prepared seqNum)
      ⟨prepared.signer.pubkey, seqNum, rail.cfg.baseFeeStroops,
        memoHash crates railId (crates.strkeyEncode prepared.signer.pubkey) req.destination
          req.reference, [⟨prepared.dest, usdc prepared.issuer, prepared.amount⟩]⟩ := by
  have holds := prepare_ok_iff.mp submitted.accepted
  refine ⟨rfl, rfl, rfl, rfl, by simp, ?_, ?_⟩
  · rw [← holds.asset]
    rfl
  · intro leg member
    rw [List.mem_singleton.mp member]
    exact holds.positive

/-- An included payment is answered with a receipt that verifies. -/
theorem PaymentSubmitted.complete (laws : RoundTrips crates rail.signer)
    (submitted : PaymentSubmitted crates rail req world next prepared seqNum sealed)
    (included : Includes crates rail.rpc sealed next last) (now : UInt64) :
    ∃ receipt, rail.charge crates req now world = (.ok receipt, last) ∧
      receipt.amountMinor = req.amountMinor ∧
      ∀ later, Serves rail.rpc later (crates.hexEncode sealed.hash.toList) ⟨true, sealed.text⟩ →
        (rail.verify crates receipt later).1 = .ok true := by
  obtain ⟨proof, written, parsed⟩ := laws.binding (paymentBinding crates rail.cfg req prepared
    seqNum sealed (crates.hexEncode sealed.hash.toList))
  refine ⟨paymentReceipt req proof now, submitted.charge_eq included written now, rfl, ?_⟩
  intro later served
  obtain ⟨v1, same, read⟩ :=
    signAndEncode_envelope laws PaymentSubmitted.onlyPayments submitted.sealed
  have decoded := submitted.decodedFrom
  rw [← same] at decoded
  exact StellarRail.verify_eq_true.mpr ⟨_, _, v1, submitted.bindingChecked laws parsed now, served,
    rfl, read, decoded⟩

end Single

section Split

/-- A split that got as far as submitting, with the fee it bids. -/
structure SplitSubmitted (crates : Crates) (rail : StellarRail σ) (legs : List SplitLeg)
    (reference : Str) (world next : σ) (prepared : SplitPrepared) (seqNum : Int64) (fee : UInt32)
    (unsigned : Transaction) (sealed : Sealed) : Prop where
  accepted : prepareSplit crates rail legs reference = .ok prepared
  sequence : nextSequence crates rail prepared.signer.pubkey world = (.ok seqNum, next)
  built : unsignedSplit crates rail.cfg reference prepared seqNum = .ok (fee, unsigned)
  sealed : signAndEncode crates rail.cfg prepared.signer unsigned = .ok sealed

variable {crates : Crates} {rail : StellarRail σ} {legs : List SplitLeg} {reference : Str}
  {world next : σ} {prepared : SplitPrepared} {seqNum : Int64} {fee : UInt32}
  {unsigned : Transaction} {sealed : Sealed}

theorem unsignedSplit_ok {cfg : StellarConfig}
    (success : unsignedSplit crates cfg reference prepared seqNum = .ok (fee, unsigned)) :
    totalFee cfg.baseFeeStroops prepared.legs.length = .ok fee ∧
      Built prepared.signer.pubkey prepared.legs seqNum cfg.baseFeeStroops
        (splitMemoHash crates railId (crates.strkeyEncode prepared.signer.pubkey) reference
          prepared.pairs) unsigned := by
  simp only [unsignedSplit, bind_eq_ok, buildPaymentTransaction_ok_iff] at success
  obtain ⟨bid, priced, tx, built, answered⟩ := success
  obtain ⟨rfl, rfl⟩ := Prod.mk.inj (Except.ok.inj answered)
  exact ⟨priced, built⟩

/-- Both sums run over the same amounts. -/
theorem sumLegs_of_read {asset : Asset} {pairs : List (Str × Int64)} {paid : List PaymentLeg}
    (read : readLegs crates asset pairs = some paid) {index : Nat} {total sum : Int64}
    (success : totalAmountFrom index total paid = .ok sum) : sumLegs total pairs = some sum := by
  have matched := readLegs_eq_some.mp read
  clear read
  induction matched generalizing index total with
  | nil =>
    have same := Except.ok.inj success
    subst sum
    rfl
  | cons here _ ih =>
    obtain ⟨-, -, amount⟩ := here
    unfold totalAmountFrom at success
    split at success
    · cases success
    rename_i added
    rw [amount] at added
    simp only [sumLegs, added]
    exact ih success

/-- A transaction is rebuilt from its total bid: the bid divided by the leg count is
the fee it was multiplied from. -/
theorem Built.rebuilt {source : PubKey} {paid : List PaymentLeg} {seqNum : Int64}
    {baseFee fee : UInt32} {memo : Bytes 32} {tx : Transaction}
    (built : Built source paid seqNum baseFee memo tx)
    (priced : totalFee baseFee paid.length = .ok fee) :
    ∃ count, tryUInt32 paid.length = some count ∧ 0 < count ∧
      Built source paid seqNum (fee / count) memo tx := by
  obtain ⟨small, product⟩ := totalFee_ok_iff.mp priced
  have exactly : (UInt32.ofNat paid.length).toNat = paid.length := UInt32.toNat_ofNat_of_lt' small
  have positive : 0 < paid.length := List.length_pos_iff.mpr built.nonempty
  have perOperation : fee / UInt32.ofNat paid.length = baseFee := by
    apply UInt32.toNat_inj.mp
    rw [UInt32.toNat_div, product, exactly]
    exact Nat.mul_div_cancel _ positive
  refine ⟨UInt32.ofNat paid.length, tryUInt32_eq_some.mpr exactly, ?_, ?_⟩
  · apply UInt32.lt_iff_toNat_lt.mpr
    rw [exactly]
    exact positive
  · rw [perOperation]
    exact built

/-- The receipt of an included split, around its proof. -/
def splitReceipt (reference : Str) (total : Int64) (proof : List UInt8) (now : UInt64) : Receipt :=
  ⟨railId.text, total.toUInt64, "USDC", reference, proof, now⟩

theorem SplitSubmitted.chargeSplit_eq
    (submitted : SplitSubmitted crates rail legs reference world next prepared seqNum fee unsigned
      sealed)
    (included : Includes crates rail.rpc sealed next last) {total : Int64}
    (summed : totalAmount prepared.legs = .ok total) {proof : List UInt8}
    (written : crates.splitToVec (splitBinding crates rail.cfg reference prepared seqNum fee sealed
      (crates.hexEncode sealed.hash.toList)) = .ok proof) (now : UInt64) :
    rail.chargeSplit crates legs reference now world =
      (.ok (splitReceipt reference total proof now), last) := by
  obtain ⟨accepted, sequence, built, sealing⟩ := submitted
  simp only [StellarRail.chargeSplit, accepted, sequence, built, sealing,
    submit_of_includes included, issueSplit, encodeProof, written, summed]
  rfl

/-- The issued split receipt passes the offline checks. -/
theorem SplitSubmitted.bindingChecked (laws : RoundTrips crates rail.signer)
    (submitted : SplitSubmitted crates rail legs reference world next prepared seqNum fee unsigned
      sealed) {total : Int64} (summed : totalAmount prepared.legs = .ok total)
    {proof : List UInt8} (parsed : crates.splitFromSlice proof = some (splitBinding crates rail.cfg
      reference prepared seqNum fee sealed (crates.hexEncode sealed.hash.toList))) (now : UInt64) :
    SplitBindingChecked crates rail.cfg (splitReceipt reference total proof now)
      ⟨splitBinding crates rail.cfg reference prepared seqNum fee sealed
        (crates.hexEncode sealed.hash.toList), prepared.issuer, prepared.signer.pubkey,
        splitMemoHash crates railId (crates.strkeyEncode prepared.signer.pubkey) reference
          prepared.pairs⟩ prepared.legs unsigned := by
  have holds := prepareSplit_ok submitted.accepted
  obtain ⟨priced, built⟩ := unsignedSplit_ok submitted.built
  have lengths : prepared.pairs.length = prepared.legs.length :=
    (readLegs_eq_some.mp holds.read).length_eq
  have nonempty : prepared.pairs ≠ [] := by
    intro empty
    apply built.nonempty
    apply List.length_eq_zero_iff.mp
    rw [← lengths, empty]
    rfl
  exact {
    rail := rfl
    currency := rfl
    parsed := parsed
    asset := checkAsset_eq_some.mpr ⟨rfl, rfl, holds.issuer, rfl, rfl⟩
    nonempty := nonempty
    amount := sumLegs_of_read holds.read summed
    memoHash := rfl
    source := laws.strkey _
    read := holds.read
    memo := laws.hex _
    built := built.rebuilt priced
    signed := signAndEncode_signedAs laws holds.signer submitted.sealed }

/-- An included split is answered with a receipt that verifies. -/
theorem SplitSubmitted.complete (laws : RoundTrips crates rail.signer)
    (submitted : SplitSubmitted crates rail legs reference world next prepared seqNum fee unsigned
      sealed)
    (included : Includes crates rail.rpc sealed next last) (now : UInt64) :
    ∃ receipt, rail.chargeSplit crates legs reference now world = (.ok receipt, last) ∧
      receipt.amountMinor.toNat = requestedSum legs ∧
      ∀ later, Serves rail.rpc later (crates.hexEncode sealed.hash.toList) ⟨true, sealed.text⟩ →
        (rail.verifySplit crates receipt later).1 = .ok true := by
  have holds := prepareSplit_ok submitted.accepted
  obtain ⟨priced, built⟩ := unsignedSplit_ok submitted.built
  obtain ⟨total, summed⟩ := built.summed
  obtain ⟨proof, written, parsed⟩ := laws.splitBinding (splitBinding crates rail.cfg reference
    prepared seqNum fee sealed (crates.hexEncode sealed.hash.toList))
  have binds := submitted.bindingChecked laws summed parsed now
  refine ⟨splitReceipt reference total proof now,
    submitted.chargeSplit_eq included summed written now, ?_, ?_⟩
  · rw [← holds.summed, ← pairSum_of_read holds.read]
    exact binds.amount_eq.symm
  · intro later served
    obtain ⟨v1, same, read⟩ := signAndEncode_envelope laws built.onlyPayments submitted.sealed
    have decoded := built.decodedFrom
    have fees : unsigned.fee = fee := Except.ok.inj (built.fee.symm.trans priced)
    rw [← same] at decoded fees
    rw [fees] at decoded
    exact StellarRail.verifySplit_eq_true.mpr ⟨_, _, _, _, v1, _, binds, served, rfl, read, decoded,
      legsMatch_of_read holds.read⟩

end Split

/-- What was submitted under its own hash and included is answered with a receipt of
the requested amount, which the same rail verifies from then on. -/
theorem charge_complete {crates : Crates} (rail : StellarRail σ)
    (laws : RoundTrips crates rail.signer) :
    (∀ req now world next last prepared seqNum sealed,
      PaymentSubmitted crates rail req world next prepared seqNum sealed →
      Includes crates rail.rpc sealed next last →
      ∃ receipt, rail.charge crates req now world = (.ok receipt, last) ∧
        receipt.amountMinor = req.amountMinor ∧
        ∀ later, Serves rail.rpc later (crates.hexEncode sealed.hash.toList) ⟨true, sealed.text⟩ →
          (rail.verify crates receipt later).1 = .ok true) ∧
    ∀ legs reference now world next last prepared seqNum fee unsigned sealed,
      SplitSubmitted crates rail legs reference world next prepared seqNum fee unsigned sealed →
      Includes crates rail.rpc sealed next last →
      ∃ receipt, rail.chargeSplit crates legs reference now world = (.ok receipt, last) ∧
        receipt.amountMinor.toNat = requestedSum legs ∧
        ∀ later, Serves rail.rpc later (crates.hexEncode sealed.hash.toList) ⟨true, sealed.text⟩ →
          (rail.verifySplit crates receipt later).1 = .ok true := by
  constructor
  · intro req now world next last prepared seqNum sealed submitted included
    exact submitted.complete laws included now
  · intro legs reference now world next last prepared seqNum fee unsigned sealed submitted included
    exact submitted.complete laws included now

section Invoices

open Instance

private theorem crates_roundTrips : RoundTrips Instance.crates (some keypair) where
  hex := hexDecode_hexEncode
  strkey := strkeyDecode_strkeyEncode
  envelope v1 text _ written := by
    obtain ⟨text', written', read⟩ := envelopeFromXdrBase64_toXdrBase64 (.tx v1)
    have same : text' = text := Except.ok.inj (written'.symm.trans written)
    subst text'
    exact read
  binding := fromSlice_toVec
  splitBinding := splitFromSlice_splitToVec
  signature signer same msg := by
    have known := Option.some.inj same
    subst signer
    exact ed25519Verify_sign msg

/-- The invoice's request, and the same invoice split between two payees. -/
def invoiceRequest : PayRequest := ⟨12500000, "USDC", shopStr, invoice7⟩

def invoiceLegs : List SplitLeg := [⟨shopStr, 7000000⟩, ⟨tipJarStr, 3000000⟩]

private theorem invoiceRequest_submitted :
    PaymentSubmitted Instance.crates (liveRail payHash) invoiceRequest none none
      ⟨keypair, shop, issuer, usdc issuer, 12500000⟩ 101 ⟨payHash, paySig, payEnvelope⟩ where
  accepted := prepare_ok_iff.mpr {
    valid := by decide
    currency := rfl
    signer := rfl
    dest := by decide
    issuer := by decide
    asset := rfl
    amount := by decide }
  sequence := by decide +kernel
  sealed := by decide +kernel

private theorem invoiceLegs_submitted :
    SplitSubmitted Instance.crates (liveRail splitHash) invoiceLegs invoice7 none none
      ⟨keypair, issuer, [⟨shop, usdc issuer, 7000000⟩, ⟨tipJar, usdc issuer, 3000000⟩],
        splitLegs⟩ 101 200 (splitTx 200) ⟨splitHash, splitSig, splitEnvelope⟩ where
  accepted := by
    have each : prepareLegs Instance.crates (usdc issuer) 0 invoiceLegs =
        .ok ([⟨shop, usdc issuer, 7000000⟩, ⟨tipJar, usdc issuer, 3000000⟩], splitLegs) := by
      decide
    have named : trim invoice7.text ≠ "" := by decide
    have configured : Instance.crates.strkeyDecode issuerStr.text = some issuer := by
      decide
    simp only [prepareSplit, bind_eq_ok, insist_ok_iff, mapError_eq_ok, requireSigner_ok_iff,
      configuredIssuer_ok_iff, exists_const]
    exact ⟨named, _, rfl, _, configured, _, usdcAsset_usdc _, _, each, rfl⟩
  sequence := by decide +kernel
  built := by decide +kernel
  sealed := by decide +kernel

theorem invoice_charges_verify :
    (∃ receipt, ((liveRail payHash).charge Instance.crates invoiceRequest 1700000000 none) =
        (.ok receipt, some payEnvelope) ∧ receipt.amountMinor = 12500000 ∧
      ((liveRail payHash).verify Instance.crates receipt (some payEnvelope)).1 = .ok true) ∧
    ∃ receipt, ((liveRail splitHash).chargeSplit Instance.crates invoiceLegs invoice7 1700000000
        none) = (.ok receipt, some splitEnvelope) ∧ (receipt.amountMinor.toNat : Int) = 10000000 ∧
      ((liveRail splitHash).verifySplit Instance.crates receipt (some splitEnvelope)).1 =
        .ok true := by
  constructor
  · obtain ⟨receipt, charged, amount, verifies⟩ :=
      (charge_complete (liveRail payHash) crates_roundTrips).1 invoiceRequest 1700000000 none
        none (some payEnvelope) _ _ _ invoiceRequest_submitted rfl
    have served : Serves (liveRail payHash).rpc (some payEnvelope)
        (Codec.hexEncode payHash.toList) ⟨true, payEnvelope⟩ := by simp [Serves, liveRail]
    exact ⟨receipt, charged, amount, verifies (some payEnvelope) served⟩
  · obtain ⟨receipt, charged, amount, verifies⟩ :=
      (charge_complete (liveRail splitHash) crates_roundTrips).2 invoiceLegs invoice7
        1700000000 none none (some splitEnvelope) _ _ _ _ _ invoiceLegs_submitted rfl
    have served : Serves (liveRail splitHash).rpc (some splitEnvelope)
        (Codec.hexEncode splitHash.toList) ⟨true, splitEnvelope⟩ := by simp [Serves, liveRail]
    exact ⟨receipt, charged, amount, verifies (some splitEnvelope) served⟩

end Invoices

end Patala.Stellar
