import Patala.Lib.Fallible
import Patala.Stellar.Verify

/-! The verifiers' checks as facts: each check succeeds exactly when the conditions
it states hold together. -/

namespace Patala.Stellar

open Machine Fallible

section

variable {crates : Crates}

/-- The claimed hash and signature are those of the rebuilt transaction. -/
def SignedAs (crates : Crates) (passphrase claimed signature : String) (source : PubKey)
    (rebuilt : Transaction) : Prop :=
  ∃ (sig : Sig) (hash : Bytes 32), crates.hexDecode signature = some sig.toList ∧
    txHash crates (networkId crates passphrase) rebuilt = .ok hash ∧
    crates.hexDecode claimed = some hash.toList ∧
    crates.ed25519Verify source hash.toList sig = true

theorem hexArray_eq_some {text : String} {array : Bytes n} :
    hexArray crates n text = some array ↔ crates.hexDecode text = some array.toList := by
  unfold hexArray
  cases crates.hexDecode text with
  | none => simp
  | some bytes => simp [toArray?_eq_some]

/-- A hash read back from a text that was written from a hash is that hash. -/
theorem decoded_hash {text : String} {wrote read : Bytes 32}
    (hex : ∀ bytes, crates.hexDecode (crates.hexEncode bytes) = some bytes)
    (written : text = crates.hexEncode wrote.toList)
    (decoded : crates.hexDecode text = some read.toList) : read = wrote := by
  rw [written, hex] at decoded
  exact (List.Vector.toList_injective (Option.some.inj decoded)).symm

theorem checkAsset_eq_some {cfg : StellarConfig} {chain passphrase assetCode assetIssuer : String}
    {issuer : PubKey} :
    checkAsset crates cfg chain passphrase assetCode assetIssuer = some issuer ↔
      chain = "stellar" ∧ passphrase = cfg.network.passphrase ∧
        crates.strkeyDecode cfg.usdcIssuer = some issuer ∧ assetCode = "USDC" ∧
        assetIssuer = (crates.strkeyEncode issuer).text := by
  simp only [checkAsset, Option.bind_eq_bind, Option.bind_eq_some_iff, require_eq_some, exists_const,
    Option.pure_def, Option.some.injEq]
  constructor
  · rintro ⟨chain, passphrase, found, decoded, code, same, rfl⟩
    exact ⟨chain, passphrase, decoded, code, same⟩
  · rintro ⟨chain, passphrase, decoded, code, same⟩
    exact ⟨chain, passphrase, issuer, decoded, code, same, rfl⟩

theorem checkSigned_eq_some {passphrase claimed signature : String} {source : PubKey}
    {rebuilt : Transaction} {answer : Unit} :
    checkSigned crates passphrase claimed signature source rebuilt = some answer ↔
      SignedAs crates passphrase claimed signature source rebuilt := by
  simp only [checkSigned, SignedAs, Option.bind_eq_bind, Option.bind_eq_some_iff, require_eq_some,
    exists_const, toOption_eq_some, hexArray_eq_some]
  constructor
  · rintro ⟨sig, decoded, hash, hashed, bytes, claimed, rfl, signed⟩
    exact ⟨sig, hash, decoded, hashed, claimed, signed⟩
  · rintro ⟨sig, hash, decoded, hashed, claimed, signed⟩
    exact ⟨sig, decoded, hash, hashed, hash.toList, claimed, rfl, signed⟩

end

section Single

/-- The transaction a checked single payment is hashed from. -/
def Checked.rebuilt (checked : Checked) : Transaction :=
  buildTransaction checked.sourcePk checked.destPk (usdc checked.issuer)
    checked.binding.amountStroops checked.binding.seqNum checked.binding.fee checked.memo

/-- Everything the offline checks of a single payment check. -/
structure BindingChecked (crates : Crates) (cfg : StellarConfig) (receipt : Receipt)
    (checked : Checked) : Prop where
  rail : receipt.railId = railId.text
  currency : receipt.currency = "USDC"
  parsed : crates.fromSlice receipt.proof = some checked.binding
  asset : checkAsset crates cfg checked.binding.chain checked.binding.networkPassphrase
    checked.binding.assetCode checked.binding.assetIssuer = some checked.issuer
  amount : checked.binding.amountStroops = receipt.amountMinor.toInt64
  memoHash : checked.binding.memoHash = crates.hexEncode (memoHash crates railId
    checked.binding.source checked.binding.destination receipt.reference).toList
  source : crates.strkeyDecode checked.binding.source.text = some checked.sourcePk
  dest : crates.strkeyDecode checked.binding.destination.text = some checked.destPk
  memo : crates.hexDecode checked.binding.memoHash = some checked.memo.toList
  signed : SignedAs crates checked.binding.networkPassphrase checked.binding.txHash
    checked.binding.signature checked.sourcePk checked.rebuilt

theorem checkBinding_eq_some {crates : Crates} {cfg : StellarConfig} {receipt : Receipt}
    {checked : Checked} :
    checkBinding crates cfg receipt = some checked ↔ BindingChecked crates cfg receipt checked := by
  simp only [checkBinding, Option.bind_eq_bind, Option.bind_eq_some_iff, require_eq_some,
    exists_const, toOption_eq_some, hexArray_eq_some, checkSigned_eq_some, Option.pure_def,
    Option.some.injEq]
  constructor
  · rintro ⟨rail, currency, binding, parsed, issuer, asset, amount, memoHash, sourcePk, source,
      destPk, dest, memo, decoded, found, built, signed, rfl⟩
    obtain ⟨-, -, -, code, -⟩ := checkAsset_eq_some.mp asset
    rw [code, usdcAsset_usdc] at built
    have same : usdc issuer = found := Except.ok.inj built
    subst found
    exact ⟨rail, currency, parsed, asset, amount, memoHash, source, dest, decoded, signed⟩
  · rintro ⟨rail, currency, parsed, asset, amount, memoHash, source, dest, decoded, signed⟩
    obtain ⟨-, -, -, code, -⟩ := checkAsset_eq_some.mp asset
    refine ⟨rail, currency, checked.binding, parsed, checked.issuer, asset, amount, memoHash,
      checked.sourcePk, source, checked.destPk, dest, checked.memo, decoded, usdc checked.issuer,
      ?_, signed, rfl⟩
    rw [code, usdcAsset_usdc]

/-- The envelope holds exactly the payment that was rebuilt, under any preconditions
and signatures. -/
structure EnvelopeChecked (crates : Crates) (checked : Checked) (record : TxRecord)
    (v1 : TransactionV1Envelope) : Prop where
  successful : record.successful = true
  envelope : envelopeFromXdrBase64 crates record.envelopeXdr = .ok (.tx v1)
  decoded : DecodedFrom v1.tx ⟨checked.sourcePk, checked.binding.seqNum, checked.binding.fee,
    checked.memo, [⟨checked.destPk, usdc checked.issuer, checked.binding.amountStroops⟩]⟩

theorem checkEnvelope_iff {crates : Crates} {checked : Checked} {record : TxRecord} :
    checkEnvelope crates checked record = true ↔
      ∃ v1, EnvelopeChecked crates checked record v1 := by
  constructor
  · intro accepted
    unfold checkEnvelope at accepted
    obtain ⟨successful, accepted⟩ := Bool.and_eq_true_iff.mp accepted
    cases read : envelopeFromXdrBase64 crates record.envelopeXdr with
    | error error => simp [read] at accepted
    | ok env =>
      cases decodes : decodeSinglePayment env with
      | error error => simp [read, decodes] at accepted
      | ok decoded =>
        simp only [read, decodes, Bool.and_eq_true, decide_eq_true_eq, assetIs_iff] at accepted
        obtain ⟨⟨⟨⟨⟨⟨source, dest⟩, amount⟩, memo⟩, seqNum⟩, fee⟩, asset⟩ := accepted
        obtain ⟨v1, same, from_tx⟩ := decodeSinglePayment_ok_iff.mp decodes
        subst env
        rw [source, dest, amount, memo, seqNum, fee, asset] at from_tx
        exact ⟨v1, successful, read, from_tx⟩
  · rintro ⟨v1, successful, read, from_tx⟩
    have decodes : decodeSinglePayment (.tx v1) = .ok ⟨checked.sourcePk, checked.binding.seqNum,
        checked.binding.fee, checked.destPk, usdc checked.issuer, checked.binding.amountStroops,
        checked.memo⟩ :=
      decodeSinglePayment_ok_iff.mpr ⟨v1, rfl, from_tx⟩
    have asset : assetIs (usdc checked.issuer) "USDC" checked.issuer = true := assetIs_iff.mpr rfl
    simp [checkEnvelope, successful, read, decodes, asset]

end Single

section Split

/-- The legs of a split read under one asset. -/
theorem readLegs_eq_some {crates : Crates} {asset : Asset} {pairs : List (Str × Int64)}
    {legs : List PaymentLeg} :
    readLegs crates asset pairs = some legs ↔
      List.Forall₂ (fun pair leg => crates.strkeyDecode pair.1.text = some leg.destPk ∧
        leg.asset = asset ∧ leg.amount = pair.2) pairs legs := by
  induction pairs generalizing legs with
  | nil => simp [readLegs, eq_comm]
  | cons pair rest ih =>
    rcases pair with ⟨destination, amount⟩
    simp only [readLegs, Option.bind_eq_bind, Option.bind_eq_some_iff, Option.pure_def,
      Option.some.injEq, List.forall₂_cons_left_iff]
    constructor
    · rintro ⟨destPk, decoded, others, later, rfl⟩
      exact ⟨_, _, ⟨decoded, rfl, rfl⟩, ih.mp later, rfl⟩
    · rintro ⟨leg, others, ⟨decoded, sameAsset, sameAmount⟩, later, rfl⟩
      refine ⟨leg.destPk, decoded, others, ih.mpr later, ?_⟩
      rw [← sameAsset, ← sameAmount]

/-- A binding's legs and what a decoder read for them. -/
def LegsMatch (crates : Crates) (issuer : PubKey) (pairs : List (Str × Int64))
    (legs : List DecodedLeg) : Prop :=
  List.Forall₂ (fun pair leg => crates.strkeyDecode pair.1.text = some leg.destPk ∧
    leg.asset = usdc issuer ∧ leg.amount = pair.2) pairs legs

/-- The legs a verifier read match what they decode to. -/
theorem legsMatch_of_read {crates : Crates} {issuer : PubKey} {pairs : List (Str × Int64)}
    {legs : List PaymentLeg} (read : readLegs crates (usdc issuer) pairs = some legs) :
    LegsMatch crates issuer pairs (legs.map PaymentLeg.decoded) := by
  apply List.forall₂_map_right_iff.mpr
  exact readLegs_eq_some.mp read

theorem matchLegs_iff {crates : Crates} {issuer : PubKey} {pairs : List (Str × Int64)}
    {legs : List DecodedLeg} :
    matchLegs crates issuer pairs legs = true ↔ LegsMatch crates issuer pairs legs := by
  unfold LegsMatch
  induction pairs generalizing legs with
  | nil => cases legs <;> simp [matchLegs]
  | cons pair rest ih =>
    rcases pair with ⟨destination, amount⟩
    cases legs with
    | nil => simp [matchLegs]
    | cons leg others =>
      simp only [matchLegs, Bool.and_eq_true, decide_eq_true_eq, assetIs_iff, ih,
        List.forall₂_cons]
      constructor
      · rintro ⟨⟨⟨decoded, sameAmount⟩, sameAsset⟩, later⟩
        exact ⟨⟨decoded, sameAsset, sameAmount⟩, later⟩
      · rintro ⟨⟨decoded, sameAsset, sameAmount⟩, later⟩
        exact ⟨⟨⟨decoded, sameAmount⟩, sameAsset⟩, later⟩

/-- The exact sum of a binding's leg amounts. -/
def pairSum (pairs : List (Str × Int64)) : Int := (pairs.map fun pair => pair.2.toInt).sum

theorem sumLegs_eq_some {total sum : Int64} {pairs : List (Str × Int64)}
    (success : sumLegs total pairs = some sum) : sum.toInt = total.toInt + pairSum pairs := by
  induction pairs generalizing total with
  | nil =>
    have same : total = sum := Option.some.inj success
    subst sum
    simp [pairSum]
  | cons pair rest ih =>
    rcases pair with ⟨destination, amount⟩
    simp only [sumLegs, Option.bind_eq_bind, Option.bind_eq_some_iff] at success
    obtain ⟨next, added, later⟩ := success
    have exactly := checkedAdd_eq_some.mp added
    rw [ih later, exactly, pairSum, pairSum, List.map_cons, List.sum_cons, add_assoc]

/-- Everything the offline checks of a split check, with the legs they read and the
transaction they rebuild. -/
structure SplitBindingChecked (crates : Crates) (cfg : StellarConfig) (receipt : Receipt)
    (checked : SplitChecked) (legs : List PaymentLeg) (rebuilt : Transaction) : Prop where
  rail : receipt.railId = railId.text
  currency : receipt.currency = "USDC"
  parsed : crates.splitFromSlice receipt.proof = some checked.binding
  asset : checkAsset crates cfg checked.binding.chain checked.binding.networkPassphrase
    checked.binding.assetCode checked.binding.assetIssuer = some checked.issuer
  nonempty : checked.binding.legs ≠ []
  amount : sumLegs 0 checked.binding.legs = some receipt.amountMinor.toInt64
  memoHash : checked.binding.memoHash = crates.hexEncode (splitMemoHash crates railId
    checked.binding.source receipt.reference checked.binding.legs).toList
  source : crates.strkeyDecode checked.binding.source.text = some checked.sourcePk
  read : readLegs crates (usdc checked.issuer) checked.binding.legs = some legs
  memo : crates.hexDecode checked.binding.memoHash = some checked.memo.toList
  built : ∃ count, tryUInt32 legs.length = some count ∧ 0 < count ∧
    Built checked.sourcePk legs checked.binding.seqNum (checked.binding.fee / count) checked.memo
      rebuilt
  signed : SignedAs crates checked.binding.networkPassphrase checked.binding.txHash
    checked.binding.signature checked.sourcePk rebuilt

theorem checkSplitBinding_eq_some {crates : Crates} {cfg : StellarConfig} {receipt : Receipt}
    {checked : SplitChecked} :
    checkSplitBinding crates cfg receipt = some checked ↔
      ∃ legs rebuilt, SplitBindingChecked crates cfg receipt checked legs rebuilt := by
  simp only [checkSplitBinding, Option.bind_eq_bind, Option.bind_eq_some_iff, require_eq_some,
    exists_const, toOption_eq_some, hexArray_eq_some, checkSigned_eq_some, Option.pure_def,
    Option.some.injEq, buildPaymentTransaction_ok_iff]
  constructor
  · rintro ⟨rail, currency, binding, parsed, issuer, asset, nonempty, total, summed, amount,
      memoHash, sourcePk, source, found, isAsset, legs, read, memo, decoded, count, counted, positive,
      rebuilt, built, signed, rfl⟩
    obtain ⟨-, -, -, code, -⟩ := checkAsset_eq_some.mp asset
    rw [code, usdcAsset_usdc] at isAsset
    have same : usdc issuer = found := Except.ok.inj isAsset
    subst found
    rw [amount] at summed
    exact ⟨legs, rebuilt, rail, currency, parsed, asset, nonempty, summed, memoHash, source, read,
      decoded, ⟨count, counted, positive, built⟩, signed⟩
  · rintro ⟨legs, rebuilt, rail, currency, parsed, asset, nonempty, summed, memoHash, source, read,
      decoded, ⟨count, counted, positive, built⟩, signed⟩
    obtain ⟨-, -, -, code, -⟩ := checkAsset_eq_some.mp asset
    refine ⟨rail, currency, checked.binding, parsed, checked.issuer, asset, nonempty, _, summed, rfl,
      memoHash, checked.sourcePk, source, usdc checked.issuer, ?_, legs, read, checked.memo, decoded,
      count, counted, positive, rebuilt, built, signed, rfl⟩
    rw [code, usdcAsset_usdc]

/-- The envelope holds exactly the binding's legs in order. -/
structure SplitEnvelopeChecked (crates : Crates) (checked : SplitChecked) (record : TxRecord)
    (v1 : TransactionV1Envelope) (legs : List DecodedLeg) : Prop where
  successful : record.successful = true
  envelope : envelopeFromXdrBase64 crates record.envelopeXdr = .ok (.tx v1)
  decoded : DecodedFrom v1.tx ⟨checked.sourcePk, checked.binding.seqNum, checked.binding.fee,
    checked.memo, legs⟩
  matched : LegsMatch crates checked.issuer checked.binding.legs legs

theorem checkSplitEnvelope_iff {crates : Crates} {checked : SplitChecked} {record : TxRecord} :
    checkSplitEnvelope crates checked record = true ↔
      ∃ v1 legs, SplitEnvelopeChecked crates checked record v1 legs := by
  constructor
  · intro accepted
    unfold checkSplitEnvelope at accepted
    obtain ⟨successful, accepted⟩ := Bool.and_eq_true_iff.mp accepted
    cases read : envelopeFromXdrBase64 crates record.envelopeXdr with
    | error error => simp [read] at accepted
    | ok env =>
      cases decodes : decodePayments env with
      | error error => simp [read, decodes] at accepted
      | ok decoded =>
        simp only [read, decodes, Bool.and_eq_true, decide_eq_true_eq, matchLegs_iff] at accepted
        obtain ⟨⟨⟨⟨⟨-, source⟩, memo⟩, seqNum⟩, fee⟩, matched⟩ := accepted
        obtain ⟨v1, same, from_tx⟩ := decodePayments_ok_iff.mp decodes
        subst env
        rcases decoded with ⟨sourcePk, seq, bid, hash, legs⟩
        dsimp only at source memo seqNum fee matched
        subst sourcePk seq bid hash
        exact ⟨v1, legs, successful, read, from_tx, matched⟩
  · rintro ⟨v1, legs, successful, read, from_tx, matched⟩
    have decodes := decodePayments_ok_iff.mpr ⟨v1, rfl, from_tx⟩
    have lengths := List.Forall₂.length_eq matched
    simp [checkSplitEnvelope, successful, read, decodes, lengths, matchLegs_iff.mpr matched]

end Split

section Runs

/-- Horizon answers `record` when asked for a hash. -/
def Serves (rpc : StellarRpc σ) (world : σ) (hash : String) (record : TxRecord) : Prop :=
  (rpc.getTransaction hash world).1 = .ok (some record)

theorem readBack_eq_true {rpc : StellarRpc σ} {hash : String} {check : TxRecord → Bool}
    {world : σ} :
    (readBack rpc hash check world).1 = .ok true ↔
      ∃ record, Serves rpc world hash record ∧ check record = true := by
  unfold readBack Serves
  rcases rpc.getTransaction hash world with ⟨answer, next⟩
  rcases answer with error | _ | record <;> simp

/-- Both verifiers check offline first and ask Horizon about what they checked. -/
theorem checked_readBack_eq_true {rpc : StellarRpc σ} {offline : Option κ} (hash : κ → String)
    {online : κ → TxRecord → Bool} {world : σ} {outcome : Except Error Bool × σ}
    (refused : offline = none → outcome = (.ok false, world))
    (asked : ∀ checked, offline = some checked →
      outcome = readBack rpc (hash checked) (online checked) world) :
    outcome.1 = .ok true ↔
      ∃ checked record, offline = some checked ∧ Serves rpc world (hash checked) record ∧
        online checked record = true := by
  cases offline with
  | none =>
    rw [refused rfl]
    simp
  | some found =>
    rw [asked found rfl, readBack_eq_true]
    constructor
    · rintro ⟨record, served, passes⟩
      exact ⟨found, record, rfl, served, passes⟩
    · rintro ⟨checked, record, same, served, passes⟩
      have equal := Option.some.inj same
      subst checked
      exact ⟨record, served, passes⟩

theorem StellarRail.verify_eq_true {crates : Crates} {rail : StellarRail σ} {receipt : Receipt}
    {world : σ} :
    (rail.verify crates receipt world).1 = .ok true ↔
      ∃ checked record v1, BindingChecked crates rail.cfg receipt checked ∧
        Serves rail.rpc world checked.binding.txHash record ∧
        EnvelopeChecked crates checked record v1 := by
  have refused (bound : checkBinding crates rail.cfg receipt = none) :
      rail.verify crates receipt world = (.ok false, world) := by
    simp only [StellarRail.verify, bound]
  have asked (checked) (bound : checkBinding crates rail.cfg receipt = some checked) :
      rail.verify crates receipt world =
        readBack rail.rpc checked.binding.txHash (checkEnvelope crates checked) world := by
    simp only [StellarRail.verify, bound]
  rw [checked_readBack_eq_true (fun checked => checked.binding.txHash) refused asked]
  simp only [checkBinding_eq_some, checkEnvelope_iff, exists_and_left]

theorem StellarRail.verifySplit_eq_true {crates : Crates} {rail : StellarRail σ}
    {receipt : Receipt} {world : σ} :
    (rail.verifySplit crates receipt world).1 = .ok true ↔
      ∃ checked legs rebuilt record v1 decoded,
        SplitBindingChecked crates rail.cfg receipt checked legs rebuilt ∧
        Serves rail.rpc world checked.binding.txHash record ∧
        SplitEnvelopeChecked crates checked record v1 decoded := by
  have refused (bound : checkSplitBinding crates rail.cfg receipt = none) :
      rail.verifySplit crates receipt world = (.ok false, world) := by
    simp only [StellarRail.verifySplit, bound]
  have asked (checked) (bound : checkSplitBinding crates rail.cfg receipt = some checked) :
      rail.verifySplit crates receipt world =
        readBack rail.rpc checked.binding.txHash (checkSplitEnvelope crates checked) world := by
    simp only [StellarRail.verifySplit, bound]
  rw [checked_readBack_eq_true (fun checked => checked.binding.txHash) refused asked]
  simp only [checkSplitBinding_eq_some, checkSplitEnvelope_iff]
  constructor
  · rintro ⟨checked, record, ⟨legs, rebuilt, binds⟩, served, v1, decoded, holds⟩
    exact ⟨checked, legs, rebuilt, record, v1, decoded, binds, served, holds⟩
  · rintro ⟨checked, legs, rebuilt, record, v1, decoded, binds, served, holds⟩
    exact ⟨checked, record, ⟨legs, rebuilt, binds⟩, served, v1, decoded, holds⟩

end Runs

end Patala.Stellar
