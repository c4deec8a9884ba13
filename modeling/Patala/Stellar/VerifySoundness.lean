import Patala.Stellar.Checks
import Patala.Stellar.Instance

/-! An accepted single-payment receipt is one payment on the ledger, of exactly the
receipt's amount, to and from the accounts its binding names. -/

namespace Patala.Stellar

open Machine

/-- What an accepted receipt establishes about the transaction Horizon returned:
its only operation pays `dest` from `source` in the configured USDC. -/
structure PaymentProved (crates : Crates) (cfg : StellarConfig) (receipt : Receipt)
    (binding : StellarBinding) (tx : Transaction) (source dest issuer : PubKey) : Prop where
  parsed : crates.fromSlice receipt.proof = some binding
  issuerKey : crates.strkeyDecode cfg.usdcIssuer = some issuer
  sourceKey : crates.strkeyDecode binding.source.text = some source
  destKey : crates.strkeyDecode binding.destination.text = some dest
  paidBy : tx.sourceAccount = .ed25519 source
  operations : tx.operations.val =
    [⟨none, .payment ⟨.ed25519 dest, usdc issuer, binding.amountStroops⟩⟩]
  amount : binding.amountStroops.toInt = receipt.amountMinor.toNat
  positive : 0 < receipt.amountMinor.toNat
  bounded : receipt.amountMinor.toNat < 2 ^ 63
  seqNum : tx.seqNum = binding.seqNum
  fee : tx.fee = binding.fee
  memo : tx.memo =
    .hash (memoHash crates railId binding.source binding.destination receipt.reference)
  signed : SignedAs crates cfg.network.passphrase binding.txHash binding.signature source
    (buildTransaction source dest (usdc issuer) binding.amountStroops binding.seqNum binding.fee
      (memoHash crates railId binding.source binding.destination receipt.reference))

/-- An amount that was cast to a positive signed number is that number. -/
theorem cast_amount {minor : UInt64} {amount : Int64} (cast : amount = minor.toInt64)
    (positive : 0 < amount.toInt) :
    amount.toInt = minor.toNat ∧ 0 < minor.toNat ∧ minor.toNat < 2 ^ 63 := by
  have exactly := toNat_of_toInt64_pos cast positive
  have upper := amount.toInt_lt
  refine ⟨exactly.symm, ?_, ?_⟩
  · apply Int.natCast_pos.mp
    rw [exactly]
    exact positive
  · omega

theorem EnvelopeChecked.proves {crates : Crates} {cfg : StellarConfig} {receipt : Receipt}
    {checked : Checked} {record : TxRecord} {v1 : TransactionV1Envelope}
    (holds : EnvelopeChecked crates checked record v1)
    (binds : BindingChecked crates cfg receipt checked)
    (hex : ∀ bytes, crates.hexDecode (crates.hexEncode bytes) = some bytes) :
    PaymentProved crates cfg receipt checked.binding v1.tx checked.sourcePk checked.destPk
      checked.issuer := by
  obtain ⟨source, memo, seqNum, fee, -, operations, positive⟩ := holds.decoded
  obtain ⟨-, passphrase, issuerKey, -, -⟩ := checkAsset_eq_some.mp binds.asset
  have derived := decoded_hash hex binds.memoHash binds.memo
  have paid : 0 < checked.binding.amountStroops.toInt := positive _ (List.mem_singleton.mpr rfl)
  obtain ⟨amount, nonzero, bounded⟩ := cast_amount binds.amount paid
  have signed := binds.signed
  rw [passphrase, Checked.rebuilt, derived] at signed
  rw [derived] at memo
  exact ⟨binds.parsed, issuerKey, binds.source, binds.dest, source, operations, amount, nonzero,
    bounded, seqNum, fee, memo, signed⟩

/-- Whatever Horizon answers, an accepted receipt is proved by the envelope it
returned. -/
theorem verify_sound {crates : Crates}
    (hex : ∀ bytes, crates.hexDecode (crates.hexEncode bytes) = some bytes)
    {rail : StellarRail σ} {receipt : Receipt} {world : σ}
    (accepted : (rail.verify crates receipt world).1 = .ok true) :
    ∃ binding record v1 source dest issuer,
      Serves rail.rpc world binding.txHash record ∧ record.successful = true ∧
      envelopeFromXdrBase64 crates record.envelopeXdr = .ok (.tx v1) ∧
      PaymentProved crates rail.cfg receipt binding v1.tx source dest issuer := by
  obtain ⟨checked, record, v1, binds, served, holds⟩ := StellarRail.verify_eq_true.mp accepted
  exact ⟨checked.binding, record, v1, checked.sourcePk, checked.destPk, checked.issuer, served,
    holds.successful, holds.envelope, holds.proves binds hex⟩

theorem payReceipt_sound :
    ((Instance.rail Instance.payRecord).verify Instance.crates Instance.payReceipt ()).1 =
      .ok true ∧
    ∃ binding record v1 source dest issuer,
      Serves (Instance.rail Instance.payRecord).rpc () binding.txHash record ∧
      record.successful = true ∧
      envelopeFromXdrBase64 Instance.crates record.envelopeXdr = .ok (.tx v1) ∧
      PaymentProved Instance.crates (Instance.rail Instance.payRecord).cfg
        Instance.payReceipt binding v1.tx source dest issuer := by
  have accepted : ((Instance.rail Instance.payRecord).verify Instance.crates
      Instance.payReceipt ()).1 = .ok true := by decide +kernel
  exact ⟨accepted, verify_sound Instance.hexDecode_hexEncode accepted⟩

end Patala.Stellar
