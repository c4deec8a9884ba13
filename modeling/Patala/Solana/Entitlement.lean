import Patala.Solana.Exactness

/-! Whether an accepted receipt was paid for at all. A receipt names its own
amount, and zero is one it may name. -/

namespace Patala.Solana

open Machine Json

/-- The payer's balance of the configured mint fell and the destination's rose. -/
def Bought (crates : Crates) (cfg : SolanaConfig) (binding : SolanaBinding) (payer : PubKey)
    (txn : Value) : Prop :=
  exactDelta txn (cfg.mintBase58 crates) (pubkeyToBase58 crates payer) < 0 ∧
    0 < exactDelta txn (cfg.mintBase58 crates) binding.destination

/-- A receipt for something, in a transaction where neither party's net change has
wrapped past the other's sign. Of nothing at all, only a transaction that moved
both balances by whole turns of 2^128 is a payment. -/
def Substantial (crates : Crates) (cfg : SolanaConfig) (receipt : Receipt)
    (binding : SolanaBinding) (payer : PubKey) (txn : Value) : Prop :=
  let paid := exactDelta txn (cfg.mintBase58 crates) (pubkeyToBase58 crates payer)
  let received := exactDelta txn (cfg.mintBase58 crates) binding.destination
  if receipt.amountMinor ≠ 0 then paid < 2 ^ 127 ∧ -2 ^ 127 ≤ received
  else paid ≤ -2 ^ 128 ∧ 2 ^ 128 ≤ received

variable {crates : Crates} {cfg : SolanaConfig} {receipt : Receipt} {binding : SolanaBinding}
  {payer : PubKey} {txn : Value}

/-- A change known modulo 2^128 is its own least representative, or is farther out
than 2^127 on one side. -/
theorem eq_or_far (congruent : value ≡ change [ZMOD 2 ^ 128]) :
    value = change ∨ change + 2 ^ 128 ≤ value ∨ value ≤ change - 2 ^ 128 := by
  obtain ⟨turns, apart⟩ := congruent.dvd
  rcases lt_trichotomy turns 0 with before | same | after
  · exact .inr (.inl (by omega))
  · exact .inl (by omega)
  · exact .inr (.inr (by omega))

theorem changeOf_payer {payer destination : String} (differs : destination ≠ payer)
    (amount : UInt64) : changeOf payer destination amount payer = -amount.toNat := by
  simp [changeOf, Ne.symm differs]

theorem changeOf_destination (payer destination : String) (amount : UInt64) :
    changeOf payer destination amount destination = amount.toNat := by
  simp [changeOf]

/-- A payment to oneself is presented for no amount, and buys nothing. -/
theorem bought_of_self (presented : Presented crates cfg receipt binding payer txn)
    (same : binding.destination = pubkeyToBase58 crates payer) :
    Bought crates cfg binding payer txn ↔ Substantial crates cfg receipt binding payer txn := by
  have nothing := presented.distinct same
  unfold Bought Substantial
  rw [same]
  constructor
  · rintro ⟨fell, rose⟩
    exact absurd (fell.trans rose) (lt_irrefl _)
  · intro substantial
    simp only [nothing, ne_eq, not_true_eq_false, ↓reduceIte] at substantial
    omega

/-- A transaction with a receipt's amounts pays for it exactly when the receipt is
for something and neither change has wrapped. -/
theorem bought_iff_substantial (presented : Presented crates cfg receipt binding payer txn)
    (congruent : Congruent crates cfg receipt binding payer txn) :
    Bought crates cfg binding payer txn ↔ Substantial crates cfg receipt binding payer txn := by
  by_cases same : binding.destination = pubkeyToBase58 crates payer
  · exact bought_of_self presented same
  have received := congruent binding.destination
  have paid := congruent (pubkeyToBase58 crates payer)
  rw [changeOf_destination] at received
  rw [changeOf_payer (Ne.intro same)] at paid
  have small := receipt.amountMinor.toNat_lt
  have paid := eq_or_far paid
  have received := eq_or_far received
  unfold Bought Substantial
  by_cases nothing : receipt.amountMinor = 0
  · simp only [nothing, ne_eq, not_true_eq_false, ↓reduceIte, UInt64.toNat_zero] at paid received ⊢
    omega
  · have positive : receipt.amountMinor.toNat ≠ 0 := fun zero => nothing (UInt64.toNat_inj.mp zero)
    simp only [nothing, ne_eq, not_false_eq_true, ↓reduceIte]
    omega

/-- Acceptance of a receipt implies that it was paid for if and only if every
presented transaction that agrees modulo 2^128 is substantial. -/
theorem verify_bought_iff (crates : Crates) (rail : SolanaRail σ) (receipt : Receipt) (world : σ) :
    (∀ binding payer txn, checkBinding crates rail.cfg receipt = some (binding, payer) →
        rail.Serves world binding txn → (rail.verify crates receipt world).1 = .ok true →
        Bought crates rail.cfg binding payer txn) ↔
      ∀ binding payer txn, checkBinding crates rail.cfg receipt = some (binding, payer) →
        rail.Serves world binding txn → Presented crates rail.cfg receipt binding payer txn →
        Congruent crates rail.cfg receipt binding payer txn →
        Substantial crates rail.cfg receipt binding payer txn := by
  constructor
  · intro promise binding payer txn bound served presented congruent
    have accepted := (verify_served_iff bound served).mpr ⟨presented, congruent⟩
    exact (bought_iff_substantial presented congruent).mp (promise binding payer txn bound served
      accepted)
  · intro substantial binding payer txn bound served accepted
    obtain ⟨presented, congruent⟩ := (verify_served_iff bound served).mp accepted
    exact (bought_iff_substantial presented congruent).mpr
      (substantial binding payer txn bound served presented congruent)

open Instance

/-- The wallet signs a memo and no balance moves. -/
def memoOnly : Value :=
  .object [
    ("meta", .object [("err", .null), ("preTokenBalances", .array []),
      ("postTokenBalances", .array [])]),
    ("transaction", .object [("message", .object [
      ("accountKeys", .array
        [.object [("pubkey", .string walletBase58), ("signer", .bool true)]]),
      ("instructions", .array [memoInstruction
        "patala:v1:30da5d9d2a6ae4f9d79d61024210db448e7494b63b2272c34e38b989cc796778"])])])]

theorem nothing_paid_accepted :
    ¬ (((rail memoOnly).verify Instance.crates (receiptOf order42 digest42 0) ()).1 = .ok true →
      Bought Instance.crates (rail memoOnly).cfg (bindingOf digest42) wallet memoOnly) := by
  intro promise
  have accepted : ((rail memoOnly).verify Instance.crates (receiptOf order42 digest42 0) ()).1 =
      .ok true := by decide +kernel
  have unmoved : exactDelta memoOnly (SolanaConfig.mintBase58 Instance.crates ⟨.confirmed, mint⟩)
      shopBase58 = 0 := by decide
  have rose := (promise accepted).2
  exact absurd unmoved (ne_of_gt rose)

end Patala.Solana
