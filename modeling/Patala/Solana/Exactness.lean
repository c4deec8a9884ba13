import Patala.Solana.Instance
import Patala.Solana.Ledger

/-! Which money an accepted receipt stands for. The deltas are summed in 128-bit
integers without overflow checks, so acceptance fixes every owner's exact net
change only in the low 128 bits. -/

namespace Patala.Solana

open Machine Json

section

variable (crates : Crates)

structure Settled (cfg : SolanaConfig) (receipt : Receipt) (binding : SolanaBinding)
    (payer : PubKey) (txn : Value) : Prop where
  notFailed : (txn.get "meta").bind (·.get "err") = some .null
  payerSigned : pubkeyToBase58 crates payer ∈ signers txn
  memoBound : bindingMemo crates payer receipt.reference ∈ memos txn
  distinct : binding.destination = pubkeyToBase58 crates payer → receipt.amountMinor = 0
  exact : ∀ owner, exactDelta txn (cfg.mintBase58 crates) owner =
    changeOf (pubkeyToBase58 crates payer) binding.destination receipt.amountMinor owner

/-- Everything acceptance checks besides the amounts. -/
structure Presented (cfg : SolanaConfig) (receipt : Receipt) (binding : SolanaBinding)
    (payer : PubKey) (txn : Value) : Prop where
  notFailed : succeeded txn = true
  committed : statusAccepted txn cfg.commitment = true
  payerSigned : signedBy txn (pubkeyToBase58 crates payer) = true
  memoBound : memoMatches txn (bindingMemo crates payer receipt.reference) = true
  readableBefore : Readable (cfg.mintBase58 crates) (metaList txn "preTokenBalances")
  readableAfter : Readable (cfg.mintBase58 crates) (metaList txn "postTokenBalances")
  distinct : binding.destination = pubkeyToBase58 crates payer → receipt.amountMinor = 0

/-- Every owner's exact net change is the payment's up to a multiple of 2^128. -/
def Congruent (cfg : SolanaConfig) (receipt : Receipt) (binding : SolanaBinding)
    (payer : PubKey) (txn : Value) : Prop :=
  ∀ owner, exactDelta txn (cfg.mintBase58 crates) owner ≡
    changeOf (pubkeyToBase58 crates payer) binding.destination receipt.amountMinor owner
      [ZMOD 2 ^ 128]

/-- Every owner's exact net change fits an `i128`. -/
def DeltasFit (cfg : SolanaConfig) (txn : Value) : Prop :=
  ∀ owner, -2 ^ 127 ≤ exactDelta txn (cfg.mintBase58 crates) owner ∧
    exactDelta txn (cfg.mintBase58 crates) owner < 2 ^ 127

end

variable {crates : Crates} {cfg : SolanaConfig} {receipt : Receipt} {binding : SolanaBinding}
  {payer : PubKey} {txn : Value}

theorem wrap128_eq_iff {value change : Int} (lower : -2 ^ 127 ≤ change) (upper : change < 2 ^ 127) :
    wrap128 value = change ↔ value ≡ change [ZMOD 2 ^ 128] := by
  constructor
  · intro stored
    subst change
    exact (Int.bmod_emod (x := value) (m := 2 ^ 128)).symm
  · intro congruent
    have same : value % (2 ^ 128 : Nat) = change % (2 ^ 128 : Nat) := by
      simpa [Int.ModEq] using congruent
    calc wrap128 value
        = wrap128 change := by rw [wrap128, wrap128, ← Int.emod_bmod, same, Int.emod_bmod]
      _ = change := wrap128_of_fits lower upper

/-- The transaction checks pass exactly on a presented payment whose amounts agree
in the low 128 bits. -/
theorem checkTransaction_iff :
    checkTransaction crates cfg receipt binding payer txn = .ok true ↔
      Presented crates cfg receipt binding payer txn ∧
        Congruent crates cfg receipt binding payer txn := by
  rw [checkTransaction_eq_true]
  constructor
  · rintro ⟨notFailed, committed, payerSigned, memoBound, deltas, computed, settle⟩
    obtain ⟨distinct, changes⟩ := (deltasSettle_iff (nodup_mintDeltas computed)).mp settle
    obtain ⟨-, readableBefore, readableAfter, -⟩ := mintDeltas_ok_iff.mp computed
    refine ⟨⟨notFailed, committed, payerSigned, memoBound, readableBefore, readableAfter,
      distinct⟩, ?_⟩
    intro owner
    obtain ⟨lower, upper⟩ := changeOf_fits (pubkeyToBase58 crates payer) binding.destination
      receipt.amountMinor owner
    apply (wrap128_eq_iff lower upper).mp
    rw [← total_mintDeltas computed, changes]
  · rintro ⟨presented, congruent⟩
    have meta_present : ∃ record, txn.get "meta" = some record := by
      have notFailed := (succeeded_iff txn).mp presented.notFailed
      cases found : txn.get "meta" with
      | none => simp [found] at notFailed
      | some record => exact ⟨record, rfl⟩
    have computed := mintDeltas_ok_iff.mpr
      ⟨meta_present, presented.readableBefore, presented.readableAfter, rfl⟩
    refine ⟨presented.notFailed, presented.committed, presented.payerSigned, presented.memoBound,
      _, computed, (deltasSettle_iff (nodup_mintDeltas computed)).mpr ⟨presented.distinct, ?_⟩⟩
    intro owner
    obtain ⟨lower, upper⟩ := changeOf_fits (pubkeyToBase58 crates payer) binding.destination
      receipt.amountMinor owner
    rw [total_mintDeltas computed]
    exact (wrap128_eq_iff lower upper).mpr (congruent owner)

theorem settled_iff_deltasFit (presented : Presented crates cfg receipt binding payer txn)
    (congruent : Congruent crates cfg receipt binding payer txn) :
    Settled crates cfg receipt binding payer txn ↔ DeltasFit crates cfg txn := by
  constructor
  · intro settled owner
    rw [settled.exact owner]
    exact changeOf_fits (pubkeyToBase58 crates payer) binding.destination receipt.amountMinor owner
  · intro fits
    refine
      { notFailed := (succeeded_iff txn).mp presented.notFailed
        payerSigned := (signedBy_iff txn).mp presented.payerSigned
        memoBound := (memoMatches_iff txn).mp presented.memoBound
        distinct := presented.distinct
        exact := ?_ }
    intro owner
    obtain ⟨lower, upper⟩ := changeOf_fits (pubkeyToBase58 crates payer) binding.destination
      receipt.amountMinor owner
    have agrees := (wrap128_eq_iff lower upper).mpr (congruent owner)
    rwa [wrap128_of_fits (fits owner).1 (fits owner).2] at agrees

/-- With the transaction known, acceptance is that it is presented and agrees. -/
theorem verify_served_iff {rail : SolanaRail σ} {world : σ}
    (bound : checkBinding crates rail.cfg receipt = some (binding, payer))
    (served : rail.Serves world binding txn) :
    (rail.verify crates receipt world).1 = .ok true ↔
      Presented crates rail.cfg receipt binding payer txn ∧
        Congruent crates rail.cfg receipt binding payer txn := by
  rw [← checkTransaction_iff]
  constructor
  · intro accepted
    obtain ⟨binding', payer', txn', bound', served', checked⟩ :=
      SolanaRail.verify_eq_true.mp accepted
    have sameBinding := bound.symm.trans bound'
    obtain ⟨rfl, rfl⟩ := Prod.mk.inj (Option.some.inj sameBinding)
    have answers := served.symm.trans served'
    obtain rfl := Option.some.inj (Except.ok.inj answers)
    exact checked
  · intro checked
    exact SolanaRail.verify_eq_true.mpr ⟨binding, payer, txn, bound, served, checked⟩

/-- Acceptance of a receipt implies the exact settlement it names if and only if no
presented transaction that agrees modulo 2^128 has an owner whose exact net
change leaves the `i128` range. -/
theorem verify_exact_iff (crates : Crates) (rail : SolanaRail σ) (receipt : Receipt) (world : σ) :
    (∀ binding payer txn, checkBinding crates rail.cfg receipt = some (binding, payer) →
        rail.Serves world binding txn → (rail.verify crates receipt world).1 = .ok true →
        Settled crates rail.cfg receipt binding payer txn) ↔
      ∀ binding payer txn, checkBinding crates rail.cfg receipt = some (binding, payer) →
        rail.Serves world binding txn → Presented crates rail.cfg receipt binding payer txn →
        Congruent crates rail.cfg receipt binding payer txn → DeltasFit crates rail.cfg txn := by
  constructor
  · intro promise binding payer txn bound served presented congruent
    have accepted := (verify_served_iff bound served).mpr ⟨presented, congruent⟩
    exact (settled_iff_deltasFit presented congruent).mp (promise binding payer txn bound served
      accepted)
  · intro fits binding payer txn bound served accepted
    obtain ⟨presented, congruent⟩ := (verify_served_iff bound served).mp accepted
    exact (settled_iff_deltasFit presented congruent).mpr
      (fits binding payer txn bound served presented congruent)

open Instance

/-- A payment after which a third owner has gained 2^128 units in three entries. -/
def wrappingPayment : Value :=
  payment ["patala:v1:30da5d9d2a6ae4f9d79d61024210db448e7494b63b2272c34e38b989cc796778"]
    [tokenBalance "third" "170141183460469231731687303715884105727",
      tokenBalance "third" "170141183460469231731687303715884105727", tokenBalance "third" "2"]

theorem wrapped_delta_accepted :
    ¬ (((rail wrappingPayment).verify Instance.crates (receiptOf order42 digest42 5000000) ()).1 =
        .ok true →
      Settled Instance.crates (rail wrappingPayment).cfg (receiptOf order42 digest42 5000000)
        (bindingOf digest42) wallet wrappingPayment) := by
  intro promise
  have accepted : ((rail wrappingPayment).verify Instance.crates (receiptOf order42 digest42 5000000) ()).1 =
      .ok true := by decide +kernel
  have gained : exactDelta wrappingPayment (SolanaConfig.mintBase58 Instance.crates ⟨.confirmed, mint⟩)
      "third" = 2 ^ 128 := by decide
  have owed : changeOf (pubkeyToBase58 Instance.crates wallet) shopBase58 5000000 "third" = 0 := by
    decide
  have moved : 2 ^ 128 = (0 : Int) := gained.symm.trans (((promise accepted).exact "third").trans owed)
  cases moved

end Patala.Solana
