import Mathlib.Data.Set.Subsingleton
import Patala.Solana.Instance
import Patala.Solana.Ledger

/-! How many references one transaction pays for. Each memo instruction is searched
for the binding on its own, so a transaction answers for every reference whose
memo it carries. -/

namespace Patala.Solana

open Machine Json

section

variable (crates : Crates)

/-- A receipt naming `payer` is accepted in a world whose node answers `txn` for it. -/
def Redeems (rail : SolanaRail σ) (txn : Value) (payer : PubKey) (receipt : Receipt) : Prop :=
  ∃ binding world, checkBinding crates rail.cfg receipt = some (binding, payer) ∧
    rail.Serves world binding txn ∧ (rail.verify crates receipt world).1 = .ok true

/-- The transaction passes every check but the memo's for a payment of `amount`. -/
def Pays (cfg : SolanaConfig) (txn : Value) (payer : PubKey) (destination : String)
    (amount : UInt64) : Prop :=
  succeeded txn = true ∧ statusAccepted txn cfg.commitment = true ∧
    signedBy txn (pubkeyToBase58 crates payer) = true ∧
    ∃ deltas, mintDeltas txn (cfg.mintBase58 crates) = .ok deltas ∧
      deltasSettle (expectedDeltas (pubkeyToBase58 crates payer) destination amount) deltas = true

/-- The memos of the transaction that bind the payer to a reference among `references`. -/
def boundMemos (txn : Value) (payer : PubKey) (references : Set Str) : Set String :=
  { memo | memo ∈ memos txn ∧ ∃ reference ∈ references, bindingMemo crates payer reference = memo }

/-- The binding `charge` writes for a payment, at a given signature. -/
def bindingFor (cfg : SolanaConfig) (payer : PubKey) (destination : String) (reference : Str)
    (signature : String) : SolanaBinding where
  chain := "solana"
  txSignature := signature
  mint := cfg.mintBase58 crates
  payer := pubkeyToBase58 crates payer
  destination := destination
  reference := crates.hexEncode (bindingReference crates payer reference).toList

def receiptFor (cfg : SolanaConfig) (payer : PubKey) (destination : String) (amount : UInt64)
    (reference : Str) (signature : String) : Receipt where
  railId := "solana"
  amountMinor := amount
  currency := "USDC"
  reference := reference
  proof := crates.toVec (bindingFor crates cfg payer destination reference signature)
  settledAtUnix := 0

end

section Laws

variable {crates : Crates} {rail : SolanaRail σ} {txn : Value} {payer : PubKey}

/-- A redeemed receipt is paid for, and its memo is on the transaction. -/
theorem Redeems.pays {receipt : Receipt} (redeems : Redeems crates rail txn payer receipt) :
    bindingMemo crates payer receipt.reference ∈ memos txn ∧
      ∃ destination, Pays crates rail.cfg txn payer destination receipt.amountMinor := by
  obtain ⟨binding, world, bound, served, accepted⟩ := redeems
  obtain ⟨binding', payer', txn', bound', served', checked⟩ := SolanaRail.verify_eq_true.mp accepted
  obtain ⟨rfl, rfl⟩ := Prod.mk.inj (Option.some.inj (bound.symm.trans bound'))
  have sameTxn : txn = txn' := Option.some.inj (Except.ok.inj (served.symm.trans served'))
  subst txn'
  obtain ⟨notFailed, committed, payerSigned, memoBound, settles⟩ :=
    checkTransaction_eq_true.mp checked
  exact ⟨(memoMatches_iff txn).mp memoBound, binding.destination, notFailed, committed,
    payerSigned, settles⟩

/-- A paying transaction redeems a receipt for every reference whose memo it carries. -/
theorem Pays.redeems (decodes : ∀ key : PubKey,
      crates.bs58Decode (crates.bs58Encode key.toList) = some key.toList)
    (parses : ∀ binding, crates.fromSlice (crates.toVec binding) = some binding)
    (served : (rail.rpc.getTransaction signature rail.cfg.commitment.asStr world).1 =
      .ok (some txn))
    (pays : Pays crates rail.cfg txn payer destination amount) {reference : Str}
    (carried : bindingMemo crates payer reference ∈ memos txn) :
    Redeems crates rail txn payer
      (receiptFor crates rail.cfg payer destination amount reference signature) := by
  have bound : checkBinding crates rail.cfg
      (receiptFor crates rail.cfg payer destination amount reference signature) =
      some (bindingFor crates rail.cfg payer destination reference signature, payer) := by
    apply checkBinding_eq_some.mpr
    exact ⟨rfl, rfl, parses _, rfl, rfl, (pubkeyFromBase58_ok_iff crates).mpr (decodes payer), rfl⟩
  refine ⟨_, world, bound, served, SolanaRail.verify_eq_true.mpr ⟨_, _, txn, bound, served, ?_⟩⟩
  obtain ⟨notFailed, committed, payerSigned, settles⟩ := pays
  apply checkTransaction_eq_true.mpr
  exact ⟨notFailed, committed, payerSigned, (memoMatches_iff txn).mpr carried, settles⟩

/-- A transaction pays for one reference per payer if and only if, being a positive
payment at all, it carries at most one of the payer's binding memos. -/
theorem redeemed_reference_unique_iff (rail : SolanaRail σ) (txn : Value) (payer : PubKey)
    (references : Set Str)
    (hexInjective : Function.Injective crates.hexEncode)
    (decodes : ∀ key : PubKey, crates.bs58Decode (crates.bs58Encode key.toList) = some key.toList)
    (parses : ∀ binding, crates.fromSlice (crates.toVec binding) = some binding)
    (bindingInjective : Set.InjOn (bindingReference crates payer) references)
    (served : ∃ signature world,
      (rail.rpc.getTransaction signature rail.cfg.commitment.asStr world).1 = .ok (some txn)) :
    (∀ first second : Receipt, first.reference ∈ references → second.reference ∈ references →
        0 < first.amountMinor → 0 < second.amountMinor → Redeems crates rail txn payer first →
        Redeems crates rail txn payer second → first.reference = second.reference) ↔
      ((∃ destination amount, 0 < amount ∧ Pays crates rail.cfg txn payer destination amount) →
        (boundMemos crates txn payer references).Subsingleton) := by
  constructor
  · rintro unique ⟨destination, amount, positive, pays⟩
    rintro _ ⟨carried, reference, member, rfl⟩ _ ⟨carried', reference', member', rfl⟩
    obtain ⟨signature, world, served⟩ := served
    have same : reference = reference' := unique _ _ member member' positive positive
      (pays.redeems decodes parses served carried) (pays.redeems decodes parses served carried')
    rw [same]
  · intro single first second member member' positive positive' redeems redeems'
    obtain ⟨carried, destination, pays⟩ := redeems.pays
    obtain ⟨carried', -⟩ := redeems'.pays
    have sameMemo := single ⟨destination, first.amountMinor, positive, pays⟩
      ⟨carried, first.reference, member, rfl⟩ ⟨carried', second.reference, member', rfl⟩
    exact bindingInjective member member'
      (bindingReference_of_memo crates hexInjective sameMemo)

end Laws

open Instance

private theorem orders_injOn :
    Set.InjOn (bindingReference Instance.crates wallet) {order42, order43} := by
  have differ : bindingReference Instance.crates wallet order42 ≠
      bindingReference Instance.crates wallet order43 := by decide
  rintro _ (rfl | rfl) _ (rfl | rfl) same
  · rfl
  · exact absurd same differ
  · exact absurd same.symm differ
  · rfl

/-- The wallet's one payment carrying the memo of one order. -/
def oneMemoPayment : Value :=
  payment ["patala:v1:30da5d9d2a6ae4f9d79d61024210db448e7494b63b2272c34e38b989cc796778"] []

theorem one_memo_redeemed_once :
    (boundMemos Instance.crates oneMemoPayment wallet {order42, order43}).Subsingleton ∧
      ∀ first second : Receipt, first.reference ∈ ({order42, order43} : Set Str) →
        second.reference ∈ ({order42, order43} : Set Str) → 0 < first.amountMinor →
        0 < second.amountMinor →
        Redeems Instance.crates (rail oneMemoPayment) oneMemoPayment wallet first →
        Redeems Instance.crates (rail oneMemoPayment) oneMemoPayment wallet second →
        first.reference = second.reference := by
  have single : (boundMemos Instance.crates oneMemoPayment wallet
      {order42, order43}).Subsingleton := by
    rintro memo ⟨carried, -⟩ memo' ⟨carried', -⟩
    have carries : memos oneMemoPayment =
        ["patala:v1:30da5d9d2a6ae4f9d79d61024210db448e7494b63b2272c34e38b989cc796778"] := by
      decide
    rw [carries, List.mem_singleton] at carried carried'
    rw [carried, carried']
  have unique_iff := redeemed_reference_unique_iff (rail oneMemoPayment) oneMemoPayment wallet
    {order42, order43} hexEncode_injective (fun key => bs58Decode_bs58Encode key.toList)
    fromSlice_toVec orders_injOn ⟨"", (), rfl⟩
  exact ⟨single, unique_iff.mpr fun _ => single⟩

/-- The wallet's one payment carrying the memos of both orders. -/
def twoMemoPayment : Value :=
  payment ["patala:v1:30da5d9d2a6ae4f9d79d61024210db448e7494b63b2272c34e38b989cc796778",
    "patala:v1:9a6b30c52823ee65abe0588f3abccde654b4048532c985b7fb561d376dfff03b"] []

theorem two_memos_redeemed_twice :
    ¬ ∀ first second : Receipt, 0 < first.amountMinor → 0 < second.amountMinor →
      Redeems Instance.crates (rail twoMemoPayment) twoMemoPayment wallet first →
      Redeems Instance.crates (rail twoMemoPayment) twoMemoPayment wallet second →
      first.reference = second.reference := by
  intro unique
  have first : Redeems Instance.crates (rail twoMemoPayment) twoMemoPayment wallet
      (receiptOf order42 digest42 5000000) :=
    ⟨bindingOf digest42, (), by decide +kernel, rfl, by decide +kernel⟩
  have second : Redeems Instance.crates (rail twoMemoPayment) twoMemoPayment wallet
      (receiptOf order43 digest43 5000000) :=
    ⟨bindingOf digest43, (), by decide +kernel, rfl, by decide +kernel⟩
  have same : order42 = order43 := unique _ _ (by decide) (by decide) first second
  exact absurd same (by decide)

end Patala.Solana
