import Patala.Solana.Transaction

/-! `SolanaRail::verify`: local checks of the receipt's binding, one RPC read, and
the checks of the transaction it returned. -/

namespace Patala.Solana

open Machine Json

section

variable (crates : Crates)

/-- Steps 1 and 2: a receipt of this rail whose binding parses, names this chain
and mint, and is the one derived from its payer and the receipt's reference. -/
def checkBinding (cfg : SolanaConfig) (receipt : Receipt) : Option (SolanaBinding × PubKey) :=
  if receipt.railId ≠ "solana" then none
  else if receipt.currency ≠ "USDC" then none
  else match crates.fromSlice receipt.proof with
    | none => none
    | some binding =>
      if binding.chain ≠ "solana" then none
      else if binding.mint ≠ cfg.mintBase58 crates then none
      else match pubkeyFromBase58 crates binding.payer with
        | .error _ => none
        | .ok payer =>
          if binding.reference ≠
            crates.hexEncode (bindingReference crates payer receipt.reference).toList then none
          else some (binding, payer)

/-- Steps 4 to 7: status, signer, memo and exact money. -/
def checkTransaction (cfg : SolanaConfig) (receipt : Receipt) (binding : SolanaBinding)
    (payer : PubKey) (txn : Value) : Except Error Bool :=
  if !succeeded txn then .ok false
  else if !statusAccepted txn cfg.commitment then .ok false
  else if !signedBy txn (pubkeyToBase58 crates payer) then .ok false
  else if !memoMatches txn (bindingMemo crates payer receipt.reference) then .ok false
  else match mintDeltas txn (cfg.mintBase58 crates) with
    | .error error => .error error
    | .ok deltas => .ok (deltasSettle
        (expectedDeltas (pubkeyToBase58 crates payer) binding.destination receipt.amountMinor)
        deltas)

namespace SolanaRail

/-- A receipt whose binding fails is refused before the network is asked; an RPC
error is passed on and never taken for an answer. -/
def verify (rail : SolanaRail σ) (receipt : Receipt) (world : σ) : Except Error Bool × σ :=
  match checkBinding crates rail.cfg receipt with
  | none => (.ok false, world)
  | some (binding, payer) =>
    match rail.rpc.getTransaction binding.txSignature rail.cfg.commitment.asStr world with
    | (.error error, next) => (.error error.toError, next)
    | (.ok none, next) => (.ok false, next)
    | (.ok (some txn), next) => (checkTransaction crates rail.cfg receipt binding payer txn, next)

/-- The node answers `txn` when asked for the transaction a binding names. -/
def Serves (rail : SolanaRail σ) (world : σ) (binding : SolanaBinding) (txn : Value) : Prop :=
  (rail.rpc.getTransaction binding.txSignature rail.cfg.commitment.asStr world).1 = .ok (some txn)

end SolanaRail

variable {crates}

theorem checkBinding_eq_some {cfg : SolanaConfig} {receipt : Receipt} {binding : SolanaBinding}
    {payer : PubKey} :
    checkBinding crates cfg receipt = some (binding, payer) ↔
      receipt.railId = "solana" ∧ receipt.currency = "USDC" ∧
        crates.fromSlice receipt.proof = some binding ∧ binding.chain = "solana" ∧
        binding.mint = cfg.mintBase58 crates ∧
        pubkeyFromBase58 crates binding.payer = .ok payer ∧
        binding.reference =
          crates.hexEncode (bindingReference crates payer receipt.reference).toList := by
  constructor
  · intro checked
    unfold checkBinding at checked
    split at checked
    · cases checked
    split at checked
    · cases checked
    split at checked
    · cases checked
    rename_i parsed
    split at checked
    · cases checked
    split at checked
    · cases checked
    split at checked
    · cases checked
    rename_i decoded
    split at checked
    · cases checked
    obtain ⟨rfl, rfl⟩ := Prod.mk.inj (Option.some.inj checked)
    simp_all
  · rintro ⟨railId, currency, parsed, chain, mint, decoded, derived⟩
    simp [checkBinding, railId, currency, parsed, chain, mint, decoded, derived]

theorem checkTransaction_eq_true {cfg : SolanaConfig} {receipt : Receipt}
    {binding : SolanaBinding} {payer : PubKey} {txn : Value} :
    checkTransaction crates cfg receipt binding payer txn = .ok true ↔
      succeeded txn = true ∧ statusAccepted txn cfg.commitment = true ∧
        signedBy txn (pubkeyToBase58 crates payer) = true ∧
        memoMatches txn (bindingMemo crates payer receipt.reference) = true ∧
        ∃ deltas, mintDeltas txn (cfg.mintBase58 crates) = .ok deltas ∧
          deltasSettle (expectedDeltas (pubkeyToBase58 crates payer) binding.destination
            receipt.amountMinor) deltas = true := by
  unfold checkTransaction
  cases succeeded txn <;> cases statusAccepted txn cfg.commitment <;>
    cases signedBy txn (pubkeyToBase58 crates payer) <;>
    cases memoMatches txn (bindingMemo crates payer receipt.reference) <;>
    simp
  cases mintDeltas txn (cfg.mintBase58 crates) <;> simp

theorem SolanaRail.verify_eq_true {rail : SolanaRail σ} {receipt : Receipt} {world : σ} :
    (rail.verify crates receipt world).1 = .ok true ↔
      ∃ binding payer txn, checkBinding crates rail.cfg receipt = some (binding, payer) ∧
        rail.Serves world binding txn ∧
        checkTransaction crates rail.cfg receipt binding payer txn = .ok true := by
  unfold SolanaRail.verify SolanaRail.Serves
  constructor
  · intro verified
    split at verified
    · simp at verified
    · rename_i binding payer bound
      split at verified
      · simp at verified
      · simp at verified
      · rename_i txn next answered
        exact ⟨binding, payer, txn, bound, by rw [answered], verified⟩
  · rintro ⟨binding, payer, txn, bound, served, settled⟩
    rw [bound]
    rcases answered : rail.rpc.getTransaction binding.txSignature rail.cfg.commitment.asStr world
      with ⟨answer, next⟩
    rw [answered] at served
    dsimp only at served
    subst answer
    simpa [answered] using settled

end

end Patala.Solana
