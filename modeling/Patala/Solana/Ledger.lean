import Mathlib.Data.Int.ModEq
import Mathlib.Tactic.Ring
import Patala.Solana.Transaction

/-! What a transaction says apart from the loops that read it: the memos it
carries, who signed it, and each owner's exact net change of a mint. -/

namespace Patala.Solana

open Machine Json

section Message

variable (txn : Value)

/-- The memo texts of an instruction list. -/
def memosOf (ixs : Option Value) : List String :=
  ((ixs.bind Value.asArray).getD []).filterMap fun ix =>
    if ix.getStr "program" = some "spl-memo" then ix.getStr "parsed" else none

/-- Every memo text of the transaction, top-level ones first. -/
def memos : List String :=
  memosOf ((message txn).bind (·.get "instructions")) ++
    (((((txn.get "meta").bind (·.get "innerInstructions")).bind Value.asArray).getD []).flatMap
      fun group => memosOf (group.get "instructions"))

/-- The account keys marked as signers. -/
def signers : List String :=
  ((((message txn).bind (·.get "accountKeys")).bind Value.asArray).getD []).filterMap fun key =>
    if (key.get "signer").bind Value.asBool = some true then key.getStr "pubkey" else none

theorem scanMemos_iff {ixs : Option Value} {want : String} :
    scanMemos ixs want = true ↔ want ∈ memosOf ixs := by
  cases items : ixs.bind Value.asArray with
  | none => simp [scanMemos, memosOf, items]
  | some items' =>
    simp only [scanMemos, memosOf, items, List.any_eq_true, Option.getD_some, List.mem_filterMap]
    apply exists_congr
    intro ix
    by_cases program : ix.getStr "program" = some "spl-memo" <;> simp [isMemo, program]

theorem memoMatches_iff {want : String} : memoMatches txn want = true ↔ want ∈ memos txn := by
  rw [memoMatches, Bool.or_eq_true, scanMemos_iff, memos, List.mem_append]
  apply or_congr Iff.rfl
  cases ((txn.get "meta").bind (·.get "innerInstructions")).bind Value.asArray with
  | none => simp
  | some groups => simp [scanMemos_iff]

theorem signedBy_iff {want : String} : signedBy txn want = true ↔ want ∈ signers txn := by
  cases keys : ((message txn).bind (·.get "accountKeys")).bind Value.asArray with
  | none => simp [signedBy, signers, keys]
  | some keys' =>
    simp only [signedBy, signers, keys, List.any_eq_true, Option.getD_some, List.mem_filterMap]
    apply exists_congr
    intro key
    by_cases signer : (key.get "signer").bind Value.asBool = some true <;> simp [signer]

theorem succeeded_iff :
    succeeded txn = true ↔ (txn.get "meta").bind (·.get "err") = some .null := by
  unfold succeeded
  cases (txn.get "meta").bind (·.get "err") with
  | none => simp
  | some err => cases err <;> simp [Value.isNull]

end Message

section Balances

/-- Every balance entry of the mint in the list has an owner and an integer amount. -/
def Readable (mint : String) (list : Option Value) : Prop :=
  ∀ entry ∈ balanceList list, ∃ held, readBalance mint entry = .ok held

/-- Owners and amounts of the mint's entries in a balance list. -/
def balances (mint : String) (list : Option Value) : List (String × Int) :=
  (balanceList list).filterMap fun entry =>
    match readBalance mint entry with
    | .ok held => held
    | .error _ => none

/-- The balance list under `key` of the transaction's meta record. -/
def metaList (txn : Value) (key : String) : Option Value := (txn.get "meta").bind (·.get key)

/-- An owner's balance of the mint after the transaction less the one before it. -/
def exactDelta (txn : Value) (mint owner : String) : Int :=
  Tally.sumFor (balances mint (metaList txn "postTokenBalances")) owner -
    Tally.sumFor (balances mint (metaList txn "preTokenBalances")) owner

def signedEntries (sign : Int) (entries : List (String × Int)) : List (String × Int) :=
  entries.map fun entry => (entry.1, sign * entry.2)

theorem sumFor_signedEntries (sign : Int) (entries : List (String × Int)) (owner : String) :
    Tally.sumFor (signedEntries sign entries) owner = sign * Tally.sumFor entries owner := by
  induction entries with
  | nil => simp [signedEntries, Tally.sumFor]
  | cons entry rest ih =>
    have step : signedEntries sign (entry :: rest) =
        (entry.1, sign * entry.2) :: signedEntries sign rest := rfl
    rw [step, Tally.sumFor_cons, Tally.sumFor_cons, ih]
    split <;> ring

/-- The loop over one list fails on the first unreadable entry, and otherwise
credits every entry of the mint. -/
theorem applyBalances_ok_iff {mint : String} {list : Option Value} {sign : Int}
    {deltas result : List (String × Int)} :
    applyBalances mint list sign deltas = .ok result ↔
      Readable mint list ∧
        result = Tally.post add128 wrap128 deltas (signedEntries sign (balances mint list)) := by
  unfold applyBalances Readable balances
  induction balanceList list generalizing deltas with
  | nil => simp [signedEntries, Tally.post, pure, Except.pure, eq_comm]
  | cons entry rest ih =>
    rw [List.foldlM_cons]
    cases read : readBalance mint entry with
    | error error => simp [applyBalance, read, bind, Except.bind]
    | ok held =>
      cases held with
      | none =>
        simp only [applyBalance, read, bind, Except.bind, ih]
        simp [read]
      | some held =>
        rcases held with ⟨owner, amount⟩
        simp only [applyBalance, read, bind, Except.bind, ih]
        simp [read, signedEntries, Tally.post, mul128]

/-- The deltas of a readable transaction are its entries credited in order, the
earlier balances negated. -/
theorem mintDeltas_ok_iff {txn : Value} {mint : String} {deltas : List (String × Int)} :
    mintDeltas txn mint = .ok deltas ↔
      (∃ record, txn.get "meta" = some record) ∧
        Readable mint (metaList txn "preTokenBalances") ∧
        Readable mint (metaList txn "postTokenBalances") ∧
        deltas = Tally.post add128 wrap128 []
          (signedEntries (-1) (balances mint (metaList txn "preTokenBalances")) ++
            signedEntries 1 (balances mint (metaList txn "postTokenBalances"))) := by
  unfold mintDeltas metaList
  cases txn.get "meta" with
  | none => simp
  | some record =>
    have joined : ∀ first second : List (String × Int),
        Tally.post add128 wrap128 [] (first ++ second) =
          Tally.post add128 wrap128 (Tally.post add128 wrap128 [] first) second :=
      fun first second => List.foldl_append
    simp only [joined, Option.bind_some]
    cases before : applyBalances mint (record.get "preTokenBalances") (-1) [] with
    | error error =>
      have unreadable : ¬ Readable mint (record.get "preTokenBalances") := by
        intro readable
        rw [applyBalances_ok_iff.mpr ⟨readable, rfl⟩] at before
        cases before
      simp [unreadable]
    | ok held =>
      obtain ⟨readable, same⟩ := applyBalances_ok_iff.mp before
      subst held
      simp [applyBalances_ok_iff, readable]

/-- Each owner's stored delta is its exact one in the low 128 bits. -/
theorem total_mintDeltas {txn : Value} {mint : String} {deltas : List (String × Int)}
    (computed : mintDeltas txn mint = .ok deltas) (owner : String) :
    Tally.total deltas owner = wrap128 (exactDelta txn mint owner) := by
  obtain ⟨-, -, -, same⟩ := mintDeltas_ok_iff.mp computed
  rw [same, Tally.total_post wrap128_zero add128_wrap128, Tally.sumFor_append,
    sumFor_signedEntries, sumFor_signedEntries]
  congr 1
  unfold exactDelta
  ring

theorem nodup_mintDeltas {txn : Value} {mint : String} {deltas : List (String × Int)}
    (computed : mintDeltas txn mint = .ok deltas) : (deltas.map Prod.fst).Nodup := by
  obtain ⟨-, -, -, same⟩ := mintDeltas_ok_iff.mp computed
  rw [same]
  apply Tally.nodup_post
  exact List.nodup_nil

end Balances

section Settlement

/-- The change a payment of `amount` makes to an owner's balance. -/
def changeOf (payer destination : String) (amount : UInt64) (owner : String) : Int :=
  if owner = destination then amount.toNat else if owner = payer then -amount.toNat else 0

/-- The first-match comparison accepts exactly the tables that store a payment's
changes, and a payment to oneself only of nothing. -/
theorem deltasSettle_iff {deltas : List (String × Int)} (distinct : (deltas.map Prod.fst).Nodup)
    {payer destination : String} {amount : UInt64} :
    deltasSettle (expectedDeltas payer destination amount) deltas = true ↔
      (destination = payer → amount = 0) ∧
        ∀ owner, Tally.total deltas owner = changeOf payer destination amount owner := by
  simp only [deltasSettle, expectedDeltas, List.all_cons, List.all_nil, Bool.and_true,
    Bool.and_eq_true, decide_eq_true_eq, List.all_eq_true, List.any_cons, List.any_nil,
    Bool.or_false, Bool.or_eq_true]
  constructor
  · rintro ⟨⟨received, paid⟩, others⟩
    refine ⟨?_, ?_⟩
    · intro same
      subst destination
      rw [received] at paid
      have zero : amount.toNat = 0 := by omega
      exact UInt64.toNat_inj.mp zero
    · intro owner
      unfold changeOf
      split
      · rename_i same
        rw [same, received]
      split
      · rename_i same
        rw [same, paid]
      rename_i notDestination notPayer
      cases found : deltas.find? fun entry => entry.1 = owner with
      | none => simp [Tally.total, found]
      | some entry =>
        have member := List.mem_of_find?_eq_some found
        have name : entry.1 = owner := by simpa using List.find?_some found
        rcases others entry member with zero | listed
        · simp [Tally.total, found, zero]
        · rw [name] at listed
          rcases listed with same | same
          · exact absurd same.symm notDestination
          · exact absurd same.symm notPayer
  · rintro ⟨self, changes⟩
    refine ⟨⟨?_, ?_⟩, ?_⟩
    · rw [changes, changeOf, if_pos rfl]
    · rw [changes, changeOf]
      split
      · rename_i same
        rw [self same.symm]
        rfl
      · rw [if_pos rfl]
    · intro entry member
      have stored := Tally.total_of_mem distinct member
      rw [changes, changeOf] at stored
      by_cases toDestination : entry.1 = destination
      · exact .inr (.inl toDestination.symm)
      by_cases fromPayer : entry.1 = payer
      · exact .inr (.inr fromPayer.symm)
      rw [if_neg toDestination, if_neg fromPayer] at stored
      exact .inl stored.symm

/-- A payment's changes fit an `i128`. -/
theorem changeOf_fits (payer destination : String) (amount : UInt64) (owner : String) :
    -2 ^ 127 ≤ changeOf payer destination amount owner ∧
      changeOf payer destination amount owner < 2 ^ 127 := by
  have small := amount.toNat_lt
  unfold changeOf
  split
  · omega
  split <;> omega

end Settlement

end Patala.Solana
