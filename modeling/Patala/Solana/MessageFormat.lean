import Mathlib.Data.List.Dedup
import Patala.Lib.Base64
import Patala.Lib.Fallible
import Patala.Lib.Reader
import Patala.Solana.Message

/-! The legacy message read back by its format: a header of three counts, the keys, the
blockhash, and the instructions with indices in place of keys. -/

namespace Patala.Solana

open Machine Reading

structure CompiledInstruction where
  programIdIndex : UInt8
  accounts : List UInt8
  data : List UInt8

structure LegacyMessage where
  numRequiredSignatures : UInt8
  numReadonlySigned : UInt8
  numReadonlyUnsigned : UInt8
  accountKeys : List PubKey
  recentBlockhash : Bytes 32
  instructions : List CompiledInstruction

section Format

def readInstruction : Reader CompiledInstruction := do
  let programIdIndex ← byte
  let accountCount ← shortU16
  let accounts ← many byte accountCount
  let dataLength ← shortU16
  let data ← many byte dataLength
  return ⟨programIdIndex, accounts, data⟩

def readMessage : Reader LegacyMessage := do
  let numRequiredSignatures ← byte
  let numReadonlySigned ← byte
  let numReadonlyUnsigned ← byte
  let keyCount ← shortU16
  let accountKeys ← many (array 32) keyCount
  let recentBlockhash ← array 32
  let instructionCount ← shortU16
  let instructions ← many readInstruction instructionCount
  return ⟨numRequiredSignatures, numReadonlySigned, numReadonlyUnsigned, accountKeys,
    recentBlockhash, instructions⟩

def decodeMessage (bytes : List UInt8) : Option LegacyMessage := whole readMessage bytes

namespace LegacyMessage

variable (message : LegacyMessage)

/-- The keys that sign are listed first. -/
def isSigner (index : Nat) : Bool := index < message.numRequiredSignatures.toNat

/-- Among the keys that sign, and among the others, the readonly ones are listed last. -/
def isWritable (index : Nat) : Bool :=
  if message.isSigner index then
    index < message.numRequiredSignatures.toNat - message.numReadonlySigned.toNat
  else index < message.accountKeys.length - message.numReadonlyUnsigned.toNat

/-- An instruction with the keys its indices stand for: program, accounts and data. -/
def resolve (ix : CompiledInstruction) : Option (PubKey × List PubKey × List UInt8) := do
  let programId ← message.accountKeys[ix.programIdIndex.toNat]?
  let accounts ← ix.accounts.mapM fun index => message.accountKeys[index.toNat]?
  return (programId, accounts, ix.data)

end LegacyMessage

end Format

section Compiled

/-- An instruction over a table of keys. -/
def compile (keys : List (PubKey × Bool × Bool)) (ix : Instruction) : CompiledInstruction where
  programIdIndex := indexOf keys ix.programId
  accounts := ix.accounts.map fun entry => indexOf keys entry.1
  data := ix.data

/-- The message that `serializeMessage` writes. -/
def compiledMessage (payer : PubKey) (instructions : List Instruction) (recentBlockhash : Bytes 32) :
    LegacyMessage :=
  let keys := sortedKeys payer instructions
  { numRequiredSignatures := UInt8.ofNat (keys.countP fun entry => entry.2.1)
    numReadonlySigned := UInt8.ofNat (keys.countP fun entry => entry.2.1 && !entry.2.2)
    numReadonlyUnsigned := UInt8.ofNat (keys.countP fun entry => !entry.2.1 && !entry.2.2)
    accountKeys := keys.map Prod.fst
    recentBlockhash
    instructions := instructions.map (compile keys) }

theorem reads_compactU16 {value : Nat} (small : value ≤ 65535) :
    Reads shortU16 (compactU16 value) value := by
  by_cases one : value < 128
  · have done : value / 128 = 0 := by omega
    have same : value % 128 = value := by omega
    simp only [compactU16, compactU16Loop, done, same, ↓reduceIte]
    exact reads_shortU16_one one
  by_cases two : value < 16384
  · have more : value / 128 ≠ 0 := by omega
    have done : value / 128 / 128 = 0 := by omega
    have same : value / 128 % 128 = value / 128 := by omega
    simp only [compactU16, compactU16Loop, more, done, same, ↓reduceIte]
    exact reads_shortU16_two (by omega) two
  · have more : value / 128 ≠ 0 := by omega
    have again : value / 128 / 128 ≠ 0 := by omega
    have done : value / 128 / 128 / 128 = 0 := by omega
    have same : value / 128 / 128 % 128 = value / 128 / 128 := by omega
    simp only [compactU16, compactU16Loop, more, again, done, same, ↓reduceIte]
    exact reads_shortU16_three (by omega) (by omega)

theorem reads_bytes (bytes : List UInt8) : Reads (many byte bytes.length) bytes bytes := by
  have read : Reads (many byte bytes.length) (bytes.flatMap fun b => [b]) (bytes.map id) :=
    reads_many fun b _ => reads_byte b
  rwa [List.flatMap_singleton', List.map_id] at read

theorem reads_instruction (keys : List (PubKey × Bool × Bool)) {ix : Instruction}
    (accounts : ix.accounts.length ≤ 65535) (data : ix.data.length ≤ 65535) :
    Reads readInstruction (serializeInstruction keys ix) (compile keys ix) := by
  unfold serializeInstruction
  simp only [List.append_assoc]
  have indices := reads_bytes (ix.accounts.map fun entry => indexOf keys entry.1)
  rw [List.length_map] at indices
  exact (reads_byte _).bind ((reads_compactU16 accounts).bind (indices.bind
    ((reads_compactU16 data).bind ((reads_bytes ix.data).map _))))

theorem reads_message {payer : PubKey} {instructions : List Instruction} (recentBlockhash : Bytes 32)
    (keys : (sortedKeys payer instructions).length ≤ 65535) (count : instructions.length ≤ 65535)
    (each : ∀ ix ∈ instructions, ix.accounts.length ≤ 65535 ∧ ix.data.length ≤ 65535) :
    Reads readMessage (serializeMessage payer instructions recentBlockhash)
      (compiledMessage payer instructions recentBlockhash) := by
  unfold serializeMessage
  simp only [List.append_assoc, List.cons_append, List.nil_append]
  have keyTable : Reads (many (array 32) (sortedKeys payer instructions).length)
      ((sortedKeys payer instructions).flatMap fun entry => entry.1.toList)
      ((sortedKeys payer instructions).map Prod.fst) :=
    reads_many fun entry _ => reads_array entry.1
  have compiled : Reads (many readInstruction instructions.length)
      (instructions.flatMap (serializeInstruction (sortedKeys payer instructions)))
      (instructions.map (compile (sortedKeys payer instructions))) :=
    reads_many fun ix member => reads_instruction _ (each ix member).1 (each ix member).2
  exact (reads_byte _).bind ((reads_byte _).bind ((reads_byte _).bind
    ((reads_compactU16 keys).bind (keyTable.bind ((reads_array recentBlockhash).bind
      ((reads_compactU16 count).bind (compiled.map _)))))))

end Compiled

section Keys

variable (payer : PubKey) (instructions : List Instruction)

/-- Every use of an account behind the payer's: as an account, then as a program. -/
def laterUses : List (PubKey × Bool × Bool) :=
  instructions.flatMap Instruction.accounts ++ instructions.map fun ix => (ix.programId, false, false)

/-- Every use of a key, with whether it signs and is written there. The payer does both. -/
def uses : List (PubKey × Bool × Bool) := (payer, true, true) :: laterUses instructions

theorem collectKeys_eq : collectKeys payer instructions =
    Tally.post (fun held more => (held.1 || more.1, held.2 || more.2)) id [(payer, true, true)]
      (laterUses instructions) := by
  rw [Tally.post, laterUses, List.foldl_append]
  rfl

theorem nodup_collectKeys : ((collectKeys payer instructions).map Prod.fst).Nodup := by
  rw [collectKeys_eq]
  exact Tally.nodup_post (by simp) _

theorem mem_collectKeys {key : PubKey} :
    key ∈ (collectKeys payer instructions).map Prod.fst ↔
      key ∈ (uses payer instructions).map Prod.fst := by
  rw [collectKeys_eq, Tally.mem_keys_post]
  simp [uses]

variable {payer instructions}

/-- The flags of a listed key are those of its uses, merged. -/
theorem flags_of_mem {key : PubKey} {flags : Bool × Bool}
    (member : (key, flags) ∈ collectKeys payer instructions) :
    (flags.1 = true ↔ ∃ flags', (key, flags') ∈ uses payer instructions ∧ flags'.1 = true) ∧
      (flags.2 = true ↔ ∃ flags', (key, flags') ∈ uses payer instructions ∧ flags'.2 = true) := by
  have only : ∀ p : Bool × Bool → Prop,
      (∃ held, (key, held) ∈ collectKeys payer instructions ∧ p held) ↔ p flags := by
    intro p
    constructor
    · rintro ⟨held, listed, holds⟩
      have entries := List.inj_on_of_nodup_map (nodup_collectKeys payer instructions) listed member rfl
      have same : held = flags := congrArg Prod.snd entries
      rwa [← same]
    · intro holds
      exact ⟨flags, member, holds⟩
  constructor
  · rw [← only fun flags => flags.1 = true, collectKeys_eq, Tally.holds_post (by simp), uses,
      Tally.holds_cons, Tally.holds_cons]
    simp
  · rw [← only fun flags => flags.2 = true, collectKeys_eq, Tally.holds_post (by simp), uses,
      Tally.holds_cons, Tally.holds_cons]
    simp

variable (payer instructions)

theorem perm_sortedKeys : (sortedKeys payer instructions).Perm (collectKeys payer instructions) :=
  List.perm_insertionSort ..

theorem nodup_sortedKeys : ((sortedKeys payer instructions).map Prod.fst).Nodup :=
  ((perm_sortedKeys payer instructions).map _).nodup_iff.mpr (nodup_collectKeys payer instructions)

theorem mem_sortedKeys {key : PubKey} :
    key ∈ (sortedKeys payer instructions).map Prod.fst ↔
      key ∈ (uses payer instructions).map Prod.fst := by
  rw [((perm_sortedKeys payer instructions).map _).mem_iff]
  exact mem_collectKeys payer instructions

theorem length_sortedKeys : (sortedKeys payer instructions).length =
    ((uses payer instructions).map Prod.fst).dedup.length := by
  have same : ((sortedKeys payer instructions).map Prod.fst).Perm
      ((uses payer instructions).map Prod.fst).dedup :=
    (List.perm_ext_iff_of_nodup (nodup_sortedKeys payer instructions) (List.nodup_dedup _)).mpr
      fun key => by rw [mem_sortedKeys, List.mem_dedup]
  simpa using same.length_eq

/-- The payer is the first key, a writable signer, and the sort leaves it there. -/
theorem head_sortedKeys :
    ((sortedKeys payer instructions).map Prod.fst).head? = some payer := by
  have first : ((collectKeys payer instructions).map Prod.fst).head? = some payer := by
    rw [collectKeys_eq]
    exact Tally.head_post rfl
  cases listed : collectKeys payer instructions with
  | nil =>
    rw [listed] at first
    cases first
  | cons entry rest =>
    rcases entry with ⟨key, flags⟩
    rw [listed] at first
    have same : key = payer := Option.some.inj first
    subst key
    have member : (payer, flags) ∈ collectKeys payer instructions := by simp [listed]
    obtain ⟨signs, writes⟩ := flags_of_mem member
    have used : (payer, (true, true)) ∈ uses payer instructions := List.mem_cons_self
    have lowest : rank (payer, flags) = 0 := by
      have both : flags = (true, true) :=
        Prod.ext (signs.mpr ⟨_, used, rfl⟩) (writes.mpr ⟨_, used, rfl⟩)
      rw [both]
      rfl
    have stays := List.insertionSort_cons_of_forall_rel
      (r := fun a b : PubKey × Bool × Bool => rank a ≤ rank b) (a := (payer, flags)) (l := rest)
      fun other _ => by rw [lowest]; exact Nat.zero_le _
    rw [sortedKeys, listed, stays]
    rfl

theorem ranked_sortedKeys :
    (sortedKeys payer instructions).Pairwise fun a b => rank a ≤ rank b := by
  have total : Std.Total fun a b : PubKey × Bool × Bool => rank a ≤ rank b :=
    ⟨fun a b => Nat.le_total (rank a) (rank b)⟩
  have trans : IsTrans _ fun a b : PubKey × Bool × Bool => rank a ≤ rank b :=
    ⟨fun _ _ _ => Nat.le_trans⟩
  exact List.pairwise_insertionSort _ _

end Keys

section Positions

/-- Where the items of one kind come first, they stand at the positions below their count. -/
theorem getElem_iff_lt_countP {p : α → Bool} {items : List α}
    (ordered : items.Pairwise fun a b => p b → p a) {index : Nat} (inside : index < items.length) :
    p items[index] = true ↔ index < items.countP p := by
  induction items generalizing index with
  | nil => simp at inside
  | cons item rest ih =>
    obtain ⟨before, later⟩ := List.pairwise_cons.mp ordered
    by_cases here : p item
    · rw [List.countP_cons_of_pos here]
      cases index with
      | zero => simp [here]
      | succ index =>
        rw [List.getElem_cons_succ, ih later (Nat.lt_of_succ_lt_succ inside)]
        omega
    · have none_later : ∀ other ∈ rest, ¬ p other :=
        fun other member holds => here (before other member holds)
      rw [List.countP_cons_of_neg here, List.countP_eq_zero.mpr none_later]
      constructor
      · intro holds
        rcases List.mem_cons.mp (List.getElem_mem inside) with same | member
        · rw [same] at holds
          exact absurd holds here
        · exact absurd holds (none_later _ member)
      · intro impossible
        exact absurd impossible (Nat.not_lt_zero _)

/-- Items of one kind are those with a second property and those without. -/
theorem countP_split (p q : α → Bool) (items : List α) :
    items.countP p = items.countP (fun a => p a && q a) + items.countP fun a => p a && !q a := by
  induction items with
  | nil => rfl
  | cons item rest ih =>
    simp only [List.countP_cons, ih]
    cases p item <;> cases q item <;> simp <;> omega

end Positions

section Exactness

/-- What a legacy message carries: the payer first, each key once, the instructions with their
keys, and a header that gives every key the flags it is used with. -/
structure Carries (payer : PubKey) (instructions : List Instruction) (recentBlockhash : Bytes 32)
    (message : LegacyMessage) : Prop where
  payerFirst : message.accountKeys.head? = some payer
  distinct : message.accountKeys.Nodup
  listed : ∀ key, key ∈ message.accountKeys ↔ key ∈ (uses payer instructions).map Prod.fst
  recentBlockhash : message.recentBlockhash = recentBlockhash
  resolved : message.instructions.mapM message.resolve =
    some (instructions.map fun ix => (ix.programId, ix.accounts.map Prod.fst, ix.data))
  signer : ∀ index key, message.accountKeys[index]? = some key →
    (message.isSigner index = true ↔
      ∃ flags, (key, flags) ∈ uses payer instructions ∧ flags.1 = true)
  writable : ∀ index key, message.accountKeys[index]? = some key →
    (message.isWritable index = true ↔
      ∃ flags, (key, flags) ∈ uses payer instructions ∧ flags.2 = true)

variable {payer : PubKey} {instructions : List Instruction}

/-- A listed key stands at its index. -/
theorem getElem_indexOf {keys : List (PubKey × Bool × Bool)} (fits : keys.length ≤ 255)
    {key : PubKey} (listed : key ∈ keys.map Prod.fst) :
    (keys.map Prod.fst)[(indexOf keys key).toNat]? = some key := by
  obtain ⟨entry, member, same⟩ := List.mem_map.mp listed
  have inside : keys.findIdx (fun entry => entry.1 = key) < keys.length :=
    List.findIdx_lt_length_of_exists ⟨entry, member, decide_eq_true same⟩
  have exactly : (indexOf keys key).toNat = keys.findIdx fun entry => entry.1 = key :=
    toNat_ofNat (by omega)
  have found := List.findIdx_getElem (w := inside)
  rw [exactly, List.getElem?_map, List.getElem?_eq_getElem inside]
  exact congrArg some (of_decide_eq_true found)

theorem programId_listed {ix : Instruction} (member : ix ∈ instructions) :
    ix.programId ∈ (uses payer instructions).map Prod.fst := by
  refine List.mem_map.mpr ⟨(ix.programId, false, false), List.mem_cons_of_mem _ ?_, rfl⟩
  exact List.mem_append_right _ (List.mem_map_of_mem member)

theorem account_listed {ix : Instruction} (member : ix ∈ instructions) {entry : PubKey × Bool × Bool}
    (account : entry ∈ ix.accounts) : entry.1 ∈ (uses payer instructions).map Prod.fst := by
  refine List.mem_map_of_mem (List.mem_cons_of_mem _ ?_)
  exact List.mem_append_left _ (List.mem_flatMap.mpr ⟨ix, member, account⟩)

theorem resolve_compile (recentBlockhash : Bytes 32)
    (fits : (sortedKeys payer instructions).length ≤ 255) {ix : Instruction}
    (member : ix ∈ instructions) :
    (compiledMessage payer instructions recentBlockhash).resolve
        (compile (sortedKeys payer instructions) ix) =
      some (ix.programId, ix.accounts.map Prod.fst, ix.data) := by
  have program := getElem_indexOf fits
    ((mem_sortedKeys payer instructions).mpr (programId_listed member))
  have accounts : (ix.accounts.map fun entry =>
        indexOf (sortedKeys payer instructions) entry.1).mapM
      (fun index => ((sortedKeys payer instructions).map Prod.fst)[index.toNat]?) =
        some (ix.accounts.map Prod.fst) :=
    Fallible.mapM_map_eq_some fun entry account => getElem_indexOf fits
      ((mem_sortedKeys payer instructions).mpr (account_listed member account))
  simp only [LegacyMessage.resolve, compiledMessage, compile, program, accounts, Option.bind_eq_bind,
    Option.bind_some, Option.pure_def]

/-- The flags a listed key has in the sorted table. -/
theorem flags_of_getElem {index : Nat} {key : PubKey}
    (found : ((sortedKeys payer instructions).map Prod.fst)[index]? = some key) :
    ∃ inside : index < (sortedKeys payer instructions).length,
      (((sortedKeys payer instructions)[index].2.1 = true ↔
          ∃ flags, (key, flags) ∈ uses payer instructions ∧ flags.1 = true) ∧
        ((sortedKeys payer instructions)[index].2.2 = true ↔
          ∃ flags, (key, flags) ∈ uses payer instructions ∧ flags.2 = true)) := by
  rw [List.getElem?_map] at found
  obtain ⟨entry, at_index, same⟩ := Option.map_eq_some_iff.mp found
  obtain ⟨inside, rfl⟩ := List.getElem?_eq_some_iff.mp at_index
  have member : (sortedKeys payer instructions)[index] ∈ collectKeys payer instructions :=
    (perm_sortedKeys payer instructions).mem_iff.mp (List.getElem_mem inside)
  subst key
  exact ⟨inside, flags_of_mem member⟩

/-- In the order of the ranks, what a lower rank has, every entry before it has. -/
theorem ranked_pairwise {p : PubKey × Bool × Bool → Bool}
    (down : ∀ a b, rank a ≤ rank b → p b → p a) :
    (sortedKeys payer instructions).Pairwise fun a b => p b → p a :=
  (ranked_sortedKeys payer instructions).imp fun ranked => down _ _ ranked

theorem isSigner_iff (recentBlockhash : Bytes 32)
    (fits : (sortedKeys payer instructions).length ≤ 255) {index : Nat}
    (inside : index < (sortedKeys payer instructions).length) :
    (compiledMessage payer instructions recentBlockhash).isSigner index = true ↔
      (sortedKeys payer instructions)[index].2.1 = true := by
  have counted : (sortedKeys payer instructions).countP (fun entry => entry.2.1) ≤ 255 :=
    Nat.le_trans List.countP_le_length fits
  have ordered : (sortedKeys payer instructions).Pairwise fun a b => b.2.1 → a.2.1 :=
    ranked_pairwise (p := fun entry => entry.2.1) (by
      rintro ⟨_, _ | _, _ | _⟩ ⟨_, _ | _, _ | _⟩ <;> simp [rank])
  rw [getElem_iff_lt_countP (p := fun entry => entry.2.1) ordered inside, LegacyMessage.isSigner,
    decide_eq_true_eq, compiledMessage, toNat_ofNat (by omega)]

theorem isWritable_iff (recentBlockhash : Bytes 32)
    (fits : (sortedKeys payer instructions).length ≤ 255) {index : Nat}
    (inside : index < (sortedKeys payer instructions).length) :
    (compiledMessage payer instructions recentBlockhash).isWritable index = true ↔
      (sortedKeys payer instructions)[index].2.2 = true := by
  have signer := isSigner_iff recentBlockhash fits inside
  have counted : ∀ p, (sortedKeys payer instructions).countP p ≤ 255 :=
    fun p => Nat.le_trans List.countP_le_length fits
  unfold LegacyMessage.isWritable
  cases signs : (sortedKeys payer instructions)[index].2.1 with
  | true =>
    -- writable signers come before readonly signers, and nothing before them
    have ordered : (sortedKeys payer instructions).Pairwise fun a b =>
        (b.2.1 && b.2.2) = true → (a.2.1 && a.2.2) = true :=
      ranked_pairwise (p := fun entry => entry.2.1 && entry.2.2) (by
        rintro ⟨_, _ | _, _ | _⟩ ⟨_, _ | _, _ | _⟩ <;> simp [rank])
    have split := countP_split (fun entry : PubKey × Bool × Bool => entry.2.1)
      (fun entry => entry.2.2) (sortedKeys payer instructions)
    have at_index := getElem_iff_lt_countP (p := fun entry => entry.2.1 && entry.2.2) ordered inside
    rw [if_pos (signer.mpr signs), decide_eq_true_eq, compiledMessage,
      toNat_ofNat (Nat.lt_succ_of_le (counted _)), toNat_ofNat (Nat.lt_succ_of_le (counted _)), split,
      Nat.add_sub_cancel, ← at_index, signs, Bool.true_and]
  | false =>
    -- readonly accounts that do not sign come last
    have ordered : (sortedKeys payer instructions).Pairwise fun a b =>
        (b.2.1 || b.2.2) = true → (a.2.1 || a.2.2) = true :=
      ranked_pairwise (p := fun entry => entry.2.1 || entry.2.2) (by
        rintro ⟨_, _ | _, _ | _⟩ ⟨_, _ | _, _ | _⟩ <;> simp [rank])
    have split := List.length_eq_countP_add_countP
      (fun entry : PubKey × Bool × Bool => entry.2.1 || entry.2.2)
      (l := sortedKeys payer instructions)
    have last : (sortedKeys payer instructions).countP
        (fun entry => !entry.2.1 && !entry.2.2) = (sortedKeys payer instructions).countP
          fun entry => decide ¬ (entry.2.1 || entry.2.2) = true := by
      congr 1
      funext entry
      cases entry.2.1 <;> cases entry.2.2 <;> rfl
    have at_index := getElem_iff_lt_countP (p := fun entry => entry.2.1 || entry.2.2) ordered inside
    have unsigned : ¬ (compiledMessage payer instructions recentBlockhash).isSigner index = true := by
      rw [signer, signs]
      decide
    rw [if_neg unsigned, decide_eq_true_eq, compiledMessage, List.length_map,
      toNat_ofNat (Nat.lt_succ_of_le (counted _)), last]
    rw [signs, Bool.false_or] at at_index
    rw [at_index]
    omega

/-- With at most 255 keys, 65535 instructions, and 65535 accounts and data bytes in each, the
legacy format reads a serialized message as what it was made from. -/
theorem serializeMessage_decodes (payer : PubKey) (instructions : List Instruction)
    (recentBlockhash : Bytes 32)
    (keys : ((uses payer instructions).map Prod.fst).dedup.length ≤ 255)
    (count : instructions.length ≤ 65535)
    (each : ∀ ix ∈ instructions, ix.accounts.length ≤ 65535 ∧ ix.data.length ≤ 65535) :
    ∃ message, decodeMessage (serializeMessage payer instructions recentBlockhash) = some message ∧
      Carries payer instructions recentBlockhash message := by
  have fits : (sortedKeys payer instructions).length ≤ 255 := by rwa [length_sortedKeys]
  have small : (sortedKeys payer instructions).length ≤ 65535 := by omega
  have read := reads_message recentBlockhash small count each
  refine ⟨_, whole_of_reads read, head_sortedKeys payer instructions,
    nodup_sortedKeys payer instructions, fun key => mem_sortedKeys payer instructions, rfl,
    Fallible.mapM_map_eq_some fun ix member => resolve_compile recentBlockhash fits member, ?_, ?_⟩
  · intro index key found
    obtain ⟨inside, signs, -⟩ := flags_of_getElem found
    rw [isSigner_iff recentBlockhash fits inside, signs]
  · intro index key found
    obtain ⟨inside, -, writes⟩ := flags_of_getElem found
    rw [isWritable_iff recentBlockhash fits inside, writes]

/-- A transfer whose authority is the payer, and a memo that the payer signs. -/
def transferAndMemo : List Instruction :=
  let payer := List.Vector.replicate 32 1
  [⟨List.Vector.replicate 32 6, [(List.Vector.replicate 32 9, false, true),
      (List.Vector.replicate 32 7, false, false), (List.Vector.replicate 32 8, false, true),
      (payer, true, false)], [12, 10]⟩,
    ⟨List.Vector.replicate 32 5, [(payer, true, false)], [104, 105]⟩]

theorem transferAndMemo_decodes : ∃ message,
    decodeMessage (serializeMessage (List.Vector.replicate 32 1) transferAndMemo
      (List.Vector.replicate 32 2)) = some message ∧
      Carries (List.Vector.replicate 32 1) transferAndMemo (List.Vector.replicate 32 2) message := by
  apply serializeMessage_decodes
  · decide
  · decide
  · exact List.forall_mem_cons.mpr ⟨by decide, List.forall_mem_cons.mpr ⟨by decide, nofun⟩⟩

end Exactness

section Base64

section Group

variable {n : Nat} {a b c : UInt8}

/-- The four characters of a group are those of its three bytes. -/
theorem quantum_group (group : n = a.toNat * 2 ^ 16 + b.toNat * 2 ^ 8 + c.toNat) :
    Base64.quantum (b64Char n 18) (b64Char n 12) (b64Char n 6) (b64Char n 0) = some [a, b, c] := by
  have bounds := (⟨a.toNat_lt, b.toNat_lt, c.toNat_lt⟩ : _ ∧ _ ∧ _)
  have first : n / 2 ^ 18 % 64 * 4 + n / 2 ^ 12 % 64 / 16 = a.toNat := by omega
  have second : n / 2 ^ 12 % 64 % 16 * 16 + n / 2 ^ 6 % 64 / 4 = b.toNat := by omega
  have third : n / 2 ^ 6 % 64 % 4 * 64 + n / 2 ^ 0 % 64 = c.toNat := by omega
  have read := Base64.quantum_three (Nat.mod_lt (n / 2 ^ 18) (by decide))
    (Nat.mod_lt (n / 2 ^ 12) (by decide)) (Nat.mod_lt (n / 2 ^ 6) (by decide))
    (Nat.mod_lt (n / 2 ^ 0) (by decide))
  rwa [first, second, third, UInt8.ofNat_toNat, UInt8.ofNat_toNat, UInt8.ofNat_toNat] at read

theorem quantum_pair (group : n = a.toNat * 2 ^ 16 + b.toNat * 2 ^ 8) :
    Base64.quantum (b64Char n 18) (b64Char n 12) (b64Char n 6) '=' = some [a, b] := by
  have bounds := (⟨a.toNat_lt, b.toNat_lt⟩ : _ ∧ _)
  have even : n / 2 ^ 6 % 64 % 4 = 0 := by omega
  have first : n / 2 ^ 18 % 64 * 4 + n / 2 ^ 12 % 64 / 16 = a.toNat := by omega
  have second : n / 2 ^ 12 % 64 % 16 * 16 + n / 2 ^ 6 % 64 / 4 = b.toNat := by omega
  have read := Base64.quantum_two (Nat.mod_lt (n / 2 ^ 18) (by decide))
    (Nat.mod_lt (n / 2 ^ 12) (by decide)) (Nat.mod_lt (n / 2 ^ 6) (by decide)) even
  rwa [first, second, UInt8.ofNat_toNat, UInt8.ofNat_toNat] at read

theorem quantum_single (group : n = a.toNat * 2 ^ 16) :
    Base64.quantum (b64Char n 18) (b64Char n 12) '=' '=' = some [a] := by
  have bound := a.toNat_lt
  have even : n / 2 ^ 12 % 64 % 16 = 0 := by omega
  have first : n / 2 ^ 18 % 64 * 4 + n / 2 ^ 12 % 64 / 16 = a.toNat := by omega
  have read := Base64.quantum_one (Nat.mod_lt (n / 2 ^ 18) (by decide))
    (Nat.mod_lt (n / 2 ^ 12) (by decide)) even
  rwa [first, UInt8.ofNat_toNat] at read

theorem b64Char_ne_pad (shift : Nat) : b64Char n shift ≠ '=' :=
  Base64.digit_ne_pad _ (Nat.mod_lt _ (by decide))

end Group

/-- Each group of three bytes is read back from its four characters, and a shorter last group
from its padded ones. -/
theorem decode_b64Chunks (bytes : List UInt8) : Base64.decode (b64Chunks bytes) = some bytes := by
  induction bytes using b64Chunks.induct with
  | case1 => rfl
  | case2 a => exact Base64.decode_last (quantum_single rfl)
  | case3 a b => exact Base64.decode_last (quantum_pair rfl)
  | case4 a b c rest ih =>
    rw [b64Chunks, Base64.decode_cons (quantum_group rfl) (b64Char_ne_pad 0), ih]
    rfl

theorem length_b64Chunks (bytes : List UInt8) :
    (b64Chunks bytes).length = 4 * ((bytes.length + 2) / 3) := by
  induction bytes using b64Chunks.induct with
  | case1 => rfl
  | case2 a => simp [b64Chunks]
  | case3 a b => simp [b64Chunks]
  | case4 a b c rest ih =>
    rw [b64Chunks]
    simp only [List.length_cons, ih]
    omega

/-- Every byte string is decoded from its text, which has four characters for each three bytes or
what is left of them; so no two have the same text. -/
theorem b64_decodes :
    (∀ bytes, Base64.decode (b64 bytes).toList = some bytes ∧
      (b64 bytes).length = 4 * ((bytes.length + 2) / 3)) ∧ Function.Injective b64 := by
  have decoded : ∀ bytes, Base64.decode (b64 bytes).toList = some bytes := by
    intro bytes
    rw [b64, String.toList_ofList]
    exact decode_b64Chunks bytes
  refine ⟨fun bytes => ⟨decoded bytes, ?_⟩, fun bytes other same => ?_⟩
  · rw [b64, String.length_ofList]
    exact length_b64Chunks bytes
  · have read := decoded bytes
    rw [same, decoded other] at read
    exact (Option.some.inj read).symm

end Base64

end Patala.Solana
