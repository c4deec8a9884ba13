import Patala.Lib.Base58
import Patala.Solana.Charge
import Patala.Solana.Exactness

/-! Charge and verify together: whether a payment that lands exactly as it was built is
accepted. The transfer moves tokens between accounts; the receipt is checked
against the balances of their owners. -/

namespace Patala.Solana

open Machine Json

/-- A token account of the configured mint. -/
structure TokenAccount where
  address : PubKey
  owner : PubKey
  amount : Nat

/-- What `TransferChecked` does to the account of one address. -/
def moved (source dest : PubKey) (amount : Nat) (account : TokenAccount) : TokenAccount :=
  if source = dest then account
  else if account.address = source then { account with amount := account.amount - amount }
  else if account.address = dest then { account with amount := account.amount + amount }
  else account

section

variable (crates : Crates)

def holdings (accounts : List TokenAccount) : List (String × Int) :=
  accounts.map fun account => (pubkeyToBase58 crates account.owner, account.amount)

/-- A balance list records these accounts. -/
structure Recorded (mint : String) (list : Option Value) (accounts : List TokenAccount) : Prop where
  readable : Readable mint list
  exact : balances mint list = holdings crates accounts

/-- The transfer executes: its two accounts exist, hold the money and belong to the
payer and the destination. -/
structure Transferable (source dest payer payee : PubKey) (amount : Nat)
    (accounts : List TokenAccount) : Prop where
  distinct : (accounts.map TokenAccount.address).Nodup
  sourceHeld : ∃ account ∈ accounts, account.address = source ∧ account.owner = payer ∧
    amount ≤ account.amount
  destHeld : ∃ account ∈ accounts, account.address = dest ∧ account.owner = payee

/-- The transaction of a request has landed as it was built: no error, at the
configured commitment, signed by the payer, with the memo, and with the transfer
executed on the payer's and the payee's associated token accounts. -/
structure Landed (derivation : Derivation) (cfg : SolanaConfig) (payer payee : PubKey)
    (req : PayRequest) (txn : Value) : Prop where
  succeeded : succeeded txn = true
  committed : statusAccepted txn cfg.commitment = true
  signed : signedBy txn (pubkeyToBase58 crates payer) = true
  memoRecorded : bindingMemo crates payer req.reference ∈ memos txn
  transferred : ∃ source dest accounts,
    associatedTokenAddress crates derivation payer cfg.usdcMint = .ok source ∧
    associatedTokenAddress crates derivation payee cfg.usdcMint = .ok dest ∧
    Transferable source dest payer payee req.amountMinor.toNat accounts ∧
    Recorded crates (cfg.mintBase58 crates) (metaList txn "preTokenBalances") accounts ∧
    Recorded crates (cfg.mintBase58 crates) (metaList txn "postTokenBalances")
      (accounts.map (moved source dest req.amountMinor.toNat))

end

section Balances

variable {crates : Crates}

/-- The change a transfer makes to one account. -/
def changeAt (source dest : PubKey) (amount : Nat) (address : PubKey) : Int :=
  (if address = dest then (amount : Int) else 0) + if address = source then -(amount : Int) else 0

theorem moved_owner (account : TokenAccount) :
    (moved source dest amount account).owner = account.owner := by
  unfold moved
  split_ifs <;> rfl

theorem moved_amount {account : TokenAccount} (differs : source ≠ dest)
    (held : account.address = source → amount ≤ account.amount) :
    ((moved source dest amount account).amount : Int) =
      account.amount + changeAt source dest amount account.address := by
  unfold moved changeAt
  rw [if_neg differs]
  by_cases atSource : account.address = source
  · have enough := held atSource
    have notDest : account.address ≠ dest := fun same => differs (atSource.symm.trans same)
    simp only [atSource, ↓reduceIte, differs, zero_add]
    omega
  · by_cases atDest : account.address = dest
    · simp [atDest, Ne.symm differs]
    · simp [atSource, atDest]

/-- Between two accounts, a transfer moves the amount from the one owner's total to
the other's, and no other owner's total. -/
theorem sumFor_transferred {accounts : List TokenAccount} (differs : source ≠ dest)
    (able : Transferable source dest payer payee amount accounts) (owner : String) :
    Tally.sumFor (holdings crates (accounts.map (moved source dest amount))) owner =
      Tally.sumFor (holdings crates accounts) owner +
        ((if pubkeyToBase58 crates payee = owner then (amount : Int) else 0) +
          if pubkeyToBase58 crates payer = owner then -(amount : Int) else 0) := by
  obtain ⟨paying, payingListed, payingAddress, payingOwner, enough⟩ := able.sourceHeld
  obtain ⟨paid, paidListed, paidAddress, paidOwner⟩ := able.destHeld
  have only : ∀ account ∈ accounts, account.address = source → amount ≤ account.amount := by
    intro account listed address
    have same : account = paying :=
      List.inj_on_of_nodup_map able.distinct listed payingListed (address.trans payingAddress.symm)
    rwa [same]
  have changed : holdings crates (accounts.map (moved source dest amount)) =
      accounts.map fun account => (pubkeyToBase58 crates account.owner,
        (account.amount : Int) + changeAt source dest amount account.address) := by
    rw [holdings, List.map_map]
    apply List.map_congr_left
    intro account listed
    simp only [Function.comp_apply, moved_owner, moved_amount differs (only account listed)]
  rw [changed, Tally.sumFor_map_add]
  congr 1
  unfold changeAt
  rw [Tally.sumFor_map_add, ← paidAddress, ← payingAddress,
    Tally.sumFor_map_single able.distinct paidListed, Tally.sumFor_map_single able.distinct
      payingListed, paidOwner, payingOwner]

/-- One account has one owner, so two owners have two accounts. -/
theorem Transferable.source_ne_dest {accounts : List TokenAccount}
    (able : Transferable source dest payer payee amount accounts) (differs : payee ≠ payer) :
    source ≠ dest := by
  intro same
  obtain ⟨paying, payingListed, payingAddress, payingOwner, -⟩ := able.sourceHeld
  obtain ⟨paid, paidListed, paidAddress, paidOwner⟩ := able.destHeld
  have one : paid = paying := List.inj_on_of_nodup_map able.distinct paidListed payingListed
    (paidAddress.trans (same.symm.trans payingAddress.symm))
  exact differs (by rw [← paidOwner, ← payingOwner, one])

/-- A payment that landed changed balances as its receipt says, unless it was to
the payer's own wallet. -/
theorem Landed.exactDelta_eq {derivation : Derivation} {cfg : SolanaConfig} {payer payee : PubKey}
    {req : PayRequest} {txn : Value} (landed : Landed crates derivation cfg payer payee req txn)
    (differs : pubkeyToBase58 crates payee ≠ pubkeyToBase58 crates payer) (owner : String) :
    exactDelta txn (cfg.mintBase58 crates) owner =
      changeOf (pubkeyToBase58 crates payer) (pubkeyToBase58 crates payee) req.amountMinor owner := by
  obtain ⟨source, dest, accounts, -, -, able, before, after⟩ := landed.transferred
  have apart := able.source_ne_dest fun same => differs (congrArg _ same)
  rw [exactDelta, before.exact, after.exact, sumFor_transferred apart able, add_sub_cancel_left]
  unfold changeOf
  by_cases toPayee : owner = pubkeyToBase58 crates payee
  · simp [toPayee, Ne.symm differs]
  · by_cases toPayer : owner = pubkeyToBase58 crates payer
    · simp [toPayer, differs, Ne.symm differs]
    · simp [toPayee, toPayer, Ne.symm toPayee, Ne.symm toPayer]

theorem Landed.readable {derivation : Derivation} {cfg : SolanaConfig} {payer payee : PubKey}
    {req : PayRequest} {txn : Value} (landed : Landed crates derivation cfg payer payee req txn) :
    Readable (cfg.mintBase58 crates) (metaList txn "preTokenBalances") ∧
      Readable (cfg.mintBase58 crates) (metaList txn "postTokenBalances") := by
  obtain ⟨source, dest, accounts, -, -, -, before, after⟩ := landed.transferred
  exact ⟨before.readable, after.readable⟩

end Balances

/-- A list read without an error is readable, and its balances are what was read. -/
theorem balances_of_read {mint : String} {entries : List Value}
    {answers : List (Option (String × Int))}
    (each : List.Forall₂ (fun entry answer => readBalance mint entry = .ok answer) entries answers) :
    Readable mint (some (.array entries)) ∧
      balances mint (some (.array entries)) = answers.filterMap id := by
  induction each with
  | nil => exact ⟨by simp [Readable, balanceList, Value.asArray], rfl⟩
  | @cons entry answer rest others read _ ih =>
    obtain ⟨readable, same⟩ := ih
    refine ⟨List.forall_mem_cons.mpr ⟨⟨_, read⟩, readable⟩, ?_⟩
    have step : balances mint (some (.array (entry :: rest))) =
        (answer.toList ++ balances mint (some (.array rest))) := by
      simp only [balances, balanceList, Option.bind_some, Value.asArray, Option.getD_some,
        List.filterMap_cons, read]
      cases answer <;> rfl
    rw [step, same]
    cases answer <;> rfl

theorem recorded_of_read {crates : Crates} {mint : String} {list : Option Value}
    {accounts : List TokenAccount}
    (read : (balanceList list).mapM (readBalance mint) = .ok ((holdings crates accounts).map some)) :
    Recorded crates mint list accounts := by
  obtain ⟨readable, exact⟩ := balances_of_read (Fallible.mapM_eq_ok.mp read)
  refine ⟨readable, exact.trans ?_⟩
  simp

section Charge

variable {crates : Crates} {derivation : Derivation}

theorem prepare_ok_iff {signer : Option Keypair} {req : PayRequest} {keypair : Keypair}
    {payee : PubKey} :
    prepare crates signer req = .ok (keypair, payee) ↔
      req.validate = .ok () ∧ req.currency = "USDC" ∧ signer = some keypair ∧
        pubkeyFromBase58 crates req.destination.text = .ok payee := by
  simp only [prepare, Fallible.bind_eq_ok, insist_ok_iff, okOr_ok_iff, Fallible.mapError_eq_ok,
    pure, Except.pure, Except.ok.injEq, Prod.mk.injEq]
  constructor
  · rintro ⟨_, valid, _, usdc, found, held, dest, decoded, rfl, rfl⟩
    exact ⟨valid, usdc, held, decoded⟩
  · rintro ⟨valid, usdc, held, decoded⟩
    exact ⟨(), valid, (), usdc, keypair, held, payee, decoded, rfl, rfl⟩

/-- A receipt is issued for the signature the node answered with, and only for a
request that passed every check. -/
theorem charge_ok {rail : SolanaRail σ} {signer : Option Keypair} {req : PayRequest} {now : UInt64}
    {world : σ} {receipt : Receipt}
    (charged : (rail.charge crates derivation signer req now world).1 = .ok receipt) :
    ∃ keypair payee signature, prepare crates signer req = .ok (keypair, payee) ∧
      receipt = issue crates rail.cfg keypair.pubkey req signature now := by
  unfold SolanaRail.charge at charged
  split at charged
  · cases charged
  · rename_i keypair payee prepared
    split at charged
    · cases charged
    · split at charged
      · cases charged
      · split at charged
        · cases charged
        · rename_i signature last sent
          exact ⟨keypair, payee, signature, prepared, (Except.ok.inj charged).symm⟩

/-- What the rail relies on of base58 and of the JSON form of its binding. -/
structure Crates.RoundTrips (crates : Crates) : Prop where
  decode_encode : ∀ bytes, crates.bs58Decode (crates.bs58Encode bytes) = some bytes
  encode_decode : ∀ text bytes, crates.bs58Decode text = some bytes → crates.bs58Encode bytes = text
  fromSlice_toVec : ∀ binding, crates.fromSlice (crates.toVec binding) = some binding

theorem Crates.RoundTrips.pubkeyToBase58 (faithful : crates.RoundTrips)
    (decoded : pubkeyFromBase58 crates text = .ok key) : pubkeyToBase58 crates key = text :=
  faithful.encode_decode text key.toList ((pubkeyFromBase58_ok_iff crates).mp decoded)

/-- The receipt passes the checks made before the network is asked. -/
theorem checkBinding_issue (faithful : crates.RoundTrips) (cfg : SolanaConfig) (payer : PubKey)
    {req : PayRequest} (usdc : req.currency = "USDC") (signature : String) (now : UInt64) :
    checkBinding crates cfg (issue crates cfg payer req signature now) =
      some (paymentBinding crates cfg payer req signature, payer) := by
  have decoded : pubkeyFromBase58 crates (pubkeyToBase58 crates payer) = .ok payer :=
    (pubkeyFromBase58_ok_iff crates).mpr (faithful.decode_encode payer.toList)
  exact checkBinding_eq_some.mpr
    ⟨rfl, usdc, faithful.fromSlice_toVec _, rfl, rfl, decoded, rfl⟩

/-- The receipt of a payment that landed as built is accepted exactly when the
destination is not the rail's own wallet. -/
theorem landed_verify_iff (faithful : crates.RoundTrips) (rail : SolanaRail σ) (signer : Keypair)
    (req : PayRequest) (now : UInt64) (world later : σ) (receipt : Receipt) (payee : PubKey)
    (txn : Value)
    (charged : (rail.charge crates derivation (some signer) req now world).1 = .ok receipt)
    (decoded : pubkeyFromBase58 crates req.destination.text = .ok payee)
    (landed : Landed crates derivation rail.cfg signer.pubkey payee req txn)
    (served : ∀ binding, crates.fromSlice receipt.proof = some binding →
      rail.Serves later binding txn) :
    (rail.verify crates receipt later).1 = .ok true ↔
      req.destination.text ≠ pubkeyToBase58 crates signer.pubkey := by
  obtain ⟨keypair, dest, signature, prepared, rfl⟩ := charge_ok charged
  obtain ⟨valid, usdc, held, -⟩ := prepare_ok_iff.mp prepared
  obtain rfl := Option.some.inj held
  have named := faithful.pubkeyToBase58 decoded
  have bound := checkBinding_issue faithful rail.cfg signer.pubkey usdc signature now
  have answer := served _ (faithful.fromSlice_toVec _)
  rw [verify_served_iff bound answer]
  constructor
  · rintro ⟨presented, -⟩ same
    exact PayRequest.amount_ne_zero valid (presented.distinct same)
  · intro differs
    obtain ⟨readableBefore, readableAfter⟩ := landed.readable
    refine ⟨⟨landed.succeeded, landed.committed, landed.signed,
      (memoMatches_iff txn).mpr landed.memoRecorded, readableBefore, readableAfter,
      fun same => absurd same differs⟩, ?_⟩
    intro owner
    rw [landed.exactDelta_eq (by rwa [named]) owner, named]
    exact Int.ModEq.refl _

end Charge

/-! ## A wallet pays a shop, and itself -/

namespace Payer

open Instance (mint mintBase58 order42 bindingJson memoInstruction)

/-- The wallet whose secret seed is thirty-two bytes 1. -/
def payerBase58 : String := "AKnL4NNf3DGWZJS6cPknBuEGnVsV4A4m5tgebLHaRSZ9"

def payer : PubKey :=
  ⟨[138, 136, 227, 221, 116, 9, 241, 149, 253, 82, 219, 45, 60, 186, 93, 114, 202, 103, 9, 191,
    29, 148, 18, 27, 243, 116, 136, 1, 180, 15, 111, 92], rfl⟩

/-- The wallet whose secret seed is thirty-two bytes 2. -/
def shopBase58 : String := "9hSR6S7WPtxmTojgo6GG3k4yDPecgJY292j7xrsUGWBu"

def shop : PubKey :=
  ⟨[129, 57, 119, 14, 168, 125, 23, 95, 86, 163, 84, 102, 195, 76, 126, 204, 203, 141, 138, 145,
    180, 238, 55, 162, 93, 246, 15, 91, 143, 201, 179, 148], rfl⟩

def digest42 : Bytes 32 :=
  ⟨[202, 162, 124, 248, 51, 7, 72, 63, 90, 78, 160, 23, 229, 167, 71, 102, 75, 148, 73, 167, 76,
    253, 158, 127, 171, 219, 110, 192, 220, 78, 93, 149], rfl⟩

def payerAta : PubKey :=
  ⟨[237, 198, 54, 224, 64, 30, 41, 192, 153, 234, 39, 3, 128, 101, 145, 230, 228, 11, 238, 193,
    9, 21, 7, 2, 93, 187, 254, 109, 99, 118, 31, 226], rfl⟩

/-- The shop's address of bump 255 is a point of the curve, so the next one is taken. -/
def shopOnCurve : PubKey :=
  ⟨[243, 63, 233, 161, 183, 209, 202, 2, 220, 8, 192, 44, 205, 115, 21, 228, 18, 250, 157, 153,
    31, 145, 60, 203, 202, 94, 153, 47, 203, 115, 224, 182], rfl⟩

def shopAta : PubKey :=
  ⟨[237, 175, 27, 156, 22, 31, 109, 105, 138, 70, 185, 176, 120, 9, 164, 161, 141, 191, 83, 196,
    50, 182, 162, 75, 241, 177, 8, 131, 252, 203, 34, 152], rfl⟩

def tokenProgram : PubKey :=
  ⟨[6, 221, 246, 225, 215, 101, 161, 147, 217, 203, 225, 70, 206, 235, 121, 172, 28, 180, 133,
    237, 95, 91, 55, 145, 58, 140, 245, 133, 126, 255, 0, 169], rfl⟩

def associatedTokenProgram : PubKey :=
  ⟨[140, 151, 37, 143, 78, 36, 137, 241, 187, 61, 16, 41, 20, 142, 13, 131, 11, 90, 19, 153,
    218, 255, 16, 132, 4, 142, 123, 216, 219, 233, 248, 89], rfl⟩

def ataPreimage (owner : PubKey) (bump : UInt8) : List UInt8 :=
  [owner.toList, tokenProgram.toList, mint.toList].flatten ++ [bump] ++
    associatedTokenProgram.toList ++ asBytes "ProgramDerivedAddress"

def derivation : Derivation where
  sha256 bytes :=
    if bytes = ataPreimage payer 255 then payerAta
    else if bytes = ataPreimage shop 255 then shopOnCurve
    else if bytes = ataPreimage shop 254 then shopAta
    else List.Vector.replicate 32 0
  isOnCurve address := address = shopOnCurve

/-- Who is paid. -/
inductive Payee where
  | shop
  | self

def Payee.base58 : Payee → Str
  | shop => ⟨shopBase58, by decide⟩
  | self => ⟨payerBase58, by decide⟩

def Payee.key : Payee → PubKey
  | shop => Payer.shop
  | self => payer

def Payee.ata : Payee → PubKey
  | shop => shopAta
  | self => payerAta

/-- The signature of the payment, which names its transaction. -/
def Payee.signature : Payee → String
  | shop => "3SaWnNwp6mLuExvmvjyccK5Yr9trG2DU59ZzyU2sWrwkQBzhPL7cNDYHSFiaKJWgTNU3zoeioMc5kwcyLatE4gMS"
  | self => "5mGqnNLquREisfkSWjKdbrpQv5tG88LtGnaTbuK74MUSEBs5XiYSYhqWjhL1CYpuyDK6ZBVh8f8fVpZu3serWFNL"

/-- It signs with the payment's signature. -/
def signer (payee : Payee) : Keypair where
  pubkey := payer
  sign _ := ((Base58.decode payee.signature).bind (toArray? 64)).getD (List.Vector.replicate 64 0)

def request (payee : Payee) : PayRequest := ⟨5000000, "USDC", payee.base58, order42⟩

def binding (payee : Payee) : SolanaBinding where
  chain := "solana"
  txSignature := payee.signature
  mint := mintBase58
  payer := payerBase58
  destination := payee.base58.text
  reference := Codec.hexEncode digest42.toList

def bindings : List (SolanaBinding × List UInt8) :=
  [(binding .shop, bindingJson (binding .shop)), (binding .self, bindingJson (binding .self))]

def crates : Crates where
  blake3 bytes :=
    if bytes = bindingPreimage payer order42 then digest42 else List.Vector.replicate 32 0
  hexEncode := Codec.hexEncode
  bs58Encode := Base58.encode
  bs58Decode := Base58.decode
  toVec := Codec.encode Codec.zeroMarking bindings
  fromSlice := Codec.decode Codec.zeroMarking bindings

theorem bindings_valid : Codec.WellFormed Codec.zeroMarking bindings where
  distinct := by decide
  unmarked := by decide

theorem crates_roundTrips : crates.RoundTrips where
  decode_encode := Base58.decode_encode
  encode_decode _ _ := Base58.encode_decode
  fromSlice_toVec := Codec.decode_encode bindings_valid

/-- The payer holds seven dollars before either payment. -/
def before : Payee → List TokenAccount
  | .shop => [⟨payerAta, payer, 7000000⟩, ⟨shopAta, shop, 0⟩]
  | .self => [⟨payerAta, payer, 7000000⟩]

def after : Payee → List TokenAccount
  | .shop => [⟨payerAta, payer, 2000000⟩, ⟨shopAta, shop, 5000000⟩]
  | .self => [⟨payerAta, payer, 7000000⟩]

def balanceEntry (account : TokenAccount) : Value :=
  .object [("owner", .string (pubkeyToBase58 crates account.owner)), ("mint", .string mintBase58),
    ("uiTokenAmount", .object [("amount", .string (toString account.amount))])]

/-- The payment's transaction as a node reports it. -/
def transaction (payee : Payee) : Value :=
  .object [
    ("meta", .object [
      ("err", .null),
      ("preTokenBalances", .array ((before payee).map balanceEntry)),
      ("postTokenBalances", .array ((after payee).map balanceEntry))]),
    ("transaction", .object [("message", .object [
      ("accountKeys", .array
        [.object [("pubkey", .string payerBase58), ("signer", .bool true)]]),
      ("instructions", .array
        [memoInstruction ("patala:v1:" ++ Codec.hexEncode digest42.toList)])])])]

/-- The node takes the payment's wire form and nothing else. -/
def rail (payee : Payee) : SolanaRail Unit where
  cfg := ⟨.confirmed, mint⟩
  rpc := {
    getTransaction := fun _ _ world => (.ok (some (transaction payee)), world)
    getLatestBlockhash := fun _ world => (.ok "LbUiWL3xVV8hTFYBVdbTNrpDo41NKS6o3LHHuDzjfcY", world)
    sendTransaction := fun _ world => (.ok payee.signature, world) }

def receipt (payee : Payee) : Receipt := issue crates (rail payee).cfg payer (request payee)
  payee.signature 1700000000

theorem charged (payee : Payee) :
    ((rail payee).charge crates derivation (some (signer payee)) (request payee) 1700000000 ()).1 =
      .ok (receipt payee) := by
  cases payee <;> decide +kernel

theorem decoded (payee : Payee) :
    pubkeyFromBase58 crates (request payee).destination.text = .ok payee.key := by
  cases payee <;> decide

/-- The search for the shop's token account steps over the address on the curve. -/
example : (associatedTokenAddress crates derivation shop mint).toOption = some shopAta := by
  decide +kernel

theorem after_eq (payee : Payee) :
    (before payee).map (moved payerAta payee.ata 5000000) = after payee := by
  cases payee with
  | shop =>
    have apart : payerAta ≠ shopAta := by decide
    simp [before, after, moved, Payee.ata, apart, Ne.symm apart]
  | self => rfl

theorem transferable (payee : Payee) :
    Transferable payerAta payee.ata payer payee.key 5000000 (before payee) := by
  cases payee with
  | shop =>
    exact ⟨by decide, ⟨⟨payerAta, payer, 7000000⟩, by simp [before], rfl, rfl, by decide⟩,
      ⟨⟨shopAta, shop, 0⟩, by simp [before], rfl, rfl⟩⟩
  | self =>
    exact ⟨by decide, ⟨⟨payerAta, payer, 7000000⟩, by simp [before], rfl, rfl, by decide⟩,
      ⟨⟨payerAta, payer, 7000000⟩, by simp [before], rfl, rfl⟩⟩

theorem landed (payee : Payee) :
    Landed crates derivation (rail payee).cfg payer payee.key (request payee) (transaction payee) where
  succeeded := rfl
  committed := rfl
  signed := by cases payee <;> decide
  memoRecorded := by cases payee <;> decide
  transferred := by
    refine ⟨payerAta, payee.ata, before payee, ?_, ?_, transferable payee, ?_, ?_⟩
    · cases payee <;> decide +kernel
    · cases payee <;> decide +kernel
    · exact recorded_of_read (by cases payee <;> decide)
    · have moves : (before payee).map (moved payerAta payee.ata (request payee).amountMinor.toNat) =
          after payee := after_eq payee
      rw [moves]
      exact recorded_of_read (by cases payee <;> decide)

/-- Paying the shop is accepted. -/
theorem shop_paid :
    ((rail .shop).verify crates (receipt .shop) ()).1 = .ok true ↔
      (request .shop).destination.text ≠ pubkeyToBase58 crates (signer .shop).pubkey :=
  landed_verify_iff crates_roundTrips (rail .shop) (signer .shop) (request .shop) 1700000000 () ()
    (receipt .shop) shop (transaction .shop) (charged .shop) (decoded .shop) (landed .shop)
    fun _ _ => rfl

/-- Paying oneself is charged, lands, and is refused. -/
theorem own_wallet_refused :
    ((rail .self).charge crates derivation (some (signer .self)) (request .self) 1700000000 ()).1 =
        .ok (receipt .self) ∧
      Landed crates derivation (rail .self).cfg payer payer (request .self) (transaction .self) ∧
      ((rail .self).verify crates (receipt .self) ()).1 = .ok false :=
  ⟨charged .self, landed .self, by decide +kernel⟩

end Payer

end Patala.Solana
