import Patala.Lib.Tally
import Patala.Solana.Binding

/-! What the rail reads off a transaction an RPC node returned: its status, its
signers, its memos and its token balances. -/

namespace Patala.Solana

open Machine Json

section

variable (txn : Value)

/-- `meta.err` is present and null. -/
def succeeded : Bool :=
  match (txn.get "meta").bind (·.get "err") with
  | none => false
  | some err => err.isNull

/-- A status the node echoes must meet the commitment; none need be echoed. -/
def statusAccepted (commitment : Commitment) : Bool :=
  match txn.getStr "confirmationStatus" with
  | none => true
  | some status =>
    match commitment with
    | .confirmed => status = "confirmed" || status = "finalized"
    | .finalized => status = "finalized"

def message : Option Value := (txn.get "transaction").bind (·.get "message")

/-- `want` is listed among the account keys as a signer. -/
def signedBy (want : String) : Bool :=
  match ((message txn).bind (·.get "accountKeys")).bind Value.asArray with
  | none => false
  | some keys => keys.any fun key =>
      key.getStr "pubkey" = some want && (key.get "signer").bind Value.asBool = some true

/-- A memo instruction carrying exactly `want`. -/
def isMemo (want : String) (ix : Value) : Bool :=
  ix.getStr "program" = some "spl-memo" && ix.getStr "parsed" = some want

def scanMemos (ixs : Option Value) (want : String) : Bool :=
  match ixs.bind Value.asArray with
  | none => false
  | some items => items.any (isMemo want)

/-- Some top-level or inner memo instruction carries exactly `want`. -/
def memoMatches (want : String) : Bool :=
  scanMemos ((message txn).bind (·.get "instructions")) want ||
    match ((txn.get "meta").bind (·.get "innerInstructions")).bind Value.asArray with
    | none => false
    | some groups => groups.any fun group => scanMemos (group.get "instructions") want

/-- Owner and amount of a balance entry of `mint`; entries of other mints are skipped. -/
def readBalance (mint : String) (entry : Value) : Except Error (Option (String × Int)) :=
  if entry.getStr "mint" ≠ some mint then .ok none
  else match entry.getStr "owner" with
    | none => .error (.rail "token balance without owner")
    | some owner =>
      match (entry.get "uiTokenAmount").bind (·.getStr "amount") with
      | none => .error (.rail "token balance without amount")
      | some text =>
        match parseI128 text with
        | none => .error (.rail "token amount is not an integer")
        | some amount => .ok (some (owner, amount))

/-- One turn of the balance loop: the owner's running delta moves by `sign * amount`. -/
def applyBalance (mint : String) (sign : Int) (deltas : List (String × Int)) (entry : Value) :
    Except Error (List (String × Int)) :=
  match readBalance mint entry with
  | .error error => .error error
  | .ok none => .ok deltas
  | .ok (some (owner, amount)) => .ok (Tally.credit add128 deltas owner (mul128 sign amount))

/-- The entries of a balance list; a list that is missing or no array has none. -/
def balanceList (list : Option Value) : List Value := (list.bind Value.asArray).getD []

def applyBalances (mint : String) (list : Option Value) (sign : Int)
    (deltas : List (String × Int)) : Except Error (List (String × Int)) :=
  (balanceList list).foldlM (applyBalance mint sign) deltas

/-- Net change of `mint` for each owner, in smallest units. -/
def mintDeltas (mint : String) : Except Error (List (String × Int)) :=
  match txn.get "meta" with
  | none => .error (.rail "transaction has no meta")
  | some record =>
    match applyBalances mint (record.get "preTokenBalances") (-1) [] with
    | .error error => .error error
    | .ok deltas => applyBalances mint (record.get "postTokenBalances") 1 deltas

end

/-- The two changes a payment makes, the destination's first. -/
def expectedDeltas (payer destination : String) (amount : UInt64) : List (String × Int) :=
  [(destination, amount.toNat), (payer, -amount.toNat)]

/-- Every expected change happened, found by first match, and nothing else did. -/
def deltasSettle (expected deltas : List (String × Int)) : Bool :=
  (expected.all fun entry => Tally.total deltas entry.1 = entry.2) &&
    deltas.all fun entry => entry.2 = 0 || expected.any fun other => other.1 = entry.1

end Patala.Solana
