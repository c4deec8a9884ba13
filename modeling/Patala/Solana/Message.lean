import Mathlib.Data.List.Sort
import Patala.Lib.Tally
import Patala.Solana.Binding

/-! Solana's wire format, as far as a payment needs it: associated token accounts, the
memo and transfer instructions, and the legacy message that carries them. -/

namespace Patala.Solana

open Machine

def tokenProgramId : String := "TokenkegQfeZyiNwAJbNbGKPFXCWuBvf9Ss623VQ5DA"

def associatedTokenProgramId : String := "ATokenGPvbdGVxr1b2hvZbsiqW5xWH25efTNsLJA8knL"

def memoProgramId : String := "MemoSq4gqABAXKb96qnH8TysNcWxMyWCqXgDLGmfcHr"

def usdcDecimals : UInt8 := 6

/-- The hash of program-derived addresses, and the test for a point of the curve. -/
structure Derivation where
  sha256 : List UInt8 → Bytes 32
  isOnCurve : Bytes 32 → Bool

section Accounts

variable (crates : Crates) (derivation : Derivation)

/-- The candidate address of one bump. -/
def derivedAddress (seeds : List (List UInt8)) (programId : PubKey) (bump : UInt8) : PubKey :=
  derivation.sha256 (seeds.flatten ++ [bump] ++ programId.toList ++ asBytes "ProgramDerivedAddress")

/-- Hash the seeds with a descending bump until the result falls off the curve. -/
def findProgramAddress (seeds : List (List UInt8)) (programId : PubKey) :
    Except SolanaError (PubKey × UInt8) :=
  let bumps := ((List.range 256).reverse).map UInt8.ofNat
  match bumps.find? fun bump => !derivation.isOnCurve (derivedAddress derivation seeds programId bump) with
  | some bump => .ok (derivedAddress derivation seeds programId bump, bump)
  | none => .error .derivation

/-- The associated token account that holds `mint` for `owner`. -/
def associatedTokenAddress (owner mint : PubKey) : Except SolanaError PubKey := do
  let token ← pubkeyFromBase58 crates tokenProgramId
  let ataProgram ← pubkeyFromBase58 crates associatedTokenProgramId
  let (address, _) ← findProgramAddress derivation [owner.toList, token.toList, mint.toList] ataProgram
  return address

end Accounts

/-- An instruction with real keys; an account says whether it signs and is written. -/
structure Instruction where
  programId : PubKey
  accounts : List (PubKey × Bool × Bool)
  data : List UInt8

section Instructions

variable (crates : Crates)

/-- SPL Token `TransferChecked`. The source panics on a constant that is no address;
here it is an error. -/
def transferChecked (source mint dest authority : PubKey) (amount : UInt64) (decimals : UInt8) :
    Except SolanaError Instruction := do
  let programId ← pubkeyFromBase58 crates tokenProgramId
  return {
    programId
    accounts := [(source, false, true), (mint, false, false), (dest, false, true),
      (authority, true, false)]
    data := [12] ++ Framing.leBytes 8 amount.toNat ++ [decimals] }

/-- SPL Memo, carrying the binding on-chain. -/
def memo (signer : PubKey) (note : String) : Except SolanaError Instruction := do
  let programId ← pubkeyFromBase58 crates memoProgramId
  return { programId, accounts := [(signer, true, false)], data := asBytes note }

end Instructions

section Message

/-- The loop of `compact_u16` with turns left to take; ten hold any `usize`. -/
def compactU16Loop : Nat → Nat → List UInt8
  | 0, _ => []
  | turns + 1, rem =>
    if rem / 128 = 0 then [UInt8.ofNat (rem % 128)]
    else UInt8.ofNat (rem % 128 + 128) :: compactU16Loop turns (rem / 128)

def compactU16 (value : Nat) : List UInt8 := compactU16Loop 10 value

/-- Merge the flags of a key that is listed already, or list it. -/
def addKey (keys : List (PubKey × Bool × Bool)) (entry : PubKey × Bool × Bool) :
    List (PubKey × Bool × Bool) :=
  Tally.credit (fun held more => (held.1 || more.1, held.2 || more.2)) keys entry.1 entry.2

/-- The keys of a message in order of first use, payer first and programs last. -/
def collectKeys (payer : PubKey) (instructions : List Instruction) : List (PubKey × Bool × Bool) :=
  let used := (instructions.flatMap Instruction.accounts).foldl addKey [(payer, true, true)]
  (instructions.map fun ix => (ix.programId, false, false)).foldl addKey used

/-- Writable signers, readonly signers, writable accounts, readonly accounts. -/
def rank (entry : PubKey × Bool × Bool) : Nat :=
  match entry.2 with
  | (true, true) => 0
  | (true, false) => 1
  | (false, true) => 2
  | (false, false) => 3

/-- The sort is stable, so the payer stays first. -/
def sortedKeys (payer : PubKey) (instructions : List Instruction) : List (PubKey × Bool × Bool) :=
  (collectKeys payer instructions).insertionSort fun a b => rank a ≤ rank b

def indexOf (keys : List (PubKey × Bool × Bool)) (key : PubKey) : UInt8 :=
  UInt8.ofNat (keys.findIdx fun entry => entry.1 = key)

def serializeInstruction (keys : List (PubKey × Bool × Bool)) (ix : Instruction) : List UInt8 :=
  [indexOf keys ix.programId] ++ compactU16 ix.accounts.length ++
    ix.accounts.map (fun entry => indexOf keys entry.1) ++ compactU16 ix.data.length ++ ix.data

/-- A legacy message; counts and indices are cut to a byte. -/
def serializeMessage (payer : PubKey) (instructions : List Instruction)
    (recentBlockhash : Bytes 32) : List UInt8 :=
  let keys := sortedKeys payer instructions
  let numSigners := keys.countP fun entry => entry.2.1
  let numReadonlySigned := keys.countP fun entry => entry.2.1 && !entry.2.2
  let numReadonlyUnsigned := keys.countP fun entry => !entry.2.1 && !entry.2.2
  [UInt8.ofNat numSigners, UInt8.ofNat numReadonlySigned, UInt8.ofNat numReadonlyUnsigned] ++
    compactU16 keys.length ++ keys.flatMap (fun entry => entry.1.toList) ++
    recentBlockhash.toList ++ compactU16 instructions.length ++
    instructions.flatMap (serializeInstruction keys)

def wireTransaction (signature : Bytes 64) (message : List UInt8) : List UInt8 :=
  compactU16 1 ++ signature.toList ++ message

end Message

section Base64

def b64Alphabet : List Char :=
  "ABCDEFGHIJKLMNOPQRSTUVWXYZabcdefghijklmnopqrstuvwxyz0123456789+/".toList

/-- The character of the six bits of `group` that start at bit `shift`. -/
def b64Char (group shift : Nat) : Char := b64Alphabet.getD (group / 2 ^ shift % 64) 'A'

def b64Chunks : List UInt8 → List Char
  | [] => []
  | [a] =>
    let n := a.toNat * 2 ^ 16
    [b64Char n 18, b64Char n 12, '=', '=']
  | [a, b] =>
    let n := a.toNat * 2 ^ 16 + b.toNat * 2 ^ 8
    [b64Char n 18, b64Char n 12, b64Char n 6, '=']
  | a :: b :: c :: rest =>
    let n := a.toNat * 2 ^ 16 + b.toNat * 2 ^ 8 + c.toNat
    b64Char n 18 :: b64Char n 12 :: b64Char n 6 :: b64Char n 0 :: b64Chunks rest

/-- Standard base64 with padding. -/
def b64 (bytes : List UInt8) : String := String.ofList (b64Chunks bytes)

example : b64 (asBytes "foob") = "Zm9vYg==" := by decide

end Base64

end Patala.Solana
