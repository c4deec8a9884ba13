import Patala.Core.Text

/-! What a rail says about a destination address before any money moves. -/

namespace Patala

/-- The one thing no rail can determine offline. -/
def exchangeDepositCaveat : String :=
  "patala cannot tell whether this address belongs to an " ++
  "exchange. A structurally perfect address may still be an exchange deposit or withdrawal " ++
  "address, and an exchange will not credit funds arriving there to the person who gave you " ++
  "the address. Determining that needs commercial address-attribution data patala deliberately " ++
  "does not depend on, so only the person who owns the wallet can confirm they control this " ++
  "address and can receive on it."

inductive DestinationStatus where
  | malformed
  | wrongNetwork
  | notAWallet
  | structurallyValid
  | unknown
deriving DecidableEq

structure DestinationVerdict where
  railId : String
  status : DestinationStatus
  reason : String
  humanMustConfirm : Bool
  exchangeDepositCaveat : String
deriving DecidableEq

/-- The sentence of a verdict that comes without a reason. -/
def defaultReason : DestinationStatus → String
  | .malformed => "this is not a well-formed address for this rail's network"
  | .wrongNetwork =>
    "this address is well-formed, but belongs to a different network than this rail pays on"
  | .notAWallet =>
    "this address is valid on this network but is not a plain wallet — nobody may hold a " ++
    "key for it, so funds sent there can be unrecoverable"
  | .structurallyValid =>
    "every check this rail can make offline passed; whether the recipient can actually " ++
    "receive on it is not something this rail can know"
  | .unknown =>
    "this rail cannot check this destination offline, so a human who controls the " ++
    "receiving wallet must confirm it"

namespace DestinationVerdict

def new (railId : String) (status : DestinationStatus) (reason : String) : DestinationVerdict where
  railId := railId
  status := status
  reason := if trim reason = "" then defaultReason status else reason
  humanMustConfirm := true
  exchangeDepositCaveat := Patala.exchangeDepositCaveat

def malformed (railId reason : String) : DestinationVerdict := new railId .malformed reason

def wrongNetwork (railId reason : String) : DestinationVerdict := new railId .wrongNetwork reason

def notAWallet (railId reason : String) : DestinationVerdict := new railId .notAWallet reason

def structurallyValid (railId reason : String) : DestinationVerdict :=
  new railId .structurallyValid reason

def unknown (railId reason : String) : DestinationVerdict := new railId .unknown reason

/-- The rail positively established a defect. -/
def isRefusal (verdict : DestinationVerdict) : Bool :=
  match verdict.status with
  | .malformed | .wrongNetwork | .notAWallet => true
  | .structurallyValid | .unknown => false

@[simp] theorem malformed_status (railId reason : String) :
    (malformed railId reason).status = .malformed := rfl

@[simp] theorem wrongNetwork_status (railId reason : String) :
    (wrongNetwork railId reason).status = .wrongNetwork := rfl

@[simp] theorem notAWallet_status (railId reason : String) :
    (notAWallet railId reason).status = .notAWallet := rfl

@[simp] theorem structurallyValid_status (railId reason : String) :
    (structurallyValid railId reason).status = .structurallyValid := rfl

@[simp] theorem unknown_status (railId reason : String) :
    (unknown railId reason).status = .unknown := rfl

/-- A refusal, or a verdict that no offline check failed. -/
def Decided (verdict : DestinationVerdict) : Prop :=
  verdict.isRefusal = true ∨ verdict.status = .structurallyValid

theorem decided_malformed (railId reason : String) : (malformed railId reason).Decided := .inl rfl

theorem decided_wrongNetwork (railId reason : String) :
    (wrongNetwork railId reason).Decided := .inl rfl

theorem decided_notAWallet (railId reason : String) : (notAWallet railId reason).Decided := .inl rfl

theorem decided_structurallyValid (railId reason : String) :
    (structurallyValid railId reason).Decided := .inr rfl

end DestinationVerdict

section Shapes

def isLowercaseOrDigit (b : UInt8) : Bool := (97 ≤ b && b ≤ 122) || (48 ≤ b && b ≤ 57)

def isHexDigit (b : UInt8) : Bool :=
  (48 ≤ b && b ≤ 57) || (65 ≤ b && b ≤ 70) || (97 ≤ b && b ≤ 102)

/-- A segwit address by its network's start, named. -/
def bech32Format (dest : String) : Option String :=
  match ((stripPrefix "bc1" dest).or (stripPrefix "tb1" dest)).or (stripPrefix "bcrt1" dest) with
  | some rest =>
    if rest ≠ "" ∧ (asBytes rest).all isLowercaseOrDigit then
      some "a bech32 Bitcoin address (bc1…)"
    else none
  | none => none

/-- A family of addresses written in hexadecimal behind `0x`, named. -/
def hexFormat (dest : String) : Option String :=
  match (stripPrefix "0x" dest).or (stripPrefix "0X" dest) with
  | some hex =>
    if !(asBytes hex).all isHexDigit then none
    else if (asBytes hex).length = 40 then
      some "an Ethereum/EVM address (0x + 40 hex characters)"
    else if (asBytes hex).length = 64 then
      some "a Sui or Aptos address (0x + 64 hex characters)"
    else none
  | none => none

theorem bech32Format_eq_none {dest : String} (notB : dest.toList.head? ≠ some 'b')
    (notT : dest.toList.head? ≠ some 't') : bech32Format dest = none := by
  rw [bech32Format, @stripPrefix_eq_none "bc1" _ _ rfl notB,
    @stripPrefix_eq_none "tb1" _ _ rfl notT, @stripPrefix_eq_none "bcrt1" _ _ rfl notB]
  rfl

theorem hexFormat_eq_none {dest : String} (notZero : dest.toList.head? ≠ some '0') :
    hexFormat dest = none := by
  rw [hexFormat, @stripPrefix_eq_none "0x" _ _ rfl notZero,
    @stripPrefix_eq_none "0X" _ _ rfl notZero]
  rfl

end Shapes

end Patala
