import Patala.Core.Destination
import Patala.Core.Mock

/-! The synthetic addresses of the offline default rail, `network:kind:label`, in which every
verdict can be produced. -/

namespace Patala

/-- A character of a text as `{:?}` prints it. Which characters outside ASCII are printable is a
table of the standard library. -/
def debugEscape (printable : Char → Bool) (c : Char) : List Char :=
  if c = '"' then ['\\', '"']
  else if c = '\\' then ['\\', '\\']
  else if c = '\n' then ['\\', 'n']
  else if c = '\r' then ['\\', 'r']
  else if c = '\t' then ['\\', 't']
  else if c.toNat = 0 then ['\\', '0']
  else if c.toNat < 32 ∨ c.toNat = 127 ∨ 128 ≤ c.toNat ∧ !printable c then
    "\\u\x7b".toList ++ Nat.toDigits 16 c.toNat ++ ['\x7d']
  else [c]

def debugText (printable : Char → Bool) (text : String) : String :=
  "\"" ++ String.ofList (text.toList.flatMap (debugEscape printable)) ++ "\""

namespace MockRail

section Addresses

variable (printable : Char → Bool) (rail : MockRail) (checksDestinations : Bool)

def addressVerdict (network kind label : String) : DestinationVerdict :=
  if network ≠ rail.id then
    .wrongNetwork rail.id (s!"this is a well-formed address for network " ++
      s!"{debugText printable network}, but this rail pays on {debugText printable rail.id}; " ++
      "money sent to it would land on the wrong network and would not be recoverable")
  else if kind = "wallet" then
    .structurallyValid rail.id (s!"{debugText printable label} is a well-formed {rail.id} " ++
      "wallet address; every check this rail can make offline passed, which is not the same as " ++
      "knowing the recipient can receive on it")
  else if kind = "program" then
    .notAWallet rail.id (s!"{debugText printable label} is a valid {rail.id} address but a " ++
      "program account, not a wallet — nobody holds a key for it, so funds sent there are " ++
      "typically unrecoverable")
  else
    .malformed rail.id (s!"{debugText printable kind} is not a mock address kind: expected " ++
      s!"\"wallet\" or \"program\", as in \"{rail.id}:wallet:alice\"")

/-- The destination is split at its colons; a rail that does not check destinations refuses the
blank one only. -/
def validateDestination (dest : String) : DestinationVerdict :=
  let trimmed := trim dest
  let noAddress := DestinationVerdict.malformed rail.id
    (s!"{debugText printable trimmed} is not a mock address: expected exactly " ++
      s!"\"<network>:<kind>:<label>\" with no empty part, e.g. \"{rail.id}:wallet:alice\"")
  if trimmed = "" then
    .malformed rail.id "an empty destination is not an address on any rail"
  else if !checksDestinations then
    .unknown rail.id (s!"mock rail {rail.id} is configured without destination checks, standing " ++
      "in for a rail whose destination is an opaque processor-side token; a human who controls " ++
      "the receiving account must confirm this one")
  else match (trimmed.toList.splitOn ':').map String.ofList with
    | [network, kind, label] =>
      if trim network = "" ∨ trim kind = "" ∨ trim label = "" then noAddress
      else rail.addressVerdict printable network kind label
    | _ => noAddress

end Addresses

end MockRail
end Patala
