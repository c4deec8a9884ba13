import Patala.Core.MockDestination
import Patala.Fiat.Webhook
import Patala.Json.Stringify

/-! The bodies of the C library's answers as JSON text. A string in them is escaped, so none of
them has a NUL character. -/

namespace Patala

open Json

/-- A text with a NUL character does not fit a C string. -/
def HasNul (text : String) : Prop := '\x00' ∈ text.toList

instance (text : String) : Decidable (HasNul text) := inferInstanceAs (Decidable (_ ∈ _))

@[simp] theorem hasNul_append (a b : String) : HasNul (a ++ b) ↔ HasNul a ∨ HasNul b := by
  simp [HasNul]

namespace Ffi

section Bodies

def number (value : Nat) : Value := .number (Nat.repr value)

def classBody (railClass : RailClass) : Value := .string railClass.debug

def settlementBody : Settlement → Value
  | .instant => .string "Instant"
  | .seconds count => .object [("Seconds", number count.toNat)]
  | .days count => .object [("Days", number count.toNat)]

def capabilitiesBody (capabilities : RailCapabilities) : Value :=
  .object [("class", classBody capabilities.railClass),
    ("reversible", .bool capabilities.reversible),
    ("requires_kyc", .bool capabilities.requiresKyc),
    ("holds_funds", .bool capabilities.holdsFunds),
    ("currencies", .array (capabilities.currencies.map .string)),
    ("settlement", settlementBody capabilities.settlement),
    ("atomic_multi_party", .bool capabilities.atomicMultiParty)]

def quoteBody (quote : Quote) : Value :=
  .object [("rail_id", .string quote.railId), ("amount_minor", number quote.amountMinor.toNat),
    ("currency", .string quote.currency), ("fee_minor", number quote.feeMinor.toNat),
    ("total_minor", number quote.totalMinor.toNat), ("settlement", settlementBody quote.settlement),
    ("expires_at_unix", number quote.expiresAtUnix.toNat)]

/-- A proof is an array of numbers. -/
def receiptBody (receipt : Receipt) : Value :=
  .object [("rail_id", .string receipt.railId), ("amount_minor", number receipt.amountMinor.toNat),
    ("currency", .string receipt.currency), ("reference", .string receipt.reference.text),
    ("proof", .array (receipt.proof.map fun byte => number byte.toNat)),
    ("settled_at_unix", number receipt.settledAtUnix.toNat)]

def statusName : DestinationStatus → String
  | .malformed => "Malformed"
  | .wrongNetwork => "WrongNetwork"
  | .notAWallet => "NotAWallet"
  | .structurallyValid => "StructurallyValid"
  | .unknown => "Unknown"

/-- The verdict's own members, and whether it is a refusal. -/
def validateDestinationResponse (verdict : DestinationVerdict) : Value :=
  .object [("rail_id", .string verdict.railId),
    ("status", .string (statusName verdict.status)), ("reason", .string verdict.reason),
    ("human_must_confirm", .bool verdict.humanMustConfirm),
    ("exchange_deposit_caveat", .string verdict.exchangeDepositCaveat),
    ("is_refusal", .bool verdict.isRefusal)]

def webhookStatusName : WebhookStatus → String
  | .settled => "Settled"
  | .notSettled => "NotSettled"
  | .unconfirmed => "Unconfirmed"

def eventBody (event : WebhookEvent) : Value :=
  .object [("rail_id", .string event.railId), ("event_id", .string event.eventId),
    ("reference", .string event.reference), ("object_id", .string event.objectId),
    ("status", .string (webhookStatusName event.status)),
    ("amount_minor", number event.amountMinor.toNat), ("currency", .string event.currency)]

def idResponse (id : String) : Value := .object [("rail_id", .string id)]

def verifyResponse (valid : Bool) : Value := .object [("valid", .bool valid)]

def caveatResponse : Value :=
  .object [("exchange_deposit_caveat", .string exchangeDepositCaveat)]

def providersResponse (providers : List String) : Value :=
  .object [("providers", .array (providers.map .string))]

/-- `serde_json::to_string`, which fails on none of these. -/
def encode (body : Value) : Except String String := .ok (stringify body)

end Bodies

section Printable

/-- No number of the value is spelled with a NUL character. -/
def PlainNumbers (value : Value) : Prop := ∀ literal ∈ literals value, ¬ HasNul literal

theorem not_hasNul_repr (value : Nat) : ¬ HasNul (Nat.repr value) := by
  intro printed
  rw [HasNul, Nat.toList_repr] at printed
  exact absurd (Nat.isDigit_of_mem_toDigits (by decide) (by decide) printed) (by decide)

@[simp] theorem plainNumbers_number (value : Nat) : PlainNumbers (number value) := by
  simp [PlainNumbers, literals, number, not_hasNul_repr]

@[simp] theorem plainNumbers_string (text : String) : PlainNumbers (.string text) := nofun

@[simp] theorem plainNumbers_bool (value : Bool) : PlainNumbers (.bool value) := nofun

theorem plainNumbers_object {members : List (String × Value)}
    (each : ∀ member ∈ members, PlainNumbers member.2) : PlainNumbers (.object members) := by
  rw [PlainNumbers, literals]
  induction members with
  | nil => nofun
  | cons member rest ih =>
    obtain ⟨here, later⟩ := List.forall_mem_cons.mp each
    exact List.forall_mem_append.mpr ⟨here, ih later⟩

theorem plainNumbers_array {items : List Value} (each : ∀ item ∈ items, PlainNumbers item) :
    PlainNumbers (.array items) := by
  rw [PlainNumbers, literals]
  induction items with
  | nil => nofun
  | cons item rest ih =>
    obtain ⟨here, later⟩ := List.forall_mem_cons.mp each
    exact List.forall_mem_append.mpr ⟨here, ih later⟩

@[simp] theorem plainNumbers_settlement (settlement : Settlement) :
    PlainNumbers (settlementBody settlement) := by
  cases settlement with
  | instant => exact plainNumbers_string _
  | seconds count => exact plainNumbers_object (by simp)
  | days count => exact plainNumbers_object (by simp)

@[simp] theorem plainNumbers_strings (texts : List String) :
    PlainNumbers (.array (texts.map .string)) := plainNumbers_array (by simp)

@[simp] theorem plainNumbers_bytes (bytes : List UInt8) :
    PlainNumbers (.array (bytes.map fun byte => number byte.toNat)) := plainNumbers_array (by simp)

/-- What is written has a NUL character in a number at most. -/
theorem not_hasNul_stringify {value : Value} (plain : PlainNumbers value) :
    ¬ HasNul (stringify value) := by
  intro printed
  rw [HasNul, stringify, String.toList_ofList] at printed
  obtain ⟨literal, listed, has⟩ := literal_of_written (by simp [IsControl]) value printed
  exact plain literal listed has

end Printable

end Ffi
end Patala
