import Mathlib.Logic.Function.Basic
import Patala.Fiat.Currency

/-! The seam's push side: a processor's delivery as it was received, and what a rail makes of
it once it is authenticated. -/

namespace Patala

open Fiat

/-- A delivery in the bytes that were sent. Its headers and query parameters are read by name;
a header's name is kept in lower case. -/
structure WebhookDelivery where
  rawBody : List UInt8
  headers : String → Option String
  query : String → Option String
  nowUnix : UInt64

namespace WebhookDelivery

def new (rawBody : List UInt8) (nowUnix : UInt64) : WebhookDelivery :=
  ⟨rawBody, fun _ => none, fun _ => none, nowUnix⟩

variable (delivery : WebhookDelivery)

def withHeader (name value : String) : WebhookDelivery :=
  { delivery with
    headers := Function.update delivery.headers (toAsciiLowercase name) (some value) }

def header (name : String) : Option String := delivery.headers (toAsciiLowercase name)

def headerOrEmpty (name : String) : String := (delivery.header name).getD ""

@[simp] theorem withHeader_rawBody (name value : String) :
    (delivery.withHeader name value).rawBody = delivery.rawBody := rfl

/-- A header is found under its name in any case. -/
theorem header_withHeader (name value other : String) :
    (delivery.withHeader name value).header other =
      if eqIgnoreAsciiCase other name then some value else delivery.header other := by
  simp only [header, withHeader, eqIgnoreAsciiCase, decide_eq_true_eq, Function.update_apply]

def withHeaders (headers : List (String × String)) : WebhookDelivery :=
  headers.foldl (fun kept pair => kept.withHeader pair.1 pair.2) delivery

/-- Query parameters are added under their names as they are. -/
def withQuery (params : List (String × String)) : WebhookDelivery :=
  { delivery with
    query := params.foldl (fun kept pair => Function.update kept pair.1 (some pair.2))
      delivery.query }

@[simp] theorem withHeaders_cons (pair : String × String) (rest : List (String × String)) :
    delivery.withHeaders (pair :: rest) = (delivery.withHeader pair.1 pair.2).withHeaders rest := rfl

@[simp] theorem withHeaders_rawBody (headers : List (String × String)) :
    (delivery.withHeaders headers).rawBody = delivery.rawBody := by
  induction headers generalizing delivery with
  | nil => rfl
  | cons pair rest ih => rw [withHeaders_cons, ih, withHeader_rawBody]

/-- A header that is not among the added ones is as it was. -/
theorem header_withHeaders_of_absent {headers : List (String × String)} {name : String}
    (absent : ∀ pair ∈ headers, ¬ eqIgnoreAsciiCase name pair.1) :
    (delivery.withHeaders headers).header name = delivery.header name := by
  induction headers generalizing delivery with
  | nil => rfl
  | cons pair rest ih =>
    obtain ⟨other, others⟩ := List.forall_mem_cons.mp absent
    rw [withHeaders_cons, ih _ others, header_withHeader, if_neg other]

@[simp] theorem withQuery_rawBody (params : List (String × String)) :
    (delivery.withQuery params).rawBody = delivery.rawBody := rfl

@[simp] theorem withQuery_header (params : List (String × String)) (name : String) :
    (delivery.withQuery params).header name = delivery.header name := rfl

end WebhookDelivery

inductive WebhookStatus where
  | settled
  | notSettled
  | unconfirmed
deriving DecidableEq

/-- What an authenticated delivery says. A consumer drops an `eventId` it has seen before. -/
structure WebhookEvent where
  railId : String
  eventId : String
  reference : String
  objectId : String
  status : WebhookStatus
  amountMinor : UInt64
  currency : String
deriving DecidableEq

namespace WebhookEvent

/-- An event that asserts no money. -/
def unconfirmed (railId eventId objectId : String) : WebhookEvent where
  railId := railId
  eventId := eventId
  reference := ""
  objectId := objectId
  status := .unconfirmed
  amountMinor := 0
  currency := ""

/-- An event that says whether a payment settled; without settlement it carries no money. -/
def settlement (railId eventId reference : String) (settled : Bool) (amountMinor : UInt64)
    (currency : String) : WebhookEvent where
  railId := railId
  eventId := eventId
  reference := reference
  objectId := ""
  status := if settled then .settled else .notSettled
  amountMinor := if settled then amountMinor else 0
  currency := if settled then currency else ""

def withObjectId (event : WebhookEvent) (objectId : String) : WebhookEvent :=
  { event with objectId := objectId }

def isSettled (event : WebhookEvent) : Bool := event.status = .settled

/-- Only a settled event carries money. -/
def CarriesMoney (event : WebhookEvent) : Prop := event.amountMinor ≠ 0 ∨ event.currency ≠ ""

theorem settlement_isSettled {railId eventId reference currency : String} {settled : Bool}
    {amountMinor : UInt64} :
    (settlement railId eventId reference settled amountMinor currency).isSettled = settled := by
  cases settled <;> rfl

theorem settlement_carriesMoney {railId eventId reference currency : String} {settled : Bool}
    {amountMinor : UInt64}
    (money : (settlement railId eventId reference settled amountMinor currency).CarriesMoney) :
    (settlement railId eventId reference settled amountMinor currency).isSettled := by
  cases settled with
  | true => rfl
  | false => simp [CarriesMoney, settlement] at money

/-- Settlements say the same when they agree on settling and, if they settle, on the money. -/
theorem settlement_eq_iff {railId eventId reference currency eventId' reference' currency' : String}
    {settled settled' : Bool} {amountMinor amountMinor' : UInt64} :
    settlement railId eventId reference settled amountMinor currency =
        settlement railId eventId' reference' settled' amountMinor' currency' ↔
      eventId = eventId' ∧ reference = reference' ∧ settled = settled' ∧
        (settled → amountMinor = amountMinor' ∧ currency = currency') := by
  cases settled <;> cases settled' <;> simp [settlement]

end WebhookEvent

end Patala
