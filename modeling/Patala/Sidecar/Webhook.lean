import Patala.Ffi.Webhook
import Patala.Fiat.PayFast
import Patala.Fiat.WebhookLaw
import Patala.Json.Stringify

/-! The sidecar's webhook route and the client that posts to it. The route keeps the body as it
was sent; the client sends the whole delivery as JSON, so no delivery reaches a rail over the
sidecar as it does in process. -/

namespace Patala.Sidecar

open Fallible Fiat

inductive ApiError where
  | unknownRail (id : String)
  | core (error : Error)
deriving DecidableEq

/-- Why a request is not answered with an event: it stops before the handler, or in it. -/
inductive Refusal where
  | unauthorized
  | payloadTooLarge
  | api (error : ApiError)
deriving DecidableEq

/-- A request to the route of one rail. Header names are in lower case. -/
structure Request where
  railId : String
  query : List (String × String)
  headers : List (String × List UInt8)
  body : List UInt8

/-- A running sidecar: its token, its rails, and its clock in nanoseconds since the epoch. -/
structure Process where
  token : String
  registry : String → Option VerifyWebhook
  clock : Int

/-- `HeaderValue::to_str`: visible ASCII only. -/
def toStr (value : List UInt8) : Option String :=
  if value.all fun b => b = 9 || (32 ≤ b && b < 127) then fromUtf8 value else none

def neverForward : List String := ["authorization", "proxy-authorization", "cookie"]

/-- The headers a rail gets to see. -/
def forwarded (headers : List (String × List UInt8)) : List (String × String) :=
  headers.filterMap fun header =>
    if header.1 ∈ neverForward then none else (toStr header.2).map fun value => (header.1, value)

def unixSeconds (t : Int) : Except ApiError UInt64 :=
  if t < 0 then
    .error (.core (.rail ("patala-sidecar: the system clock is before the unix epoch, so a " ++
      "webhook's replay window cannot be checked. Refusing the delivery rather than checking it " ++
      "against a fabricated time.")))
  else .ok (UInt64.ofNat (t.toNat / 10 ^ 9))

/-- The most a body may hold by default. -/
def bodyLimit : Nat := 2 * 1024 * 1024

section Route

variable (process : Process)

/-- The bearer token of the request is the sidecar's. -/
def authorized (request : Request) : Bool :=
  match ((request.headers.lookup "authorization").bind toStr).bind (stripPrefix "Bearer ") with
  | some presented => PayFast.constantTimeEq process.token presented
  | none => false

/-- The rail of a request and what it is handed. -/
def handed (request : Request) : Except Refusal (VerifyWebhook × WebhookDelivery) := do
  ensure (authorized process request) .unauthorized
  ensure (request.body.length ≤ bodyLimit) .payloadTooLarge
  let rail ← (process.registry request.railId).elim
    (.error (.api (.unknownRail request.railId))) .ok
  let nowUnix ← (unixSeconds process.clock).mapError .api
  return (rail, ((WebhookDelivery.new request.body nowUnix).withHeaders
    (forwarded request.headers)).withQuery request.query)

def webhook (request : Request) : Except Refusal WebhookEvent := do
  let (rail, delivery) ← handed process request
  (rail delivery).mapError (.api ∘ .core)

end Route

/-- A delivery as a caller of either transport gives it. -/
structure Delivery where
  body : Option String
  bodyHex : Option String
  headers : Option (List (String × String))
  query : Option (List (String × String))
  nowUnix : UInt64

namespace Delivery

/-- A map of texts as a JSON object. -/
def record (entries : List (String × String)) : Json.Value :=
  .object (entries.map fun entry => (entry.1, .string entry.2))

/-- The properties of the object, without those that are undefined. -/
def members (d : Delivery) : List (String × Json.Value) :=
  (d.body.map fun text => ("body", .string text)).toList ++
    (d.bodyHex.map fun text => ("body_hex", .string text)).toList ++
    (d.headers.map fun entries => ("headers", record entries)).toList ++
    (d.query.map fun entries => ("query", record entries)).toList ++
    [("now_unix", .number (toString d.nowUnix))]

/-- A request has the fields of the delivery. -/
structure Reads (d : Delivery) (request : Ffi.WebhookRequest) : Prop where
  body : request.body = d.body
  bodyHex : request.bodyHex = d.bodyHex
  headers : request.headers.Perm (d.headers.getD [])
  query : request.query.Perm (d.query.getD [])
  nowUnix : request.nowUnix = d.nowUnix

end Delivery

/-- What the client posts: the text as the body, its own headers, and those of its transport. -/
def post (token railId : String) (transport : List (String × List UInt8)) (text : String) :
    Request where
  railId := railId
  query := []
  headers := ("authorization", asBytes ("Bearer " ++ token)) ::
    ("content-type", asBytes "application/json") :: transport
  body := asBytes text

/-- Two deliveries agree on all that the caller gave. -/
structure Agree (d : Delivery) (received inProcess : WebhookDelivery) : Prop where
  rawBody : received.rawBody = inProcess.rawBody
  headers : ∀ header ∈ d.headers.getD [], received.header header.1 = inProcess.header header.1
  query : received.query = inProcess.query

/-- Both transports hand a rail the same webhook. -/
def SameWebhook (fromStr : String → Except String Ffi.WebhookRequest) (process : Process)
    (railId : String) (transport : List (String × List UInt8)) (d : Delivery) (text : String) :
    Prop :=
  ∃ rail received inProcess,
    handed process (post process.token railId transport text) = .ok (rail, received) ∧
      Ffi.handed fromStr text = .ok inProcess ∧ Agree d received inProcess

section Handed

variable {process : Process} {request : Request} {rail : VerifyWebhook}
  {received : WebhookDelivery}

/-- The rail of the route is handed the body as it was sent, the headers but for the sidecar's
own credentials, and the query. -/
theorem handed_ok (given : handed process request = .ok (rail, received)) :
    process.registry request.railId = some rail ∧ ∃ nowUnix,
      received = ((WebhookDelivery.new request.body nowUnix).withHeaders
        (forwarded request.headers)).withQuery request.query := by
  simp only [handed, bind_eq_ok, ensure_eq_ok, exists_const, mapError_eq_ok] at given
  obtain ⟨-, -, found, registered, nowUnix, -, same⟩ := given
  obtain ⟨rfl, rfl⟩ := Prod.mk.inj (Except.ok.inj same)
  refine ⟨?_, nowUnix, rfl⟩
  cases entry : process.registry request.railId with
  | none =>
    rw [entry] at registered
    cases registered
  | some other =>
    rw [entry] at registered
    exact congrArg some (Except.ok.inj registered)

theorem mem_forwarded {headers : List (String × List UInt8)} {pair : String × String}
    (seen : pair ∈ forwarded headers) :
    pair.1 ∉ neverForward ∧ ∃ value, (pair.1, value) ∈ headers := by
  obtain ⟨header, listed, kept⟩ := List.mem_filterMap.mp seen
  split at kept
  · cases kept
  rename_i forwardable
  obtain ⟨value, -, same⟩ := Option.map_eq_some_iff.mp kept
  subst same
  exact ⟨forwardable, header.2, listed⟩

variable {token railId text : String} {transport : List (String × List UInt8)}

theorem handed_post_rawBody
    (given : handed process (post token railId transport text) = .ok (rail, received)) :
    received.rawBody = asBytes text := by
  obtain ⟨-, nowUnix, rfl⟩ := handed_ok given
  simp [WebhookDelivery.new, post]

/-- Of the client's request a rail sees the content type and the transport's own headers. -/
theorem handed_post_header
    (given : handed process (post token railId transport text) = .ok (rail, received))
    {name : String} (content : ¬ eqIgnoreAsciiCase name "content-type")
    (foreign : ∀ header ∈ transport, ¬ eqIgnoreAsciiCase name header.1) :
    received.header name = none := by
  obtain ⟨-, nowUnix, rfl⟩ := handed_ok given
  rw [WebhookDelivery.withQuery_header, WebhookDelivery.header_withHeaders_of_absent]
  · rfl
  intro pair seen
  obtain ⟨forwardable, value, listed⟩ := mem_forwarded seen
  simp only [post, List.mem_cons, Prod.mk.injEq] at listed
  rcases listed with credential | own | transported
  · rw [credential.1] at forwardable
    exact absurd forwardable (by decide)
  · rw [own.1]
    exact content
  · exact foreign (pair.1, value) transported

end Handed

/-- The body of a delivery is shorter than the text the delivery is posted as. -/
theorem rawBody_lt {d : Delivery} {members : List (String × Json.Value)}
    {request : Ffi.WebhookRequest} {rawBody : List UInt8} (order : members.Perm d.members)
    (reads : d.Reads request) (unwrapped : request.rawBody = .ok rawBody) :
    rawBody.length < (asBytes (Json.stringify (.object members))).length := by
  obtain ⟨text, spelled, shorter⟩ := Ffi.rawBody_spelled unwrapped
  rw [reads.body, reads.bodyHex] at spelled
  have listed : ∃ key, (key, Json.Value.string text) ∈ members := by
    rcases spelled with plain | hex
    · exact ⟨"body", order.mem_iff.mpr (by simp [Delivery.members, plain])⟩
    · exact ⟨"body_hex", order.mem_iff.mpr (by simp [Delivery.members, hex])⟩
  obtain ⟨key, member⟩ := listed
  exact shorter.trans_lt (Json.length_lt_stringify member)

/-- Over the sidecar a rail is handed another body than in process, whatever the delivery. -/
theorem rawBody_ne {fromStr : String → Except String Ffi.WebhookRequest} {process : Process}
    {token railId : String} {transport : List (String × List UInt8)} {d : Delivery}
    {members : List (String × Json.Value)} {rail : VerifyWebhook}
    {received inProcess : WebhookDelivery} (order : members.Perm d.members)
    (readsBack : ∃ request, fromStr (Json.stringify (.object members)) = .ok request ∧
      d.Reads request)
    (posted : handed process (post token railId transport (Json.stringify (.object members))) =
      .ok (rail, received))
    (called : Ffi.handed fromStr (Json.stringify (.object members)) = .ok inProcess) :
    received.rawBody ≠ inProcess.rawBody := by
  obtain ⟨request, read, reads⟩ := readsBack
  obtain ⟨request', read', unwrapped⟩ := Ffi.handed_ok called
  cases read.symm.trans read'
  have shorter := rawBody_lt order reads unwrapped
  rw [handed_post_rawBody posted]
  intro same
  rw [same] at shorter
  exact absurd shorter (Nat.lt_irrefl _)

/-- No delivery reaches a rail the same over both transports. -/
theorem sdk_webhook_differs (fromStr : String → Except String Ffi.WebhookRequest)
    (process : Process) (railId : String) (transport : List (String × List UInt8)) (d : Delivery)
    (members : List (String × Json.Value)) (order : members.Perm d.members)
    (readsBack : ∃ request, fromStr (Json.stringify (.object members)) = .ok request ∧
      d.Reads request) :
    ¬ SameWebhook fromStr process railId transport d (Json.stringify (.object members)) := by
  rintro ⟨rail, received, inProcess, posted, called, agree⟩
  exact rawBody_ne order readsBack posted called agree.rawBody

section Signed

variable {process : Process} {token railId text : String}
  {transport : List (String × List UInt8)} (crates : OfflineCrates) (offline : OfflineRail)
  {id secret : String}

/-- Over the sidecar the client gets no delivery accepted whose signature is in a header. -/
theorem posted_refused
    (registered : process.registry railId = some (offline.verifyWebhook crates id secret))
    (foreign : ∀ header ∈ transport, ¬ eqIgnoreAsciiCase offline.signatureHeader header.1)
    (answer : WebhookEvent) :
    webhook process (post token railId transport text) ≠ .ok answer := by
  intro accepted
  simp only [webhook, bind_eq_ok, mapError_eq_ok] at accepted
  obtain ⟨⟨rail, received⟩, posted, verified⟩ := accepted
  have same := (handed_ok posted).1.symm.trans registered
  cases same
  have content : ¬ eqIgnoreAsciiCase offline.signatureHeader "content-type" := by
    cases offline <;> decide
  exact OfflineRail.verifyWebhook_unsigned (handed_post_header posted content foreign) verified

end Signed

section Charge

/-- A charge of Flutterwave, with the hash that its account is configured to send. -/
def chargeBody : String :=
  "\x7b\"event\":\"charge.completed\",\"data\":\x7b\"id\":7,\"tx_ref\":\"ord_1\"," ++
    "\"amount\":\"50.00\",\"currency\":\"NGN\",\"status\":\"successful\"\x7d\x7d"

def charge : Delivery where
  body := some chargeBody
  bodyHex := none
  headers := some [("verif-hash", "s3cr3t")]
  query := none
  nowUnix := 1700000000

def chargeText : String := Json.stringify (.object charge.members)

def chargeRequest : Ffi.WebhookRequest :=
  ⟨some chargeBody, none, [("verif-hash", "s3cr3t")], [], 1700000000⟩

/-- The reader of requests on the charge. -/
def chargeFromStr (text : String) : Except String Ffi.WebhookRequest :=
  if text = chargeText then .ok chargeRequest else .error "expected value"

def chargeTransaction : Flutterwave.FlutterwaveTransactionPayload :=
  ⟨7, "ord_1", "50.00", "NGN", "successful"⟩

def chargeCrates : OfflineCrates where
  stripe := ⟨fun _ _ => [], fun _ => .error "expected value", fun _ => .error "expected value"⟩
  razorpay := ⟨fun _ _ => [], fun _ => .error "expected value"⟩
  flutterwave := ⟨fun bytes =>
    if bytes = asBytes chargeBody then
      .ok ⟨"charge.completed", chargeTransaction⟩
    else .error "expected value"⟩
  checkoutcom := ⟨fun _ _ => [], fun _ => .error "expected value"⟩

def chargeRail : VerifyWebhook :=
  OfflineRail.flutterwave.verifyWebhook chargeCrates "flutterwave" "s3cr3t"

/-- A sidecar with that rail, at the time of the charge. -/
def chargeSidecar : Process where
  token := "5f2a"
  registry id := if id = "flutterwave" then some chargeRail else none
  clock := 1700000000000000000

theorem charge_reads : ∃ request, chargeFromStr chargeText = .ok request ∧ charge.Reads request :=
  ⟨chargeRequest, if_pos rfl, ⟨rfl, rfl, .refl _, .refl _, rfl⟩⟩

theorem charge_transports_differ :
    ¬ SameWebhook chargeFromStr chargeSidecar "flutterwave" [] charge chargeText :=
  sdk_webhook_differs chargeFromStr chargeSidecar "flutterwave" [] charge charge.members (.refl _)
    charge_reads

theorem charge_verified (nowUnix : UInt64) :
    OfflineRail.flutterwave.verifyAndParse chargeCrates "s3cr3t" (asBytes chargeBody) "s3cr3t"
      nowUnix = .ok ⟨"7", "ord_1", true, 5000, "NGN"⟩ := by
  have read : chargeCrates.flutterwave.envelopeFromSlice (asBytes chargeBody) =
      .ok ⟨"charge.completed", chargeTransaction⟩ := by simp [chargeCrates]
  have currency : toAsciiUppercase (trim chargeTransaction.currency) = "NGN" := by decide
  have minor : chargeTransaction.amountMinor "NGN" = .ok 5000 := by decide
  have evaluated : Flutterwave.evaluateTransaction chargeTransaction =
      .ok ⟨⟨"ord_1", true, 5000, "NGN"⟩, "7"⟩ := by
    rw [Flutterwave.evaluateTransaction, if_neg (by decide)]
    simp only [currency, minor]
    rfl
  have present : trim "s3cr3t" ≠ "" := by decide
  simp only [OfflineRail.verifyAndParse, Flutterwave.verifyAndParse, bind_eq_ok, mapError_eq_ok,
    ensure_eq_ok, exists_const, PayFast.constantTimeEq_iff]
  exact ⟨present, trivial, _, read, rfl, by decide, _, evaluated, rfl⟩

theorem charge_accepted : Ffi.webhook chargeFromStr chargeRail chargeText =
    .ok (.settlement "flutterwave" "7" "ord_1" true 5000 "NGN") := by
  have hashed : ((WebhookDelivery.new (asBytes chargeBody) 1700000000).withHeaders
      [("verif-hash", "s3cr3t")]).headerOrEmpty "verif-hash" = "s3cr3t" := by
    simp [WebhookDelivery.headerOrEmpty, WebhookDelivery.withHeaders,
      WebhookDelivery.header_withHeader, eqIgnoreAsciiCase]
  simp only [Ffi.webhook, Ffi.handed, bind_eq_ok, mapError_eq_ok]
  refine ⟨_, ⟨chargeRequest, if_pos rfl, asBytes chargeBody, rfl, rfl⟩, ?_⟩
  simp only [chargeRail, OfflineRail.verifyWebhook, bind_eq_ok, mapError_eq_ok]
  refine ⟨⟨"7", "ord_1", true, 5000, "NGN"⟩, ?_, rfl⟩
  exact (congrArg (OfflineRail.flutterwave.verifyAndParse chargeCrates "s3cr3t"
    (asBytes chargeBody) · 1700000000) hashed).trans (charge_verified 1700000000)

/-- The genuine charge is accepted in process, and the sidecar refuses it. -/
theorem charge_refused_by_sidecar :
    Ffi.webhook chargeFromStr chargeRail chargeText =
        .ok (.settlement "flutterwave" "7" "ord_1" true 5000 "NGN") ∧
      (∀ answer, webhook chargeSidecar (post "5f2a" "flutterwave" [] chargeText) ≠ .ok answer) ∧
      ¬ SameWebhook chargeFromStr chargeSidecar "flutterwave" [] charge chargeText := by
  refine ⟨charge_accepted, ?_, ?_⟩
  · exact posted_refused chargeCrates .flutterwave rfl (by simp)
  · rintro ⟨rail, received, inProcess, posted, called, agree⟩
    exact rawBody_ne (.refl _) charge_reads posted called agree.rawBody

end Charge

end Patala.Sidecar
