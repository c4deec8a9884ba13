import Patala.Ffi.Served
import Patala.Sidecar.Webhook

/-! The sidecar's router: the token gate, the handlers of a rail's routes, and how an error becomes
a response. -/

namespace Patala.Sidecar

open Json Ffi Fiat

structure Response where
  status : Nat
  body : String
deriving DecidableEq

/-- An answer of an extractor other than what it extracts. -/
abbrev Rejection := { response : Response // response.status ≠ 200 }

def jsonResponse (value : Value) : Response := ⟨200, stringify value⟩

def errorBody (message kind : String) : String :=
  stringify (.object [("error", .string message), ("kind", .string kind)])

/-- The gate's answer to a caller without the token. -/
def unauthorizedResponse : Response := ⟨401, "unauthorized"⟩

section Errors

variable (printable : Char → Bool)

/-- `into_response`: no error is a success. -/
def ApiError.intoResponse : ApiError → Response
  | .unknownRail id =>
    ⟨404, errorBody s!"no rail is registered under id {debugText printable id}" "unknown_rail"⟩
  | .core (.invalidRequest message) => ⟨400, errorBody message "invalid_request"⟩
  | .core (.unsupported operation) =>
    ⟨501, errorBody s!"{operation} is not supported by this rail" "unsupported"⟩
  | .core (.rail message) => ⟨502, errorBody message "rail_error"⟩
  | .core (.crossClassFailover fromClass toClass) =>
    ⟨409, errorBody s!"failover from {fromClass.debug} to {toClass.debug} was not opted into"
      "cross_class_failover"⟩
  | .core .allRailsFailed => ⟨502, errorBody "no rail satisfied the request" "all_rails_failed"⟩

theorem ApiError.intoResponse_status (e : ApiError) : (e.intoResponse printable).status ≠ 200 := by
  cases e with
  | unknownRail id => simp [intoResponse]
  | core error => cases error <;> simp [intoResponse]

end Errors

/-- The routes of a rail that take and answer JSON. -/
inductive Route where
  | capabilities
  | quote
  | charge
  | verify
  | validateDestination
deriving DecidableEq

/-- How the framework takes a request apart: the JSON bodies, or the raw body. -/
structure Extractors where
  payRequest : Request → Except Rejection PayRequest
  receipt : Request → Except Rejection Receipt
  bytes : Request → Except Rejection (List UInt8)

/-- A running sidecar: its token, its rails, and the reader of the one body it parses by hand. -/
structure Server (σ : Type) where
  token : String
  registry : String → Option (ServedRail σ)
  extractors : Extractors
  destinationFromSlice : List UInt8 → Except String String

section Handlers

variable {σ α β : Type} (printable : Char → Bool)

/-- `require_token` lets the request pass. -/
def Server.admits (server : Server σ) (request : Request) : Bool :=
  authorized ⟨server.token, fun _ => none, 0⟩ request

/-- Extract, look the rail up, ask it. -/
def handle (extracted : Except Rejection α) (rail : Except ApiError (ServedRail σ))
    (operation : ServedRail σ → α → σ → Except Error β × σ) (body : β → Value) (world : σ) :
    Response × σ :=
  match extracted with
  | .error rejection => (rejection.val, world)
  | .ok request =>
    match rail with
    | .error e => (e.intoResponse printable, world)
    | .ok rail =>
      let (answered, next) := operation rail request world
      match answered with
      | .error e => ((ApiError.core e).intoResponse printable, next)
      | .ok value => (jsonResponse (body value), next)

variable (server : Server σ)

def Server.lookup (railId : String) : Except ApiError (ServedRail σ) :=
  match server.registry railId with
  | some rail => .ok rail
  | none => .error (.unknownRail railId)

/-- The body is parsed by hand once the rail is found, so that its complaint is an API error. -/
def Server.destination (body : List UInt8) : Except Error String :=
  (server.destinationFromSlice body).mapError fun e =>
    .invalidRequest ("expected a JSON object with a single string field \"destination\": " ++ e)

def Server.handler (request : Request) (world : σ) : Route → Response × σ
  | .capabilities =>
    handle printable (.ok ()) (server.lookup request.railId)
      (fun rail _ world => (.ok rail.capabilities, world)) capabilitiesBody world
  | .quote =>
    handle printable (server.extractors.payRequest request) (server.lookup request.railId)
      (fun rail => rail.quote) quoteBody world
  | .charge =>
    handle printable (server.extractors.payRequest request) (server.lookup request.railId)
      (fun rail => rail.charged) receiptBody world
  | .verify =>
    handle printable (server.extractors.receipt request) (server.lookup request.railId)
      (fun rail => rail.verify) verifyResponse world
  | .validateDestination =>
    handle printable (server.extractors.bytes request) (server.lookup request.railId)
      (fun rail body world =>
        match server.destination body with
        | .error e => (.error e, world)
        | .ok destination => rail.verdict destination world)
      validateDestinationResponse world

def Server.respond (request : Route × Request) (world : σ) : Response × σ :=
  if server.admits request.2 then server.handler printable request.2 world request.1
  else (unauthorizedResponse, world)

end Handlers

def defaultRegistry (printable : Char → Bool) (id : String) : Option (ServedRail UInt64) :=
  if id = "mock" then
    some (Instance.served printable ⟨MockRail.new "mock" .nonCustodialFinal ["USDC", "USD"], true⟩)
  else none

end Patala.Sidecar
