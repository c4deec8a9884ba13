import Patala.Json.Leading
import Patala.Lib.History
import Patala.Sidecar.Api

/-! A caller of the sidecar is told what it would be told in process. The requests that the server
refuses itself leave no trace: every rail sees the calls of the others, in order, and answers
as it answers the C library. -/

namespace Patala.Sidecar

open Ffi Fiat Json

/-- A request to one of the routes. -/
structure Posted where
  route : Route
  railId : String
  headers : List (String × List UInt8)
  body : List UInt8

def Posted.request (posted : Posted) : Request where
  railId := posted.railId
  query := []
  headers := posted.headers
  body := posted.body

/-- The body, where it is a text. -/
def Posted.text (posted : Posted) : String := (fromUtf8 posted.body).getD ""

/-- The method of the C library that a route is named after. -/
def Route.method : Route → Ffi.Method
  | capabilities => .capabilities
  | quote => .quote
  | charge => .charge
  | verify => .verify
  | validateDestination => .validateDestination

/-- What a route reads of a text: the framework's JSON extractor passes over what comes behind the
value, where a parser of a whole text refuses it. -/
def Route.part : Route → String → String
  | quote, text => leadingValue text
  | charge, text => leadingValue text
  | verify, text => leadingValue text
  | _, text => text

theorem Route.part_stringify (route : Route) {members : List (String × Value)}
    (unmarked : ∀ literal ∈ literals (.object members), Unmarked literal) :
    route.part (stringify (.object members)) = stringify (.object members) := by
  have read := leadingValue_stringify "" unmarked
  rw [String.append_empty] at read
  cases route with
  | capabilities => rfl
  | quote => exact read
  | charge => exact read
  | verify => exact read
  | validateDestination => rfl

variable {σ : Type}

/-- A call of a rail in process. -/
structure Asked (σ : Type) where
  rail : ServedRail σ
  method : Ffi.Method
  text : String

namespace Server

/-- The handler has what it asks the rail for. -/
def reads (server : Server σ) (posted : Posted) : Bool :=
  match posted.route with
  | .capabilities => true
  | .quote => (server.extractors.payRequest posted.request).isOk
  | .charge => (server.extractors.payRequest posted.request).isOk
  | .verify => (server.extractors.receipt posted.request).isOk
  | .validateDestination =>
    (server.extractors.bytes posted.request).toOption.any fun body =>
      (server.destination body).isOk

/-- The call a request stands for: it passes the gate, names a rail, and is read. -/
def asked (server : Server σ) (posted : Posted) : Option (Asked σ) :=
  if server.admits posted.request && server.reads posted then
    (server.registry posted.railId).map fun rail =>
      ⟨rail, posted.route.method, posted.route.part posted.text⟩
  else none

/-- A request that posts an object as `JSON.stringify` writes it stands for the call with it. -/
theorem asked_stringify {server : Server σ} {posted : Posted} {rail : ServedRail σ}
    {members : List (String × Value)} (admitted : server.admits posted.request = true)
    (readable : server.reads posted = true) (registered : server.registry posted.railId = some rail)
    (written : posted.body = asBytes (stringify (.object members)))
    (unmarked : ∀ literal ∈ literals (.object members), Unmarked literal) :
    server.asked posted = some ⟨rail, posted.route.method, stringify (.object members)⟩ := by
  have text : posted.text = stringify (.object members) := by
    rw [Posted.text, written, fromUtf8_asBytes, Option.getD_some]
  rw [asked, if_pos (by simp [admitted, readable]), registered, Option.map_some, text,
    Route.part_stringify _ unmarked]

/-- If the request's body is read it is a text, as a call's argument has to be. -/
def Texts (server : Server σ) (posted : Posted) : Prop :=
  posted.route ≠ .capabilities → server.reads posted = true → posted.body = asBytes posted.text

end Server

/-- Both transports parse the same JSON: what the sidecar reads from a text, the library reads from
the part of it that the sidecar looks at. -/
structure SameSerde (server : Server σ) (readers : Readers) : Prop where
  payRequest : ∀ {request : Request} {text req}, request.body = asBytes text →
    server.extractors.payRequest request = .ok req → readers.payRequest (leadingValue text) = .ok req
  receipt : ∀ {request : Request} {text receipt}, request.body = asBytes text →
    server.extractors.receipt request = .ok receipt →
      readers.receipt (leadingValue text) = .ok receipt
  bytes : ∀ {request : Request} {body}, server.extractors.bytes request = .ok body →
    body = request.body
  destination : ∀ {text destination}, server.destinationFromSlice (asBytes text) = .ok destination →
    readers.validateDestination text = .ok destination

section Told

variable (printable : Char → Bool)

/-- A response says what the C library answers. -/
inductive Tells : Response → Except String String → Prop where
  | answered (text : String) : Tells ⟨200, text⟩ (.ok text)
  | failed (e : Error) :
    Tells ((ApiError.core e).intoResponse printable) (.error (railError e))

/-- A response to a request that no rail is asked about. -/
structure Refuses (server : Server σ) (posted : Posted) (response : Response) : Prop where
  fails : response.status ≠ 200
  gate : server.admits posted.request = false → response = unauthorizedResponse

/-- A rail that is asked the same on both sides is told of alike. -/
theorem handle_tells {α α' β : Type} {read : Except String α'} {extracted : α} {request : α'}
    {rail : ServedRail σ} {operation : ServedRail σ → α → σ → Except Error β × σ}
    {within : α' → σ → Except Error β × σ} {body : β → Json.Value} {world : σ}
    (readable : read = .ok request) (same : operation rail extracted = within request) :
    Tells printable (handle printable (.ok extracted) (.ok rail) operation body world).1
        (unary read within body world).1 ∧
      (handle printable (.ok extracted) (.ok rail) operation body world).2 =
        (unary read within body world).2 := by
  subst readable
  simp only [handle, unary, same]
  cases answered : (within request world).1 with
  | error e => exact ⟨.failed e, rfl⟩
  | ok value => exact ⟨.answered _, rfl⟩

/-- So is one that is asked what the library reads too. -/
theorem handle_extracted_tells {α β γ : Type} {extracted : Except Rejection α}
    {read : Except γ α} {blame : γ → String} {rail : ServedRail σ}
    {operation : ServedRail σ → α → σ → Except Error β × σ} {body : β → Json.Value} {world : σ}
    (readable : extracted.isOk = true)
    (agree : ∀ value, extracted = .ok value → read = .ok value) :
    Tells printable (handle printable extracted (.ok rail) operation body world).1
        (unary (read.mapError blame) (operation rail) body world).1 ∧
      (handle printable extracted (.ok rail) operation body world).2 =
        (unary (read.mapError blame) (operation rail) body world).2 := by
  cases extracted with
  | error rejection => simp [Except.isOk, Except.toBool] at readable
  | ok value =>
    apply handle_tells printable _ rfl
    rw [agree value rfl]
    rfl

/-- A handler that does not come to ask the rail answers with an error. -/
theorem handle_refuses {α β : Type} {extracted : Except Rejection α}
    {rail : Except ApiError (ServedRail σ)} {operation : ServedRail σ → α → σ → Except Error β × σ}
    {body : β → Json.Value} {world : σ}
    (refused : extracted.isOk = false ∨ rail.isOk = false) :
    (handle printable extracted rail operation body world).1.status ≠ 200 ∧
      (handle printable extracted rail operation body world).2 = world := by
  cases extracted with
  | error rejection => exact ⟨rejection.property, rfl⟩
  | ok request =>
    cases rail with
    | error e => exact ⟨e.intoResponse_status printable, rfl⟩
    | ok rail => simp [Except.isOk, Except.toBool] at refused

variable {server : Server σ} {posted : Posted} {world : σ}

/-- What the server answers a posted request. -/
def Server.answers (server : Server σ) (posted : Posted) (world : σ) : Response × σ :=
  server.respond printable (posted.route, posted.request) world

theorem lookup_isOk :
    (server.lookup posted.request.railId).isOk = (server.registry posted.railId).isSome := by
  unfold Server.lookup
  cases registered : server.registry posted.railId <;>
    simp [Posted.request, registered, Except.isOk, Except.toBool]

/-- A handler refuses what it cannot read, or what names no rail. -/
theorem handler_refuses
    (missing : server.reads posted = false ∨ (server.lookup posted.request.railId).isOk = false) :
    (server.handler printable posted.request world posted.route).1.status ≠ 200 ∧
      (server.handler printable posted.request world posted.route).2 = world := by
  unfold Server.reads at missing
  cases route : posted.route with
  | capabilities =>
    apply handle_refuses
    exact missing.imp (by simp [route]) id
  | quote =>
    apply handle_refuses
    simpa only [route] using missing
  | charge =>
    apply handle_refuses
    simpa only [route] using missing
  | verify =>
    apply handle_refuses
    simpa only [route] using missing
  | validateDestination =>
    simp only [route] at missing
    cases taken : server.extractors.bytes posted.request with
    | error rejection =>
      apply handle_refuses
      exact .inl (by rw [taken]; rfl)
    | ok body =>
      cases found : server.lookup posted.request.railId with
      | error e =>
        apply handle_refuses
        exact .inr (by rw [found]; rfl)
      | ok rail =>
        cases parsed : server.destination body with
        | error e =>
          simp only [Server.handler, handle, taken, found, parsed]
          exact ⟨ApiError.intoResponse_status printable _, trivial⟩
        | ok destination => simp [taken, found, parsed, Except.isOk, Except.toBool,
            Except.toOption] at missing

/-- The server does not ask a rail about a request it does not admit, read or place. -/
theorem answers_refuses (unasked : server.asked posted = none) :
    Refuses server posted (server.answers printable posted world).1 ∧
      (server.answers printable posted world).2 = world := by
  unfold Server.answers Server.respond
  by_cases admitted : server.admits posted.request = true
  case neg =>
    simp only [admitted]
    exact ⟨⟨by simp [unauthorizedResponse], fun _ => rfl⟩, rfl⟩
  simp only [admitted, if_true]
  have missing : server.reads posted = false ∨ (server.lookup posted.request.railId).isOk = false := by
    rw [lookup_isOk]
    cases readable : server.reads posted with
    | false => exact .inl rfl
    | true => simpa [Server.asked, admitted, readable] using unasked
  obtain ⟨fails, same⟩ := handler_refuses printable missing
  exact ⟨⟨fails, fun refused => by simp [admitted] at refused⟩, same⟩

section Readers

variable {readers : Readers} {fiatProviders : Option (List String)}

/-- What a rail is asked in process. -/
def Asked.inProcess (readers : Readers) (fiatProviders : Option (List String)) (asked : Asked σ)
    (world : σ) : Except String String × σ :=
  serve printable readers fiatProviders asked.rail asked.text world asked.method

/-- A request that reaches its rail is answered as the call it stands for. -/
theorem answers_tells (serde : SameSerde server readers) (texts : server.Texts posted)
    {asked : Asked σ} (reached : server.asked posted = some asked) :
    Tells printable (server.answers printable posted world).1
        (asked.inProcess printable readers fiatProviders world).1 ∧
      (server.answers printable posted world).2 =
        (asked.inProcess printable readers fiatProviders world).2 := by
  simp only [Server.asked] at reached
  split at reached
  case isFalse => cases reached
  rename_i passes
  obtain ⟨admitted, readable⟩ := Bool.and_eq_true_iff.mp passes
  obtain ⟨rail, registered, rfl⟩ := Option.map_eq_some_iff.mp reached
  have found : server.lookup posted.request.railId = .ok rail := by
    rw [Server.lookup, show posted.request.railId = posted.railId from rfl, registered]
  unfold Server.answers Server.respond Asked.inProcess
  simp only [admitted, if_true]
  have spelled (named : posted.route ≠ .capabilities) : posted.request.body = asBytes posted.text :=
    texts named readable
  unfold Server.reads at readable
  cases route : posted.route with
  | capabilities =>
    simp only [Server.handler, found, Route.method, serve]
    exact ⟨.answered _, rfl⟩
  | quote =>
    simp only [route] at readable
    simp only [Server.handler, found, Route.method, Route.part, serve]
    apply handle_extracted_tells printable readable
    exact fun req extracted => serde.payRequest (spelled (by simp [route])) extracted
  | charge =>
    simp only [route] at readable
    simp only [Server.handler, found, Route.method, Route.part, serve]
    apply handle_extracted_tells printable readable
    exact fun req extracted => serde.payRequest (spelled (by simp [route])) extracted
  | verify =>
    simp only [route] at readable
    simp only [Server.handler, found, Route.method, Route.part, serve]
    apply handle_extracted_tells printable readable
    exact fun receipt extracted => serde.receipt (spelled (by simp [route])) extracted
  | validateDestination =>
    simp only [route] at readable
    cases extracted : server.extractors.bytes posted.request with
    | error rejection => simp [extracted, Except.toOption] at readable
    | ok body =>
      have same : body = asBytes posted.text :=
        (serde.bytes extracted).trans (spelled (by simp [route]))
      cases parsed : server.destinationFromSlice body with
      | error e =>
        simp [extracted, Server.destination, parsed, Except.toOption, Except.isOk, Except.toBool,
          Except.mapError] at readable
      | ok destination =>
        simp only [Server.handler, extracted, found, Route.method, Route.part, serve]
        refine handle_tells printable (?_ : _ = Except.ok destination) ?_
        · rw [serde.destination (same ▸ parsed)]
          rfl
        · simp only [Server.destination, parsed, Except.mapError]

/-- For any requests one after another, the sidecar leaves the world as the calls that its rails
are asked leave it in process, and tells their answers; no other request is answered with a
success, and one without the token is told nothing but that. -/
theorem sidecar_in_process (serde : SameSerde server readers) (posted : List Posted)
    (texts : ∀ request ∈ posted, server.Texts request) (world : σ) :
    let overSidecar := History.run (server.answers printable) posted world
    let inProcess := History.run (Asked.inProcess printable readers fiatProviders)
      (posted.filterMap server.asked) world
    overSidecar.2 = inProcess.2 ∧
      List.Forall₂ (fun response answer => Tells printable response.2 answer.2)
        (overSidecar.1.filter fun response => (server.asked response.1).isSome) inProcess.1 ∧
      ∀ response ∈ overSidecar.1, server.asked response.1 = none →
        Refuses server response.1 response.2 := by
  apply History.run_through
  constructor
  · intro request member asked reached world
    exact answers_tells printable serde (texts request member) reached
  · intro request _ unasked world
    exact answers_refuses printable unasked

end Readers

end Told

namespace Posted

def orderText : String :=
  Json.stringify (.object [("amount_minor", number MockRail.order.amountMinor.toNat),
    ("currency", .string MockRail.order.currency),
    ("destination", .string MockRail.order.destination.text),
    ("reference", .string MockRail.order.reference.text)])

/-- Readers that know this one order. -/
def oneOrder : Readers where
  payRequest text := if text = orderText then .ok MockRail.order else .error unreadable
  receipt _ := .error unreadable
  validateDestination _ := .error (.other unreadable)
  webhook _ := .error (.other unreadable)

/-- The extractor's answer to a request that does not say that its body is JSON. -/
def missingJsonContentType : Rejection :=
  ⟨⟨415, "Expected request with `Content-Type: application/json`"⟩, by decide⟩

def jsonSyntaxError : Rejection :=
  ⟨⟨400, "Failed to parse the request body as JSON: expected value at line 1 column 1"⟩, by decide⟩

/-- The JSON extractor, for the one order. -/
def jsonOrder (request : Request) : Except Rejection PayRequest :=
  if request.headers.lookup "content-type" = some (asBytes "application/json") then
    match fromUtf8 request.body with
    | some text => if leadingValue text = orderText then .ok MockRail.order else .error jsonSyntaxError
    | none => .error jsonSyntaxError
  else .error missingJsonContentType

def orderServer : Server UInt64 where
  token := "5f2a"
  registry := defaultRegistry fun _ => true
  extractors := ⟨jsonOrder, fun _ => .error jsonSyntaxError, fun request => .ok request.body⟩
  destinationFromSlice := fun _ => .error "expected value at line 1 column 1"

theorem orderServer_serde : SameSerde orderServer oneOrder := by
  constructor
  case payRequest =>
    intro request text req posted extracted
    simp only [orderServer, jsonOrder, posted, fromUtf8_asBytes] at extracted
    split at extracted
    case isFalse => cases extracted
    split at extracted
    case isTrue same =>
      cases extracted
      exact if_pos same
    case isFalse => cases extracted
  case receipt =>
    intro request text receipt posted extracted
    cases extracted
  case bytes =>
    intro request body extracted
    exact (Except.ok.inj extracted).symm
  case destination =>
    intro text destination parsed
    cases parsed

def bearer : String × List UInt8 := ("authorization", asBytes "Bearer 5f2a")

def typed : String × List UInt8 := ("content-type", asBytes "application/json")

/-- An order; one without the token, one for a rail that is not registered, and one that is not
said to be JSON; and an order with another behind it. -/
def orders : List Posted :=
  [⟨.charge, "mock", [bearer, typed], asBytes orderText⟩,
    ⟨.charge, "mock", [typed], asBytes orderText⟩,
    ⟨.charge, "stripe", [bearer, typed], asBytes orderText⟩,
    ⟨.charge, "mock", [bearer], asBytes orderText⟩,
    ⟨.charge, "mock", [bearer, typed], asBytes (orderText ++ orderText)⟩]

theorem orders_texts : ∀ posted ∈ orders, orderServer.Texts posted := by
  intro posted member named readable
  simp only [orders, List.mem_cons, List.not_mem_nil, or_false] at member
  rcases member with same | same | same | same | same <;> simp [same, Posted.text]

/-- Two of the orders go through, with the answers they have in process. -/
theorem sidecar_in_process_orders :
    let overSidecar := History.run (orderServer.answers fun _ => true) orders 1700000000
    let inProcess := History.run (Asked.inProcess (fun _ => true) oneOrder none)
      (orders.filterMap orderServer.asked) 1700000000
    overSidecar.1.map (fun response => response.2.status) = [200, 401, 404, 415, 200] ∧
      overSidecar.2 = inProcess.2 ∧
      List.Forall₂ (fun response answer => Tells (fun _ => true) response.2 answer.2)
        (overSidecar.1.filter fun response => (orderServer.asked response.1).isSome) inProcess.1 ∧
      ∀ response ∈ overSidecar.1, orderServer.asked response.1 = none →
        Refuses orderServer response.1 response.2 :=
  ⟨by decide +kernel,
    sidecar_in_process (fun _ => true) orderServer_serde orders orders_texts 1700000000⟩

end Posted

end Patala.Sidecar
