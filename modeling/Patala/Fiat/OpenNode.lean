import Patala.Fiat.Http

/-! The OpenNode rail, a hosted checkout: `charge` creates a charge for an amount that is sent as
a float, and keeps the charge's id in the proof. -/

namespace Patala.Fiat.OpenNode

structure OpenNodeCharge where
  id : String
  status : String
  amount : Json.Value
  currency : String
  hostedCheckoutUrl : String

structure Envelope where
  data : OpenNodeCharge

structure ErrorEnvelope where
  message : String

structure ChargeProof where
  chargeId : String
  hostedCheckoutUrl : String

def malformed (detail : String) : Error := Fiat.malformed "opennode" detail

section Float

/-- Digits with at most one point in front of them, among them or behind them. -/
def isMantissa (chars : List Char) : Bool :=
  let whole := chars.takeWhile isAsciiDigit
  match chars.dropWhile isAsciiDigit with
  | [] => whole ≠ []
  | '.' :: fraction => fraction.all isAsciiDigit && (whole ≠ [] || fraction ≠ [])
  | _ => false

def unsigned : List Char → List Char
  | '+' :: rest => rest
  | '-' :: rest => rest
  | chars => chars

/-- The texts `f64::from_str` reads: a number with or without an exponent, or the name of a value
that is none, in any case; a sign may come first. -/
def isFloat (text : String) : Bool :=
  let chars := unsigned text.toList
  let marked := fun c : Char => c = 'e' || c = 'E'
  let exponent := match chars.dropWhile (!marked ·) with
    | [] => true
    | _ :: behind => unsigned behind ≠ [] && (unsigned behind).all isAsciiDigit
  ["inf", "infinity", "nan"].contains (toAsciiLowercase (String.ofList chars)) ||
    isMantissa (chars.takeWhile (!marked ·)) && exponent

example : ["12.30", ".5", "5.", "-1e9", "NaN"].all isFloat ∧ ¬ ["", ".", "1e", "1 "].any isFloat := by
  decide

end Float

/-- The rail, with how its messages are written and read. `jsonFloat` is the float a text stands
for, printed as a JSON number. -/
structure OpenNodeRail where
  apiKey : String
  baseUrl : String
  currencies : List String
  jsonFloat : String → String
  proofToBytes : ChargeProof → List UInt8
  envelopeFromSlice : FromSlice Envelope
  errorFromSlice : FromSlice ErrorEnvelope

def railId : String := "opennode"

def requestError (e : CurrencyError) : Error := .invalidRequest s!"opennode: {e.toString}"

namespace OpenNodeRail

variable (rail : OpenNodeRail)

def classifyError (status : UInt16) (body : List UInt8) : Error :=
  let message := match rail.errorFromSlice body with
    | .ok env => if env.message = "" then "no message" else env.message
    | .error _ => "no message"
  unexpectedStatus "opennode" status message

/-- The request `do_json` sends. -/
def jsonRequest (method : Method) (path : String) (body : Option Json.Value) : Request where
  method := method
  url := rail.baseUrl ++ path
  query := []
  headers := [("Authorization", rail.apiKey), ("Accept", "application/json")]
  basicAuth := none
  payload := body.map .json

def createBody (req : PayRequest) (currency amount : String) : Json.Value :=
  .object [("amount", .number (rail.jsonFloat amount)),
    ("currency", .string currency),
    ("order_id", .string req.reference.text),
    ("description", .string s!"patala order {req.reference.text}")]

/-- Create a charge for a request; its receipt claims no amount yet. -/
def charge (req : PayRequest) : Talk Receipt := do
  req.validate
  checkCurrency railId rail.currencies req.currency
  let currency := toAsciiUppercase (trim req.currency)
  let amount ← (minorToMajorString req.amountMinor currency).mapError requestError
  insist (isFloat amount) (.rail "opennode: could not render amount as a number")
  let envelope ← fetch "opennode" "/v1/charges"
    (rail.jsonRequest .post "/v1/charges" (some (rail.createBody req currency amount)))
    rail.classifyError rail.envelopeFromSlice
  insist (envelope.data.id ≠ "" ∧ envelope.data.hostedCheckoutUrl ≠ "")
    (malformed "empty id or hosted_checkout_url")
  return {
    railId := railId
    amountMinor := 0
    currency
    reference := req.reference
    proof := rail.proofToBytes ⟨envelope.data.id, envelope.data.hostedCheckoutUrl⟩
    settledAtUnix := 0 }

end OpenNodeRail

end Patala.Fiat.OpenNode
