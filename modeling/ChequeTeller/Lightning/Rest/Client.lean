import ChequeTeller.Lightning.Dialogue
import ChequeTeller.Lightning.Rest.Setup
import ChequeTeller.Lightning.Rest.Wire
import ChequeTeller.Text.Base64
import ChequeTeller.Text.Utf16
import ChequeTeller.Url.Edit

/-!
The client that makes calls over the node's REST interface. Each call is one request, and how its
answer reads depends on the status first and then on the body alone.
-/

namespace ChequeTeller.Lightning.Rest

open Json Json.Document

structure Client where
  base : Url
  macaroon : Macaroon
  trust : Trust
  timeoutSecs : UInt64 := 60

namespace Client

def new (base : Url) (macaroon : Macaroon) (trust : Trust) : Except SetupError Client :=
  if base.isBase then .ok { base, macaroon, trust } else .error (.notBase base)

/-- The name of a call in failures. -/
def context : Call → String
  | .decodeRequest _ => "GET /v1/payreq"
  | .queryRoutes _ _ => "GET /v1/graph/routes"
  | .nodeInfo => "GET /v1/getinfo"
  | .sendPayment _ => "POST /v1/channels/transactions"

/-- Two of the URLs are resolved against the base, so they lose its query; the other two append
to its path. -/
def url (c : Client) : Call → Url
  | .decodeRequest request => c.base.appendSegments ["v1", "payreq", request]
  | .queryRoutes destination amount =>
    (c.base.appendSegments ["v1", "graph", "routes", destination.toHex, "0"]).appendPair
      "amt_msat" (Text.Decimal.numeral amount.toNat)
  | .nodeInfo => c.base.resolve "./v1/getinfo"
  | .sendPayment _ => c.base.resolve "./v1/channels/transactions"

def base64 {role : Role} (o : Octets role) : Json :=
  .string (Text.Base64.encode o.bytes)

def wordText (n : UInt64) : Json :=
  .string (Text.Decimal.numeral n.toNat)

/-- Octets are sent in Base64 and amounts as strings. Without a payment address its member is left
out. -/
def paymentBody (p : Payment) : Json :=
  .object (
    [("dest", base64 p.destination),
      ("payment_hash", base64 p.paymentHash),
      ("amt_msat", wordText p.amountMsat),
      ("final_cltv_delta", .ofNat p.finalCltvDelta.toNat),
      ("fee_limit", .object [("fixed", wordText p.feeLimitSat)])] ++
    (match p.paymentAddr with
      | some addr => [("payment_addr", base64 addr)]
      | none => []))

def request (c : Client) (call : Call) : Request where
  method :=
    match call with
    | .sendPayment _ => .post
    | _ => .get
  url := c.url call
  macaroon := c.macaroon.toHex
  body :=
    match call with
    | .sendPayment payment => some (paymentBody payment)
    | _ => none

/-! Reading answers. -/

def routesFields : List Field := [.of "routes" (asList (Route.ofDocument (depthLimit - 2)))]

def readRoutes (d : Document) : Reading (List Route) := do
  let vs ← asFields routesFields d
  vs.withDefault "routes" (asList (Route.ofDocument (depthLimit - 2))) []

/-- Why a payment was not made; empty if it was. -/
def readPaymentError (d : Document) : Reading String := do
  let vs ← asFields [.of "payment_error" asString] d
  vs.withDefault "payment_error" asString ""

def flawText : Flaw → String
  | .text => "not JSON"
  | .shape => "not of the expected shape"

def readBody {α : Type} (context : String) (read : Document → Reading α) (body : List UInt8) :
    Except Failure α :=
  (readText read body).mapError (.decode context ∘ flawText)

/-- A payment's answer is kept whole, and read only for an error that it tells of. -/
def readPayment (context : String) (body : List UInt8) : Except Failure Json := do
  let value ← readBody context (·.toJson depthLimit) body
  let reason ← (readPaymentError value.toDocument).mapError (.decode context ∘ flawText)
  if reason = "" then return value else .error (.rejected context reason value)

/-- The body of an answer whose status tells of success. -/
def readSuccess (call : Call) (body : List UInt8) : Except Failure call.Answer :=
  match call with
  | .decodeRequest r => readBody (context (.decodeRequest r)) DecodedRequest.ofDocument body
  | .queryRoutes d a => readBody (context (.queryRoutes d a)) readRoutes body
  | .nodeInfo => readBody (context .nodeInfo) (NodeInfo.ofDocument depthLimit) body
  | .sendPayment p => readPayment (context (.sendPayment p)) body

def isSuccess (status : UInt16) : Bool :=
  200 ≤ status && status ≤ 299

def read (call : Call) : Answer → Except Failure call.Answer
  | .lost cause => .error (.transport (context call) cause)
  | .complete status body =>
    if isSuccess status then readSuccess call body
    else .error (.status (context call) status (Text.ofMarked body))

/-- The node at the other end of a wire. -/
def node {σ : Type} (c : Client) (wire : Wire σ) : Dialogue.Node σ :=
  fun call s =>
    let (answer, s) := wire (c.request call) s
    (read call answer, s)

end Client

end ChequeTeller.Lightning.Rest
