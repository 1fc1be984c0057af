import ChequeTeller.Http.Request
import ChequeTeller.Quote
import ChequeTeller.Redemption
import ChequeTeller.Service.Refusal
import ChequeTeller.Url.Percent

/-!
The service: what it answers to each request. All answers are JSON. Only paying changes the
ledger, and only quoting and paying call the node.
-/

namespace ChequeTeller.Service

open Lightning

structure Response where
  status : Nat
  allow : Option String
  /-- Absent in answers to `HEAD`. -/
  body : Option Json

namespace Response

def ok (body : Json) : Response :=
  ⟨200, none, some body⟩

def refuse (r : Refusal) : Response :=
  ⟨r.status, r.allow?, some r.toJson⟩

def ofExcept : Except Refusal Json → Response
  | .ok body => ok body
  | .error r => refuse r

def contentType : String := "application/json"

/-- The answer as it goes out to a request of that method. -/
def forMethod (method : String) (r : Response) : Response :=
  if method = "HEAD" then { r with body := none } else r

end Response

def version : String := "0.1.0"

def health : Json :=
  .object [("status", .string "ok"), ("version", .string version)]

/-- The payment request that a path segment spells. -/
def readSegment (segment : String) : Except Refusal String :=
  match Text.ofUtf8? (Url.Percent.decodeText segment) with
  | some request => .ok request
  | none => .error .badPath

/-- The largest body that is read. -/
def bodyLimit : Nat := 2 * 1024 * 1024

def ofFlaw : Json.Flaw → BodyFault
  | .text => .notJson
  | .shape => .badShape

/-- The pay request in a body, whose type is looked at first and then its length. -/
def readPayRequest (r : Http.Request) : Except BodyFault PayRequest :=
  if ¬ r.mediaType?.any (·.isJson) then .error .notDeclared
  else if bodyLimit < r.body.length then .error .tooLarge
  else (Json.readText (PayRequest.ofDocument Json.depthLimit) r.body).mapError ofFlaw

def quote (terms : Terms) (segment : String) : Dialogue (Except Refusal Json) :=
  match readSegment segment with
  | .error r => .done (.error r)
  | .ok request => do
    let outcome ← (Quote.request request terms).run
    return (outcome.map Quote.toJson).mapError .teller

def pay (terms : Terms) (now : UInt64) (r : Http.Request) (ledger : Ledger) :
    Dialogue (Except Refusal Json × Ledger) :=
  match readPayRequest r with
  | .error fault => .done (.error (.badBody fault), ledger)
  | .ok request => do
    let (outcome, ledger) ← redeem terms now request ledger
    return (outcome.mapError .teller, ledger)

/-- What the endpoint answers to a request that it allows. -/
def answer (terms : Terms) (now : UInt64) (r : Http.Request) (ledger : Ledger) :
    Endpoint → Dialogue (Except Refusal Json × Ledger)
  | .health => .done (.ok health, ledger)
  | .info => .done (.ok terms.toJson, ledger)
  | .quote segment => do
    let outcome ← quote terms segment
    return (outcome, ledger)
  | .pay => pay terms now r ledger

/-- The answer to a request at the time `now`, and the ledger after it. -/
def handle (terms : Terms) (now : UInt64) (r : Http.Request) (ledger : Ledger) :
    Dialogue (Response × Ledger) := do
  let (outcome, ledger) ←
    match Endpoint.ofPath? r.path with
    | none => Dialogue.done (.error (Refusal.notFound r.method r.path), ledger)
    | some endpoint =>
      if r.method ∈ endpoint.methods then answer terms now r ledger endpoint
      else .done (.error (.notAllowed r.method r.path endpoint), ledger)
  return ((Response.ofExcept outcome).forMethod r.method, ledger)

end ChequeTeller.Service
