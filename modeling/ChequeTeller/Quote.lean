import ChequeTeller.Dealing
import ChequeTeller.Invoice
import ChequeTeller.Terms

/-!
Quotes: what it costs to have a payment request paid. The node decodes the request, the first
route that it finds gives the fee, and the route's time lock, counted from the node's current
block, gives the time that it may take.
-/

namespace ChequeTeller

open Lightning

def decodeInvoice (request : String) : Dealing Invoice := do
  let decoded ← Dealing.perform .decodeRequest (.decodeRequest request)
  Dealing.ofExcept ((Invoice.ofDecoded decoded).mapError .malformedInvoice)

structure Estimate where
  route : Route
  routingFeeMsat : UInt64
  deriving DecidableEq, Repr

namespace Estimate

/-- The route's fee and the teller's own. -/
def routingFee (route adaptor : UInt64) : Except TellerError UInt64 :=
  if route.toNat + adaptor.toNat < UInt64.size then .ok (route + adaptor)
  else .error (.feeOverflow route adaptor)

/-- The node refuses a route query when there is no route. -/
def routesOrNone (outcome : Except Failure (List Route)) : Except Failure (List Route) :=
  match outcome with
  | .error (.status ..) => .ok []
  | other => other

def queryRoutes (destination : NodeId) (amount : UInt64) : Dealing (List Route) :=
  ExceptT.mk (.ask (.queryRoutes destination amount) fun outcome =>
    .done ((routesOrNone outcome).mapError (.node .queryRoutes)))

/-- Only the first route counts, and only if it states its fees. -/
def ofRoutes (destination : NodeId) (terms : Terms) (routes : List Route) :
    Except TellerError Estimate :=
  match routes.head?.bind fun route => route.totalFeesMsat.map (route, ·) with
  | none => .error (.noRoute destination)
  | some (route, fee) => do
    let routingFeeMsat ← routingFee fee terms.adaptorFeeMsat
    return { route, routingFeeMsat }

def request (destination : NodeId) (amount : UInt64) (terms : Terms) : Dealing Estimate := do
  let routes ← queryRoutes destination amount
  Dealing.ofExcept (ofRoutes destination terms routes)

end Estimate

structure Quote where
  amount : UInt64
  recipient : NodeId
  paymentHash : PaymentHash
  routingFee : UInt64
  expiry : String
  estimatedTimeoutSecs : UInt64
  deriving DecidableEq

namespace Quote

/-- The time that the blocks from `height` to `timeLock` take, at most the largest word. -/
def timeoutSecs (timeLock height blockTime : UInt64) : UInt64 :=
  UInt64.ofNat (min (UInt64.size - 1) ((timeLock.toNat - height.toNat) * blockTime.toNat))

def assemble (invoice : Invoice) (estimate : Estimate) (height : UInt64) (terms : Terms) :
    Except TellerError Quote := do
  let expiry ← invoice.expiryText.mapError .malformedInvoice
  return {
    amount := invoice.amountMsat
    recipient := invoice.destination
    paymentHash := invoice.paymentHash
    routingFee := estimate.routingFeeMsat
    expiry
    estimatedTimeoutSecs := timeoutSecs estimate.route.totalTimeLock height terms.blockTimeSecs }

def request (paymentRequest : String) (terms : Terms) : Dealing Quote := do
  let invoice ← decodeInvoice paymentRequest
  let estimate ← Estimate.request invoice.destination invoice.amountMsat terms
  let info ← Dealing.perform .nodeInfo .nodeInfo
  Dealing.ofExcept (assemble invoice estimate info.blockHeight terms)

def toJson (q : Quote) : Json :=
  .object [
    ("amount", .ofWord q.amount),
    ("recipient", .string q.recipient.toHex),
    ("payment_hash", .string q.paymentHash.toHex),
    ("routing_fee", .ofWord q.routingFee),
    ("expiry", .string q.expiry),
    ("estimated_timeout_secs", .ofWord q.estimatedTimeoutSecs)]

end Quote

end ChequeTeller
