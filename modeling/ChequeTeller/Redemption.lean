import ChequeTeller.Cheque.Verification
import ChequeTeller.Dealing
import ChequeTeller.PayRequest
import ChequeTeller.Terms

/-!
Redeeming a cheque. All checks come first: the request, the signature, the body, the timeout and
the amount. Then the index is claimed in the ledger, and only then is the node asked to pay, once.
-/

namespace ChequeTeller

open Lightning

/-- The sum of two words, or the largest word where they have none. -/
def cappedSum (a b : UInt64) : UInt64 :=
  if a.toNat + b.toNat < UInt64.size then a + b else 0xFFFFFFFFFFFFFFFF

namespace Cheque.Body

/-- The cheque must be redeemed before its timeout, by a margin. -/
def checkTimeout (b : Body) (now margin : UInt64) : Except TellerError Unit :=
  if b.timeout ≤ cappedSum now margin then .error (.expired b.timeout now) else .ok ()

def checkAmount (b : Body) (requested : UInt64) : Except TellerError Unit :=
  if requested ≤ b.amount then .ok () else .error (.amountExceeded requested b.amount)

end Cheque.Body

/-- A payment against a hash lock, at the fee and the time lock that the terms allow. -/
def Terms.payment (terms : Terms) (destination : NodeId) (amountMsat : UInt64)
    (paymentAddr : Option PaymentAddr) (lock : Lock) : Payment where
  destination := destination
  paymentHash := lock
  amountMsat := amountMsat
  feeLimitSat := terms.payFeeLimitSat
  finalCltvDelta := terms.finalCltvDelta
  paymentAddr := paymentAddr

def Ledger.redeem (l : Ledger) (c : Channel) (index : UInt64) : Except TellerError Ledger :=
  (l.claim c index).mapError (.replayed index)

namespace Order

/-- The body of the order's cheque, if the cheque is good at the time `now`. -/
def check (o : Order) (terms : Terms) (now : UInt64) : Except TellerError Cheque.Body := do
  if ¬ o.frame.verifies o.channel.tag o.channel.key then .error .unauthorized
  let body ← (Cheque.Body.decode o.frame.body).mapError .malformedBody
  body.checkTimeout now terms.chequeTimeoutMarginMs
  if terms.enforceChequeAmount then body.checkAmount o.amountMsat
  return body

/-- The payment that redeems a cheque with this lock. -/
def payment (o : Order) (lock : Lock) (terms : Terms) : Payment :=
  terms.payment o.destination o.amountMsat o.paymentAddr lock

end Order

/-- All that happens before the node is called: the payment to make, and the ledger with the
cheque's index claimed. -/
def authorize (terms : Terms) (now : UInt64) (request : PayRequest) (ledger : Ledger) :
    Except TellerError (Payment × Ledger) := do
  let order ← request.parse
  let body ← order.check terms now
  let ledger ← ledger.redeem order.channel body.index
  return (order.payment body.lock terms, ledger)

/-- Asks the node to make the payment; its answer is passed on as it is. -/
def execute (payment : Payment) : Dealing Json :=
  Dealing.perform .sendPayment (.sendPayment payment)

/-- Redeems a cheque: the node's answer or the error, and the ledger afterwards. A claim stands
even if the payment fails. -/
def redeem (terms : Terms) (now : UInt64) (request : PayRequest) (ledger : Ledger) :
    Dialogue (Except TellerError Json × Ledger) :=
  match authorize terms now request ledger with
  | .error e => .done (.error e, ledger)
  | .ok (payment, ledger) => do
    let outcome ← (execute payment).run
    return (outcome, ledger)

end ChequeTeller
