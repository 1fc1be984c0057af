import ChequeTeller.Json.Basic
import ChequeTeller.Text.Decimal

/-!
How a call to a Lightning node fails. The context says which call it was.
-/

namespace ChequeTeller.Lightning

/-- What a failure comes of, in words, and what that comes of in turn. -/
structure Cause where
  text : String
  /-- The causes underneath, each under the one before it. -/
  under : List String := []
  deriving DecidableEq, Repr

/-- A message with those of its causes after it, from the nearest down. -/
def withCauses (message : String) (causes : List String) : String :=
  causes.foldl (fun told cause => told ++ ": " ++ cause) message

inductive Failure
  /-- No complete answer came back. -/
  | transport (context : String) (cause : Cause)
  /-- The answer's status tells of no success. -/
  | status (context : String) (code : UInt16) (body : String)
  /-- The answer cannot be read. -/
  | decode (context detail : String)
  /-- The node says that it did not do it. -/
  | rejected (context reason : String) (body : Json)

namespace Failure

def message : Failure → String
  | transport context cause => "transport error: " ++ context ++ ": " ++ cause.text
  | status context code body =>
    "unexpected status " ++ Text.Decimal.numeral code.toNat ++ ": " ++ context ++ ": " ++ body
  | decode context detail => "failed to decode response: " ++ context ++ ": " ++ detail
  | rejected context reason _ => "rejected by backend: " ++ context ++ ": " ++ reason

/-- The causes, the nearest first. Only a transport failure has any, and its message ends with the
first of them already. -/
def causes : Failure → List String
  | transport _ cause => cause.text :: cause.under
  | _ => []

def chain (f : Failure) : String :=
  withCauses f.message f.causes

end Failure

/-- What a call to the node is for. -/
inductive Action
  | decodeRequest
  | queryRoutes
  | nodeInfo
  | sendPayment
  deriving DecidableEq, Repr

def Action.title : Action → String
  | decodeRequest => "decode payment request"
  | queryRoutes => "query routes"
  | nodeInfo => "fetch node info"
  | sendPayment => "send payment"

end ChequeTeller.Lightning
