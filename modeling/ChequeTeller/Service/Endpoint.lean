import ChequeTeller.Text.Split

/-!
The endpoints of the service and the methods that they answer.
-/

namespace ChequeTeller.Service

inductive Endpoint
  | health
  | info
  /-- With the path segment that spells the payment request. -/
  | quote (segment : String)
  | pay
  deriving DecidableEq, Repr

namespace Endpoint

def ofPath? (path : String) : Option Endpoint :=
  match Text.split (· = '/') path.toList with
  | [[], segment] =>
    if segment = "health".toList then some health
    else if segment = "info".toList then some info
    else if segment = "pay".toList then some pay
    else none
  | [[], name, segment] =>
    if name = "quote".toList ∧ segment ≠ [] then some (quote (String.ofList segment)) else none
  | _ => none

/-- The methods that the endpoint answers. -/
def methods : Endpoint → List String
  | health | info | quote _ => ["GET", "HEAD"]
  | pay => ["POST"]

end Endpoint

end ChequeTeller.Service
