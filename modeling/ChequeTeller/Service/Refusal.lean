import ChequeTeller.Service.Endpoint
import ChequeTeller.Service.Status
import ChequeTeller.TellerError

/-!
Why the service does not do what a request asks, with the one form that clients see: a text and
the code of a kind.
-/

namespace ChequeTeller.Service

inductive BodyFault
  /-- The content type is not that of JSON. -/
  | notDeclared
  | tooLarge
  | notJson
  | badShape
  deriving DecidableEq, Repr

def BodyFault.message : BodyFault → String
  | notDeclared => "Expected request with `Content-Type: application/json`"
  | tooLarge => "Failed to buffer the request body"
  | notJson => "Failed to parse the request body as JSON"
  | badShape => "Failed to deserialize the JSON body into the target type"

inductive Refusal
  | teller (error : TellerError)
  | badBody (fault : BodyFault)
  /-- The payment request in the path is not UTF-8. -/
  | badPath
  | notFound (method path : String)
  | notAllowed (method path : String) (endpoint : Endpoint)

namespace Refusal

def kind? : Refusal → Option ErrorKind
  | teller error => some error.kind
  | badBody _ | badPath => some .invalidRequest
  | notFound .. | notAllowed .. => none

def code : Refusal → String
  | teller error => error.kind.code
  | badBody _ | badPath => ErrorKind.code .invalidRequest
  | notFound .. => "not_found"
  | notAllowed .. => "method_not_allowed"

def status : Refusal → Nat
  | teller error => error.kind.status
  | badBody _ | badPath => ErrorKind.status .invalidRequest
  | notFound .. => 404
  | notAllowed .. => 405

def message : Refusal → String
  | teller error => error.message
  | badBody fault => "invalid request body: " ++ fault.message
  | badPath => "invalid request path: Invalid UTF-8 in `payload`"
  | notFound method path => "no such endpoint: " ++ method ++ " " ++ path
  | notAllowed method path _ => "method " ++ method ++ " not allowed on " ++ path

/-- The methods that would have been allowed. -/
def allow? : Refusal → Option String
  | notAllowed _ _ endpoint => some (",".intercalate endpoint.methods)
  | _ => none

def toJson (r : Refusal) : Json :=
  .object [("error", .string r.message), ("kind", .string r.code)]

end Refusal

end ChequeTeller.Service
