import ChequeTeller.Json.Reading

/-!
The kinds of errors, as clients see them.
-/

namespace ChequeTeller

inductive ErrorKind
  | invalidRequest
  | malformedCheque
  | malformedChequeBody
  | invalidKeyMaterial
  | unauthorized
  | chequeExpired
  | amountExceedsCheque
  | chequeReplayed
  | malformedInvoice
  | invoiceDecodeFailed
  | noRouteAvailable
  | feeOverflow
  | backendUnavailable
  | paymentFailed
  | internalEffectFailure
  deriving DecidableEq, Repr

namespace ErrorKind

def code : ErrorKind → String
  | invalidRequest => "invalid_request"
  | malformedCheque => "malformed_cheque"
  | malformedChequeBody => "malformed_cheque_body"
  | invalidKeyMaterial => "invalid_key_material"
  | unauthorized => "unauthorized"
  | chequeExpired => "cheque_expired"
  | amountExceedsCheque => "amount_exceeds_cheque"
  | chequeReplayed => "cheque_replayed"
  | malformedInvoice => "malformed_invoice"
  | invoiceDecodeFailed => "invoice_decode_failed"
  | noRouteAvailable => "no_route_available"
  | feeOverflow => "fee_overflow"
  | backendUnavailable => "backend_unavailable"
  | paymentFailed => "payment_failed"
  | internalEffectFailure => "internal_effect_failure"

def all : List ErrorKind := [
  invalidRequest, malformedCheque, malformedChequeBody, invalidKeyMaterial, unauthorized,
  chequeExpired, amountExceedsCheque, chequeReplayed, malformedInvoice, invoiceDecodeFailed,
  noRouteAvailable, feeOverflow, backendUnavailable, paymentFailed, internalEffectFailure]

def ofCode? (code : String) : Option ErrorKind :=
  all.find? (·.code = code)

open Json in
/-- A kind is read from its code, or from an object whose one member has the code for its name and
null for its value. -/
def ofDocument (d : Document) : Reading ErrorKind :=
  let ofCode (code : String) : Reading ErrorKind :=
    match ofCode? code with
    | some kind => .ok kind
    | none => .error .shape
  match d with
  | .string (some code) | .object [(some code, .null)] true => ofCode code
  | d => .error d.mismatch

end ErrorKind

end ChequeTeller
