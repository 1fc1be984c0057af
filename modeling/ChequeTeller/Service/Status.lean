import ChequeTeller.ErrorKind

/-!
The HTTP status of each kind of error. Failures that the node caused are 502, also when a payment
may have been made; every other refusal is the client's to mend.
-/

namespace ChequeTeller

def ErrorKind.status : ErrorKind → Nat
  | invalidRequest | malformedCheque | malformedChequeBody | invalidKeyMaterial
  | amountExceedsCheque | malformedInvoice | noRouteAvailable | feeOverflow => 400
  | unauthorized => 401
  | chequeReplayed => 409
  | chequeExpired => 410
  | invoiceDecodeFailed | backendUnavailable | paymentFailed | internalEffectFailure => 502

end ChequeTeller
