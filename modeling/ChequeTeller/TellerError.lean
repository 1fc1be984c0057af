import ChequeTeller.Cheque.Body
import ChequeTeller.Cheque.Frame
import ChequeTeller.ErrorKind
import ChequeTeller.Lightning.Failure

/-!
Why the teller refuses or fails: the causes, the kind of each and its text.
-/

namespace ChequeTeller

/-- The fields of a pay request that hold octets, the key apart. -/
inductive RequestField
  | tag
  | dest
  | paymentAddr
  deriving DecidableEq, Repr

def RequestField.name : RequestField → String
  | tag => "tag"
  | dest => "dest"
  | paymentAddr => "paymentAddr"

/-- The fields of a decoded payment request that spell integers. -/
inductive IntegerField
  | numMsat
  | timestamp
  | expiry
  deriving DecidableEq, Repr

def IntegerField.name : IntegerField → String
  | numMsat => "num_msat"
  | timestamp => "timestamp"
  | expiry => "expiry"

inductive InvoiceError
  | badDestination (cause : OctetsError)
  | badPaymentHash (cause : OctetsError)
  | notInteger (field : IntegerField) (text : String)
  | expiryOverflow
  | expiryOutOfRange
  deriving DecidableEq, Repr

def InvoiceError.message : InvoiceError → String
  | badDestination cause => "destination: " ++ cause.message
  | badPaymentHash cause => "payment_hash: " ++ cause.message
  | notInteger field text => field.name ++ " is not an integer: " ++ Text.Quoted.text text
  | expiryOverflow => "expiry overflows"
  | expiryOutOfRange => "expiry out of range"

inductive TellerError
  | badField (field : RequestField) (cause : OctetsError)
  | badKey (cause : OctetsError)
  | signatureLength (found : Nat)
  | malformedCheque (cause : Cheque.FrameError)
  | malformedBody (cause : Cheque.BodyError)
  | unauthorized
  | expired (timeout now : UInt64)
  | amountExceeded (requested worth : UInt64)
  | replayed (index highest : UInt64)
  | malformedInvoice (cause : InvoiceError)
  | noRoute (recipient : NodeId)
  | feeOverflow (route adaptor : UInt64)
  /-- A call to the node failed. -/
  | node (action : Lightning.Action) (failure : Lightning.Failure)

namespace TellerError

open Lightning in
/-- A node that does not answer is unavailable. One that refuses makes the decoding or the payment
fail; refusals of other calls, and answers that cannot be read, are the teller's own failure. -/
def nodeKind : Action → Failure → ErrorKind
  | _, .transport .. => .backendUnavailable
  | .decodeRequest, .status .. | .decodeRequest, .rejected .. => .invoiceDecodeFailed
  | .sendPayment, .status .. | .sendPayment, .rejected .. => .paymentFailed
  | _, _ => .internalEffectFailure

def kind : TellerError → ErrorKind
  | badField .. => .invalidRequest
  | badKey .. | signatureLength .. => .invalidKeyMaterial
  | malformedCheque .. => .malformedCheque
  | malformedBody .. => .malformedChequeBody
  | unauthorized => .unauthorized
  | expired .. => .chequeExpired
  | amountExceeded .. => .amountExceedsCheque
  | replayed .. => .chequeReplayed
  | malformedInvoice .. => .malformedInvoice
  | noRoute .. => .noRouteAvailable
  | feeOverflow .. => .feeOverflow
  | node action failure => nodeKind action failure

/-- The text that clients see. Nothing of what the node said goes into it. -/
def message : TellerError → String
  | badField field cause => "invalid request: " ++ field.name ++ ": " ++ cause.message
  | badKey cause => "invalid key material: verification key: " ++ cause.message
  | signatureLength found =>
    "invalid key material: signature must be 64 bytes, got " ++ Text.Decimal.numeral found
  | malformedCheque cause => "malformed cheque: " ++ cause.message
  | malformedBody cause => "malformed cheque body: " ++ cause.message
  | unauthorized => "cheque signature is not valid for the verification key"
  | expired timeout now =>
    "cheque expired at " ++ Text.Decimal.numeral timeout.toNat ++ ", now " ++
      Text.Decimal.numeral now.toNat
  | amountExceeded requested worth =>
    "payment of " ++ Text.Decimal.numeral requested.toNat ++ " msat exceeds cheque amount " ++
      Text.Decimal.numeral worth.toNat
  | replayed index highest =>
    "cheque index " ++ Text.Decimal.numeral index.toNat ++
      " already redeemed, highest redeemed index is " ++ Text.Decimal.numeral highest.toNat
  | malformedInvoice cause => "malformed invoice: " ++ cause.message
  | noRoute recipient => "no route available to " ++ recipient.toHex
  | feeOverflow route adaptor =>
    "routing fee overflows: " ++ Text.Decimal.numeral route.toNat ++ " + " ++
      Text.Decimal.numeral adaptor.toNat
  | node action (.transport ..) =>
    "failed to " ++ action.title ++ ": lightning backend unavailable"
  | node action _ => "failed to " ++ action.title

/-- The call that failed and its failure, if the error comes from the node. -/
def nodeFailure? : TellerError → Option (Lightning.Action × Lightning.Failure)
  | node action failure => some (action, failure)
  | _ => none

/-- What the error comes of, the nearest first: a failure of the node, and the causes of that. -/
def causes (e : TellerError) : List String :=
  match e.nodeFailure? with
  | some (_, failure) => failure.message :: failure.causes
  | none => []

/-- The message with those of the causes, for the operator. -/
def chain (e : TellerError) : String :=
  Lightning.withCauses e.message e.causes

end TellerError

end ChequeTeller
