import ChequeTeller.Lightning.Answers
import ChequeTeller.TellerError
import ChequeTeller.Time.Instant

/-!
Invoices: payment requests as the node takes them apart, with every field validated.
-/

namespace ChequeTeller

structure Invoice where
  destination : NodeId
  paymentHash : PaymentHash
  amountMsat : UInt64
  timestamp : Time.Instant
  expirySecs : UInt64
  deriving DecidableEq

namespace Invoice

def readInteger (field : IntegerField) (text : String) : Except InvoiceError UInt64 :=
  match Text.Decimal.word64? text with
  | some n => .ok n
  | none => .error (.notInteger field text)

/-- The first field that is not well formed, in this order, is named. -/
def ofDecoded (d : Lightning.DecodedRequest) : Except InvoiceError Invoice := do
  let destination ← (Octets.ofHex d.destination).mapError .badDestination
  let paymentHash ← (Octets.ofHex d.paymentHash).mapError .badPaymentHash
  let amountMsat ← readInteger .numMsat d.numMsat
  let timestamp ← readInteger .timestamp d.timestamp
  let expirySecs ← readInteger .expiry d.expiry
  return { destination, paymentHash, amountMsat, timestamp := ⟨timestamp⟩, expirySecs }

def expiresAt (i : Invoice) : Except InvoiceError Time.Instant :=
  match i.timestamp.later? i.expirySecs with
  | some t => .ok t
  | none => .error .expiryOverflow

/-- The date text of the expiry. -/
def expiryText (i : Invoice) : Except InvoiceError String := do
  match (← i.expiresAt).dateText? with
  | some text => return text
  | none => .error .expiryOutOfRange

end Invoice

end ChequeTeller
