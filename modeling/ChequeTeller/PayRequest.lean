import ChequeTeller.Json.Reading
import ChequeTeller.Ledger
import ChequeTeller.TellerError

/-!
Pay requests as clients send them, and the redemption orders that they spell.
-/

namespace ChequeTeller

open Json Json.Document

structure PayRequest where
  tag : String
  verificationKey : String
  paymentAddr : Option String
  cheque : String
  dest : String
  msat : UInt64
  deriving DecidableEq, Repr

/-- A cheque, the channel that it draws on, and where its money is to go. -/
structure Order where
  channel : Channel
  destination : NodeId
  amountMsat : UInt64
  paymentAddr : Option PaymentAddr
  frame : Cheque.Frame
  deriving DecidableEq

namespace PayRequest

def fields (depth : Nat) : List Field := [
  .of "tag" asString,
  .of "verificationKey" asString,
  .of "paymentAddr" (asOption asString),
  .of "cheque" asString,
  .of "dest" asString,
  .of "msat" (asWordOrSpelled depth)]

def ofDocument (depth : Nat) (d : Document) : Reading PayRequest := do
  let within := depth - 1
  let vs ← asFields (fields within) d
  return {
    tag := ← vs.required "tag" asString
    verificationKey := ← vs.required "verificationKey" asString
    paymentAddr := ← vs.withDefault "paymentAddr" (asOption asString) none
    cheque := ← vs.required "cheque" asString
    dest := ← vs.required "dest" asString
    msat := ← vs.required "msat" (asWordOrSpelled within) }

/-- Without a payment address its member is left out. -/
def toJson (r : PayRequest) : Json :=
  .object (
    [("tag", .string r.tag), ("verificationKey", .string r.verificationKey)] ++
    (match r.paymentAddr with
      | some addr => [("paymentAddr", .string addr)]
      | none => []) ++
    [("cheque", .string r.cheque), ("dest", .string r.dest), ("msat", .ofWord r.msat)])

def readField {role : Role} (field : RequestField) (text : String) :
    Except TellerError (Octets role) :=
  (Octets.ofHex text).mapError (.badField field)

/-- The order that the request spells; its parts are read in this order. -/
def parse (r : PayRequest) : Except TellerError Order := do
  let key ← (Octets.ofHex r.verificationKey).mapError .badKey
  let tag ← (Tag.ofHex r.tag).mapError (.badField .tag)
  let destination ← readField .dest r.dest
  let paymentAddr ← r.paymentAddr.mapM (readField .paymentAddr)
  let frame ← (Cheque.Frame.ofHex r.cheque).mapError .malformedCheque
  return { channel := ⟨key, tag⟩, destination, amountMsat := r.msat, paymentAddr, frame }

end PayRequest

end ChequeTeller
