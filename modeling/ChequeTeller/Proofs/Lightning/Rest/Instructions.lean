import ChequeTeller.Lightning.Rest.Client
import ChequeTeller.Proofs.Text.Base64
import ChequeTeller.Proofs.Text.Decimal
import Mathlib.Logic.Function.Basic

/-!
What the body of a payment's request says. It is read by the names of its members, octets from
padded Base64 and amounts from decimal numerals, and says all of the payment, so no two payments
have one body. How the body is laid out as text is left apart.
-/

namespace ChequeTeller.Lightning.Rest

open Json

/-- What a node is told to pay, as octets and numbers. -/
structure Instruction where
  dest : List UInt8
  paymentHash : List UInt8
  amountMsat : Nat
  finalCltvDelta : Nat
  feeLimitSat : Nat
  paymentAddr : Option (List UInt8)
  deriving DecidableEq

namespace Instruction

def octets? : Json → Option (List UInt8)
  | .string text => Text.Base64.decode text
  | _ => none

def spelled? : Json → Option Nat
  | .string text => Text.Decimal.natural? text.toList
  | _ => none

def integer? : Json → Option Nat
  | .number (.integer (.ofNat n)) => some n
  | _ => none

/-- Only the payment address may be left out. -/
def read? (body : Json) : Option Instruction := do
  let dest ← (body.get? "dest").bind octets?
  let paymentHash ← (body.get? "payment_hash").bind octets?
  let amountMsat ← (body.get? "amt_msat").bind spelled?
  let finalCltvDelta ← (body.get? "final_cltv_delta").bind integer?
  let feeLimitSat ← ((body.get? "fee_limit").bind (·.get? "fixed")).bind spelled?
  let paymentAddr ← (body.get? "payment_addr").mapM octets?
  return { dest, paymentHash, amountMsat, finalCltvDelta, feeLimitSat, paymentAddr }

def ofPayment (p : Payment) : Instruction where
  dest := p.destination.bytes
  paymentHash := p.paymentHash.bytes
  amountMsat := p.amountMsat.toNat
  finalCltvDelta := p.finalCltvDelta.toNat
  feeLimitSat := p.feeLimitSat.toNat
  paymentAddr := p.paymentAddr.map (·.bytes)

theorem octets?_base64 {role : Role} (o : Octets role) :
    octets? (Client.base64 o) = some o.bytes :=
  Text.Base64.decode_encode o.bytes

theorem spelled?_wordText (n : UInt64) : spelled? (Client.wordText n) = some n.toNat :=
  Text.Decimal.natural?_numeral n.toNat

theorem read?_paymentBody (p : Payment) : read? (Client.paymentBody p) = some (ofPayment p) := by
  obtain ⟨_, _, _, _, _, paymentAddr⟩ := p
  cases paymentAddr <;>
    simp [read?, ofPayment, Client.paymentBody, Json.get?, List.lookup_cons, octets?_base64,
      spelled?_wordText, integer?, Json.ofNat]

theorem ofPayment_injective : Function.Injective ofPayment := by
  intro p q same
  have bytes_injective : Function.Injective (Octets.bytes : PaymentAddr → List UInt8) :=
    fun _ _ => Octets.ext
  simp only [ofPayment, mk.injEq] at same
  obtain ⟨dest, paymentHash, amountMsat, finalCltvDelta, feeLimitSat, paymentAddr⟩ := same
  cases p
  cases q
  congr 1
  · exact Octets.ext dest
  · exact Octets.ext paymentHash
  · exact UInt64.toNat_inj.mp amountMsat
  · exact UInt64.toNat_inj.mp feeLimitSat
  · exact UInt32.toNat_inj.mp finalCltvDelta
  · exact Option.map_injective bytes_injective paymentAddr

theorem paymentBody_injective : Function.Injective Client.paymentBody := by
  intro p q same
  refine ofPayment_injective (Option.some.inj ?_)
  calc some (ofPayment p)
      = read? (Client.paymentBody p) := (read?_paymentBody p).symm
    _ = read? (Client.paymentBody q) := congrArg read? same
    _ = some (ofPayment q) := read?_paymentBody q

end Instruction

end ChequeTeller.Lightning.Rest
