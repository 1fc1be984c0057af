import ChequeTeller.Json.Reading

/-!
The terms on which the teller quotes and redeems.
-/

namespace ChequeTeller

structure Terms where
  adaptorFeeMsat : UInt64 := 42
  payFeeLimitSat : UInt64 := 42
  finalCltvDelta : UInt32 := 100
  chequeTimeoutMarginMs : UInt64 := 0
  blockTimeSecs : UInt64 := 600
  enforceChequeAmount : Bool := true
  deriving DecidableEq, Repr

namespace Terms

open Json Json.Document

def fields : List Field := [
  .of "adaptor_fee_msat" asWord64,
  .of "pay_fee_limit_sat" asWord64,
  .of "final_cltv_delta" asWord32,
  .of "cheque_timeout_margin_ms" asWord64,
  .of "block_time_secs" asWord64,
  .of "enforce_cheque_amount" asBool]

/-- Fields that are not given keep their usual values. -/
def ofDocument (d : Document) : Reading Terms := do
  let vs ← asFields fields d
  let usual : Terms := {}
  return {
    adaptorFeeMsat := ← vs.withDefault "adaptor_fee_msat" asWord64 usual.adaptorFeeMsat
    payFeeLimitSat := ← vs.withDefault "pay_fee_limit_sat" asWord64 usual.payFeeLimitSat
    finalCltvDelta := ← vs.withDefault "final_cltv_delta" asWord32 usual.finalCltvDelta
    chequeTimeoutMarginMs :=
      ← vs.withDefault "cheque_timeout_margin_ms" asWord64 usual.chequeTimeoutMarginMs
    blockTimeSecs := ← vs.withDefault "block_time_secs" asWord64 usual.blockTimeSecs
    enforceChequeAmount :=
      ← vs.withDefault "enforce_cheque_amount" asBool usual.enforceChequeAmount }

def toJson (t : Terms) : Json :=
  .object [
    ("adaptor_fee_msat", .ofWord t.adaptorFeeMsat),
    ("pay_fee_limit_sat", .ofWord t.payFeeLimitSat),
    ("final_cltv_delta", .ofNat t.finalCltvDelta.toNat),
    ("cheque_timeout_margin_ms", .ofWord t.chequeTimeoutMarginMs),
    ("block_time_secs", .ofWord t.blockTimeSecs),
    ("enforce_cheque_amount", .bool t.enforceChequeAmount)]

end Terms

end ChequeTeller
