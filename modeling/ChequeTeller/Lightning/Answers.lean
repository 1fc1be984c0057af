import ChequeTeller.Json.Reading

/-!
What a Lightning node answers, as it stands in its JSON. Amounts may come as integers or as
strings that spell them.
-/

namespace ChequeTeller.Lightning

open Json Json.Document

/-- A payment request as the node takes it apart, every field a text. -/
structure DecodedRequest where
  destination : String := ""
  paymentHash : String := ""
  numMsat : String := ""
  timestamp : String := ""
  expiry : String := ""
  deriving DecidableEq, Repr

namespace DecodedRequest

def fields : List Field :=
  ["destination", "payment_hash", "num_msat", "timestamp", "expiry"].map (.of · asString)

def ofDocument (d : Document) : Reading DecodedRequest := do
  let vs ← asFields fields d
  return {
    destination := ← vs.withDefault "destination" asString ""
    paymentHash := ← vs.withDefault "payment_hash" asString ""
    numMsat := ← vs.withDefault "num_msat" asString ""
    timestamp := ← vs.withDefault "timestamp" asString ""
    expiry := ← vs.withDefault "expiry" asString "" }

def toJson (r : DecodedRequest) : Json :=
  .object [
    ("destination", .string r.destination),
    ("payment_hash", .string r.paymentHash),
    ("num_msat", .string r.numMsat),
    ("timestamp", .string r.timestamp),
    ("expiry", .string r.expiry)]

end DecodedRequest

structure Route where
  totalFeesMsat : Option UInt64 := none
  totalAmtMsat : UInt64 := 0
  totalTimeLock : UInt64 := 0
  deriving DecidableEq, Repr

namespace Route

def fields (depth : Nat) : List Field := [
  .of "total_fees_msat" (asOption (asSpelledOrWord depth)),
  .of "total_amt_msat" (asSpelledOrWord depth),
  .of "total_time_lock" (asWordOrSpelled depth)]

/-- `depth` is what the route itself may nest to. -/
def ofDocument (depth : Nat) (d : Document) : Reading Route := do
  let within := depth - 1
  let vs ← asFields (fields within) d
  return {
    totalFeesMsat := ← vs.withDefault "total_fees_msat" (asOption (asSpelledOrWord within)) none
    totalAmtMsat := ← vs.withDefault "total_amt_msat" (asSpelledOrWord within) 0
    totalTimeLock := ← vs.withDefault "total_time_lock" (asWordOrSpelled within) 0 }

def numeral (n : UInt64) : Json :=
  .string (Text.Decimal.numeral n.toNat)

/-- Amounts are written as strings, the time lock as an integer. -/
def toJson (r : Route) : Json :=
  .object [
    ("total_fees_msat", .ofOption numeral r.totalFeesMsat),
    ("total_amt_msat", numeral r.totalAmtMsat),
    ("total_time_lock", .ofWord r.totalTimeLock)]

end Route

structure NodeInfo where
  blockHeight : UInt64
  deriving DecidableEq, Repr

namespace NodeInfo

def fields (depth : Nat) : List Field := [.of "block_height" (asWordOrSpelled depth)]

def ofDocument (depth : Nat) (d : Document) : Reading NodeInfo := do
  let within := depth - 1
  let vs ← asFields (fields within) d
  return { blockHeight := ← vs.required "block_height" (asWordOrSpelled within) }

def toJson (i : NodeInfo) : Json :=
  .object [("block_height", .ofWord i.blockHeight)]

end NodeInfo

end ChequeTeller.Lightning
