import ChequeTeller.Text.Decimal
import ChequeTeller.Time.Civil

/-!
Instants in whole seconds since 1970, and their text.
-/

namespace ChequeTeller.Time

structure Instant where
  seconds : UInt64
  deriving DecidableEq, Repr

namespace Instant

/-- The instant `seconds` later, unless that is past the last 64-bit second. -/
def later? (t : Instant) (seconds : UInt64) : Option Instant :=
  if t.seconds.toNat + seconds.toNat < UInt64.size then some ⟨t.seconds + seconds⟩ else none

/-- The last instant that has a date text, +262142-12-31T23:59:59Z. -/
def lastDated : Nat := 8210266876799

/-- A year is written with four digits, or with a plus sign and as many as it needs. -/
def yearText (year : Nat) : String :=
  if year < 10000 then Text.Decimal.padded 4 year else "+" ++ Text.Decimal.numeral year

def civilText (c : Civil) : String :=
  let two := Text.Decimal.padded 2
  yearText c.year ++ "-" ++ two c.month ++ "-" ++ two c.day ++ "T" ++
    two c.hour ++ ":" ++ two c.minute ++ ":" ++ two c.second ++ ".000Z"

/-- The date and time of day in UTC to the millisecond, after RFC 3339. -/
def dateText? (t : Instant) : Option String :=
  if t.seconds.toNat ≤ lastDated then some (civilText (Civil.ofSeconds t.seconds.toNat)) else none

end Instant

end ChequeTeller.Time
