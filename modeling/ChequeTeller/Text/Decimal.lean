/-!
Decimal numerals for 64-bit words. A numeral is an optional single plus sign and one or more
ASCII digits, any number of leading zeros among them; a value of 2^64 or more is refused.
-/

namespace ChequeTeller.Text.Decimal

def digitValue? (c : Char) : Option Nat :=
  if '0' ≤ c ∧ c ≤ '9' then some (c.toNat - '0'.toNat) else none

/-- The value of a run of digits read after `value`, if nothing but digits is there. -/
def digits? (value : Nat) : List Char → Option Nat
  | [] => some value
  | c :: cs => (digitValue? c).bind fun d => digits? (value * 10 + d) cs

/-- The value of an unsigned numeral with an optional plus sign. -/
def natural? (s : List Char) : Option Nat :=
  match s with
  | [] | ['+'] => none
  | '+' :: cs => digits? 0 cs
  | cs => digits? 0 cs

/-- The numeral's value if it is below `bound`. -/
def below? (bound : Nat) (s : String) : Option Nat :=
  (natural? s.toList).filter (· < bound)

def word64? (s : String) : Option UInt64 :=
  (below? UInt64.size s).map UInt64.ofNat

def word16? (s : String) : Option UInt16 :=
  (below? UInt16.size s).map UInt16.ofNat

/-- The shortest numeral of a number. -/
def numeral (n : Nat) : String :=
  String.ofList (Nat.toDigits 10 n)

/-- The numeral padded with zeros to at least `width` digits. -/
def padded (width n : Nat) : String :=
  let digits := Nat.toDigits 10 n
  String.ofList (List.replicate (width - digits.length) '0' ++ digits)

end ChequeTeller.Text.Decimal
