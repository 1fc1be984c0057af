/-!
Doubles as natural numbers: the nearest one to a number, and which decimal numbers they reach.
-/

namespace ChequeTeller.Text.Double

/-- Numbers from here on round to no finite double. -/
def bound : Nat := Nat.pow 2 1024 - Nat.pow 2 970

/-- The nearest number of 53 bits and any power of two, of two such the one with the even bits. -/
def nearest (n : Nat) : Nat :=
  let step := Nat.pow 2 (n.log2 + 1 - 53)
  let whole := n / step
  let rest := n % step
  let up := step < 2 * rest || (2 * rest = step && whole % 2 = 1)
  (if up then whole + 1 else whole) * step

theorem nearest_of_lt {n : Nat} (h : n < Nat.pow 2 53) : nearest n = n := by
  have hstep : n.log2 + 1 - 53 = 0 := by
    by_cases hn : n = 0
    · simp [hn]
    · have := (Nat.log2_lt hn).mpr h
      omega
  simp [nearest, hstep, Nat.mod_one]

/-- Whether `digits` times ten to the power of the exponent less `places` rounds to a finite
double. The exponent is given by its sign and its magnitude. -/
def isFinite (digits places : Nat) (negative : Bool) (exponent : Nat) : Bool :=
  if digits = 0 then true
  else if negative then
    digits < bound * Nat.pow 10 (min (Nat.toDigits 10 digits).length exponent + places)
  else exponent ≤ 310 + places && digits * Nat.pow 10 exponent < bound * Nat.pow 10 places

/-- Whether a double times a power of ten, as doubles are multiplied, is finite. Of powers of ten
none is larger than `10 ^ 308`. -/
def isProductFinite (n exponent : Nat) : Bool :=
  n = 0 || (exponent ≤ 308 && nearest n * nearest (Nat.pow 10 exponent) < bound)

end ChequeTeller.Text.Double
