/-!
Numbers in a base of at most sixteen, with digits of either case.
-/

namespace ChequeTeller.Text.Radix

def digit? (base : Nat) (c : Char) : Option Nat :=
  let n := c.toNat
  let value? :=
    if 0x30 ≤ n ∧ n ≤ 0x39 then some (n - 0x30)
    else if 0x61 ≤ n ∧ n ≤ 0x66 then some (n - 0x57)
    else if 0x41 ≤ n ∧ n ≤ 0x46 then some (n - 0x37)
    else none
  value?.filter (· < base)

/-- The number that digits spell; no digits spell zero. -/
def number? (base : Nat) (s : List Char) : Option Nat :=
  (s.mapM (digit? base)).map fun values => values.foldl (fun n d => n * base + d) 0

end ChequeTeller.Text.Radix
