import ChequeTeller.Text.Radix
import ChequeTeller.Text.Split

/-!
Tables about characters. A table is lines of text: numbers in hexadecimal with blanks between, in
rows with commas between.
-/

namespace ChequeTeller.Text

def Table.rows (lines : List String) : List (List Nat) :=
  lines.flatMap fun line =>
    (split (· = ',') line.toList).map fun row => (split (· = ' ') row).filterMap (Radix.number? 16)

/-- A set of characters, by the numbers from which on others and members alternate, in ascending
order. -/
structure Stretches where
  boundaries : List Nat

namespace Stretches

def ofLines (lines : List String) : Stretches :=
  ⟨(Table.rows lines).flatten⟩

def contains (s : Stretches) (c : Char) : Bool :=
  s.boundaries.countP (· ≤ c.toNat) % 2 = 1

end Stretches

end ChequeTeller.Text
