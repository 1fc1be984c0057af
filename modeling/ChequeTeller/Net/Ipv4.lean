import ChequeTeller.Text.Decimal
import ChequeTeller.Text.Split

/-!
Internet addresses of 32 bits, as four decimal numbers with dots between, none with a leading zero.
-/

namespace ChequeTeller.Net

structure Ipv4 where
  octets : UInt8 × UInt8 × UInt8 × UInt8
  deriving DecidableEq, Repr

namespace Ipv4

/-- The address of a number, the first octet being its highest. -/
def ofNat (n : Nat) : Ipv4 :=
  ⟨.ofNat (n / 0x1000000), .ofNat (n / 0x10000), .ofNat (n / 0x100), .ofNat n⟩

def octet? (digits : List Char) : Option UInt8 :=
  match digits with
  | [] | '0' :: _ :: _ => none
  | _ => ((Text.Decimal.digits? 0 digits).filter (· < 256)).map UInt8.ofNat

def ofChars? (s : List Char) : Option Ipv4 := do
  match ← (Text.split (· = '.') s).mapM octet? with
  | [a, b, c, d] => some ⟨a, b, c, d⟩
  | _ => none

def text (a : Ipv4) : String :=
  let (w, x, y, z) := a.octets
  ".".intercalate ([w, x, y, z].map fun o => Text.Decimal.numeral o.toNat)

end Ipv4

end ChequeTeller.Net
