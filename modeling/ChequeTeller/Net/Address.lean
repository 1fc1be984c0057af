import ChequeTeller.Net.Ipv6

/-!
Internet addresses of either kind. A mapped address is shown with its 32 bits in decimal.
-/

namespace ChequeTeller.Net

inductive Address
  | v4 (address : Ipv4)
  | v6 (address : Ipv6)
  deriving DecidableEq

namespace Address

def ofText? (text : String) : Option Address :=
  match Ipv4.ofChars? text.toList with
  | some a => some (.v4 a)
  | none => (Ipv6.ofChars? text.toList).map .v6

def text : Address → String
  | v4 a => a.text
  | v6 a =>
    match a.mapped? with
    | some b => "::ffff:" ++ b.text
    | none => a.text

end Address

end ChequeTeller.Net
