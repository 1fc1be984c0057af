/-!
Writing CBOR items in their shortest form.
-/

namespace ChequeTeller.Cbor

/-- The last `count` octets of a number, the most significant first. -/
def octets : Nat → Nat → List UInt8
  | 0, _ => []
  | count + 1, n => UInt8.ofNat (n / Nat.pow 256 count) :: octets count n

/-- A first octet of the major type `major` and its argument, in as few octets as hold it. -/
def header (major : Nat) (argument : UInt64) : List UInt8 :=
  let n := argument.toNat
  let lead (info : Nat) : UInt8 := UInt8.ofNat (major * 32 + info)
  if n ≤ 0x17 then [lead n]
  else if n < UInt8.size then lead 0x18 :: octets 1 n
  else if n < UInt16.size then lead 0x19 :: octets 2 n
  else if n < UInt32.size then lead 0x1A :: octets 4 n
  else lead 0x1B :: octets 8 n

def writeWord (n : UInt64) : List UInt8 :=
  header 0 n

def writeBytes (bytes : List UInt8) : List UInt8 :=
  header 2 (UInt64.ofNat bytes.length) ++ bytes

def writeArrayHeader (count : UInt64) : List UInt8 :=
  header 4 count

end ChequeTeller.Cbor
