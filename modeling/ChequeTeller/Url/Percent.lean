import ChequeTeller.Text.Hex

/-!
Percent-encoding: a character that a part of a URL must not hold is written as its UTF-8 octets,
each as a percent sign and two upper-case hexadecimal digits.
-/

namespace ChequeTeller.Url

/-! The characters that the parts of a URL do not hold. -/

def isControl (c : Char) : Bool :=
  c.toNat < 0x20 || 0x7F ≤ c.toNat

def inFragmentSet (c : Char) : Bool :=
  isControl c || [' ', '\x22', '<', '>', '\x60'].contains c

def inQuerySet (special : Bool) (c : Char) : Bool :=
  isControl c || [' ', '\x22', '#', '<', '>'].contains c || (special && c = '\x27')

def inPathSet (c : Char) : Bool :=
  inFragmentSet c || ['#', '?', '\x7b', '\x7d'].contains c

/-- For a single segment given from outside, which separates nothing. -/
def inSegmentSet (special : Bool) (c : Char) : Bool :=
  inPathSet c || ['/', '%'].contains c || (special && c = '\\')

def inUserinfoSet (c : Char) : Bool :=
  inPathSet c || ['/', ':', ';', '=', '@', '[', '\\', ']', '^', '|'].contains c

namespace Percent

def upperDigit (n : Nat) : Char :=
  if n < 10 then Char.ofNat (0x30 + n) else Char.ofNat (0x37 + n)

def encodeByte (b : UInt8) : List Char :=
  ['%', upperDigit (b.toNat / 16), upperDigit (b.toNat % 16)]

def encodeChar (encoded : Char → Bool) (c : Char) : List Char :=
  if encoded c then (String.utf8EncodeChar c).flatMap encodeByte else [c]

def encode (encoded : Char → Bool) (s : List Char) : String :=
  String.ofList (s.flatMap (encodeChar encoded))

/-- The octets that a text stands for. A percent sign without two digits after it stands for
itself. -/
def decode : List UInt8 → List UInt8
  | [] => []
  | [b] => [b]
  | [b, c] => [b, c]
  | b :: c :: d :: rest =>
    if b = 0x25 then
      match Text.Hex.digitValue? c, Text.Hex.digitValue? d with
      | some high, some low => (high * 16 + low) :: decode rest
      | _, _ => b :: decode (c :: d :: rest)
    else b :: decode (c :: d :: rest)

def decodeText (s : String) : List UInt8 :=
  decode (Text.utf8 s)

end Percent

end ChequeTeller.Url
