import ChequeTeller.Text.Utf8

/-!
UTF-16. A character is one unit of 16 bits, or a high surrogate and a low one together. Surrogates
without their other half are no characters. Where the order of the octets is not known, a mark at
the front of a text tells it, and tells UTF-16 from UTF-8.
-/

namespace ChequeTeller.Text

namespace Utf16

def isHigh (unit : Nat) : Bool := 0xD800 ≤ unit && unit ≤ 0xDBFF

def isLow (unit : Nat) : Bool := 0xDC00 ≤ unit && unit ≤ 0xDFFF

/-- The character of a high surrogate and a low one. -/
def join (high low : Nat) : Char :=
  Char.ofNat (0x10000 + (high - 0xD800) * 0x400 + (low - 0xDC00))

/-- The units that octets spell in pairs, `none` for an octet that is left over. -/
def units (unit : UInt8 → UInt8 → Nat) : List UInt8 → List (Option Nat)
  | [] => []
  | [_] => [none]
  | a :: b :: rest => some (unit a b) :: units unit rest

/-- The characters of the units. U+FFFD stands for each surrogate without its other half, and for
all that is cut off at the end. -/
def chars : List (Option Nat) → List Char
  | [] => []
  | none :: _ => ['\uFFFD']
  | [some n] => if isHigh n || isLow n then ['\uFFFD'] else [Char.ofNat n]
  | some n :: none :: _ =>
    if isHigh n then ['\uFFFD']
    else if isLow n then ['\uFFFD', '\uFFFD']
    else [Char.ofNat n, '\uFFFD']
  | some n :: some m :: rest =>
    if isHigh n ∧ isLow m then join n m :: chars rest
    else (if isHigh n || isLow n then '\uFFFD' else Char.ofNat n) :: chars (some m :: rest)

/-- The unit of two octets, of which the one of more weight comes first. -/
def bigEndian (a b : UInt8) : Nat := a.toNat * 0x100 + b.toNat

def littleEndian (a b : UInt8) : Nat := bigEndian b a

end Utf16

/-- The text that the octets spell: UTF-8, unless a mark at the front says otherwise. U+FFFD
stands for what is no character. -/
def ofMarked : List UInt8 → String
  | 0xEF :: 0xBB :: 0xBF :: rest => ofUtf8Lenient rest
  | 0xFE :: 0xFF :: rest => String.ofList (Utf16.chars (Utf16.units Utf16.bigEndian rest))
  | 0xFF :: 0xFE :: rest => String.ofList (Utf16.chars (Utf16.units Utf16.littleEndian rest))
  | bytes => ofUtf8Lenient bytes

end ChequeTeller.Text
