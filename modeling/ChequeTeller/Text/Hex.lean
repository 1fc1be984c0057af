import ChequeTeller.Text.Decimal
import ChequeTeller.Text.Quoted
import ChequeTeller.Text.Utf8

/-!
Hexadecimal text. Writing uses lower case; reading takes either case, and names the
first fault: an odd number of octets, else the leftmost octet that is no digit.
-/

namespace ChequeTeller.Text.Hex

def digit (n : Nat) : Char :=
  if n < 10 then Char.ofNat (0x30 + n) else Char.ofNat (0x57 + n)

def encodeByte (b : UInt8) : List Char :=
  [digit (b.toNat / 16), digit (b.toNat % 16)]

def encode (bytes : List UInt8) : String :=
  String.ofList (bytes.flatMap encodeByte)

/-- The value of a digit, given as the octet that spells it. -/
def digitValue? (b : UInt8) : Option UInt8 :=
  if 0x30 ≤ b ∧ b ≤ 0x39 then some (b - 0x30)
  else if 0x61 ≤ b ∧ b ≤ 0x66 then some (b - 0x57)
  else if 0x41 ≤ b ∧ b ≤ 0x46 then some (b - 0x37)
  else none

inductive Fault
  | oddLength
  | badDigit (byte : UInt8) (position : Nat)
  deriving DecidableEq, Repr

/-- An octet that is no digit is shown as the character of the same number. -/
def Fault.message : Fault → String
  | .oddLength => "Odd number of digits"
  | .badDigit byte position =>
    "Invalid character " ++ Quoted.char (Char.ofNat byte.toNat) ++ " at position " ++
      Decimal.numeral position

/-- Reads pairs of digits; `position` is that of the first octet. -/
def decodePairs : Nat → List UInt8 → Except Fault (List UInt8)
  | _, [] => .ok []
  | _, [_] => .error .oddLength
  | position, a :: b :: rest =>
    match digitValue? a, digitValue? b with
    | none, _ => .error (.badDigit a position)
    | some _, none => .error (.badDigit b (position + 1))
    | some high, some low => do
      let bytes ← decodePairs (position + 2) rest
      return (high * 16 + low) :: bytes

def decodeBytes (digits : List UInt8) : Except Fault (List UInt8) :=
  if digits.length % 2 = 1 then .error .oddLength else decodePairs 0 digits

def decode (text : String) : Except Fault (List UInt8) :=
  decodeBytes (utf8 text)

end ChequeTeller.Text.Hex
