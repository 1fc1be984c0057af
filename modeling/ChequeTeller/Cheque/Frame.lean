import ChequeTeller.Octets

/-!
The frame of a cheque. By position it is one opening octet, the body, two header octets, the 64
octets of the signature and one closing octet; only the lengths are looked at. A frame that the
library assembles is the CBOR array, of indefinite length, of the body and the signature.
-/

namespace ChequeTeller.Cheque

/-- An Ed25519 signature, or any 64 octets in its place. -/
structure Signature where
  bytes : List UInt8
  length_bytes : bytes.length = 64
  deriving DecidableEq

structure Frame where
  opening : UInt8
  body : List UInt8
  header : UInt8 × UInt8
  signature : Signature
  closing : UInt8
  deriving DecidableEq

inductive FrameError
  | notHex (fault : Text.Hex.Fault)
  | tooShort (length : Nat)
  deriving DecidableEq, Repr

/-- What a signature is checked with: the octets that it covers, itself, and the body in them. -/
structure Unpacked where
  message : List UInt8
  signature : Signature
  body : List UInt8
  deriving DecidableEq

namespace Frame

/-- The octets of all parts but the body. -/
def overhead : Nat := 68

def ofBytes (bytes : List UInt8) : Except FrameError Frame :=
  if h : bytes.length < overhead then .error (.tooShort bytes.length)
  else
    let middle := bytes.length - overhead
    let tail := bytes.drop (1 + middle)
    have length_tail : tail.length = 67 := by
      simp only [tail, middle, List.length_drop, overhead] at *
      omega
    have length_pos : 0 < bytes.length := by
      simp only [overhead] at h
      omega
    .ok
      { opening := bytes[0]
        body := (bytes.drop 1).take middle
        header := (tail[0], tail[1])
        signature := ⟨(tail.drop 2).take 64, by
          simp only [List.length_take, List.length_drop]; omega⟩
        closing := tail[66] }

def ofHex (text : String) : Except FrameError Frame :=
  match Text.Hex.decode text with
  | .ok bytes => ofBytes bytes
  | .error fault => .error (.notHex fault)

def toBytes (f : Frame) : List UInt8 :=
  f.opening :: (f.body ++ f.header.1 :: f.header.2 :: (f.signature.bytes ++ [f.closing]))

def toHex (f : Frame) : String :=
  Text.Hex.encode f.toBytes

/-- The frame of a body and its signature as a CBOR array. -/
def assemble (body : List UInt8) (signature : Signature) : Frame :=
  ⟨0x9F, body, (0x58, 0x40), signature, 0xFF⟩

/-- The octets that the signature covers: the tag, then the body. -/
def message (f : Frame) (tag : Tag) : List UInt8 :=
  tag.bytes ++ f.body

def unpack (f : Frame) (tag : Tag) : Unpacked :=
  ⟨f.message tag, f.signature, f.body⟩

end Frame

def FrameError.message : FrameError → String
  | .notHex fault => "cheque is not hex: " ++ fault.message
  | .tooShort length =>
    "cheque is " ++ Text.Decimal.numeral length ++ " bytes, at least " ++
      Text.Decimal.numeral Frame.overhead ++ " required"

end ChequeTeller.Cheque
