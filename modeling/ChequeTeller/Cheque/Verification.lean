import ChequeTeller.Cheque.Frame
import ChequeTeller.Crypto.Ed25519

/-!
The signature of a cheque, made with the channel's key over the tag and the body.
-/

namespace ChequeTeller.Cheque

namespace Signature

/-- Fails with the number of octets if it is not 64. -/
def ofBytes (bytes : List UInt8) : Except Nat Signature :=
  if h : bytes.length = 64 then .ok ⟨bytes, h⟩ else .error bytes.length

def verifies (s : Signature) (message : List UInt8) (key : VerificationKey) : Bool :=
  Crypto.Ed25519.verify message s.bytes key.bytes

end Signature

def Frame.verifies (f : Frame) (tag : Tag) (key : VerificationKey) : Bool :=
  let unpacked := f.unpack tag
  unpacked.signature.verifies unpacked.message key

end ChequeTeller.Cheque
