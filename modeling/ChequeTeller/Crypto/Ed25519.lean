import ChequeTeller.Crypto.Edwards
import ChequeTeller.Crypto.Sha512

/-!
Strict verification of Ed25519 signatures: the scalar is reduced, neither the key nor the
signature's point has small order, and the equation holds without the cofactor, the point being
compared by its canonical octets.
-/

namespace ChequeTeller.Crypto.Ed25519

open Edwards

/-- Whether `signature` (64 octets) is valid for the message and the key (32 octets). A key that
is no point has no valid signature. -/
def verify (message signature key : List UInt8) : Bool :=
  let rBytes := signature.take 32
  let s := littleEndian (signature.drop 32)
  match decompress? key, decompress? rBytes with
  | some a, some r =>
    if order ≤ s || hasSmallOrder r || hasSmallOrder a then false
    else
      let k := littleEndian (Sha512.digest (rBytes ++ key ++ message)) % order
      compress (add (smul s basePoint) (smul k (neg a))) = rBytes
  | _, _ => false

end ChequeTeller.Crypto.Ed25519
