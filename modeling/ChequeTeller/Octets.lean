import ChequeTeller.Text.Hex

/-!
Octet values of fixed width, one type for each role that they play, and channel tags, which
have any width. All are written in lower-case hexadecimal and read in either case.
-/

namespace ChequeTeller

inductive Role
  | nodeId
  | paymentHash
  | lock
  | paymentAddr
  | verificationKey
  deriving DecidableEq, Repr

namespace Role

/-- Node ids are compressed public keys of 33 octets; all else has 32. -/
def width : Role → Nat
  | nodeId => 33
  | paymentHash | lock | paymentAddr | verificationKey => 32

def title : Role → String
  | nodeId => "NodeId"
  | paymentHash => "PaymentHash"
  | lock => "Lock"
  | paymentAddr => "PaymentAddr"
  | verificationKey => "VerificationKey"

end Role

structure Octets (role : Role) where
  bytes : List UInt8
  length_bytes : bytes.length = role.width
  deriving DecidableEq

abbrev NodeId := Octets .nodeId
abbrev PaymentHash := Octets .paymentHash
abbrev Lock := Octets .lock
abbrev PaymentAddr := Octets .paymentAddr
abbrev VerificationKey := Octets .verificationKey

inductive OctetsError
  | hex (fault : Text.Hex.Fault)
  | length (expected actual : Nat)
  deriving DecidableEq, Repr

def OctetsError.message : OctetsError → String
  | .hex fault => "invalid hex: " ++ fault.message
  | .length expected actual =>
    "expected " ++ Text.Decimal.numeral expected ++ " bytes, got " ++ Text.Decimal.numeral actual

namespace Octets

variable {role : Role}

@[ext]
theorem ext {a b : Octets role} (h : a.bytes = b.bytes) : a = b := by
  cases a
  cases b
  cases h
  rfl

def ofBytes (bytes : List UInt8) : Except OctetsError (Octets role) :=
  if h : bytes.length = role.width then .ok ⟨bytes, h⟩
  else .error (.length role.width bytes.length)

def ofHex (text : String) : Except OctetsError (Octets role) :=
  match Text.Hex.decode text with
  | .ok bytes => ofBytes bytes
  | .error fault => .error (.hex fault)

def toHex (o : Octets role) : String :=
  Text.Hex.encode o.bytes

/-- The value with the title of its role, as in `Lock(ab…)`. -/
def label (o : Octets role) : String :=
  role.title ++ "(" ++ o.toHex ++ ")"

end Octets

/-- The name of a channel under its key; any octets, none included. -/
@[ext]
structure Tag where
  bytes : List UInt8
  deriving DecidableEq

namespace Tag

def ofHex (text : String) : Except OctetsError Tag :=
  match Text.Hex.decode text with
  | .ok bytes => .ok ⟨bytes⟩
  | .error fault => .error (.hex fault)

def toHex (t : Tag) : String :=
  Text.Hex.encode t.bytes

def label (t : Tag) : String :=
  "Tag(" ++ t.toHex ++ ")"

end Tag

end ChequeTeller
