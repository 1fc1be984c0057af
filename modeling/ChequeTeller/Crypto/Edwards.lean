/-!
The twisted Edwards curve -x² + y² = 1 + d·x²·y² over the integers modulo 2^255 - 19, in
extended coordinates: `x = X / Z`, `y = Y / Z`, `x·y = T / Z`.
-/

namespace ChequeTeller.Crypto.Edwards

/-- The modulus of coordinates. -/
def modulus : Nat := Nat.pow 2 255 - 19

/-- The order of the base point. -/
def order : Nat := Nat.pow 2 252 + 27742317777372353535851937790883648493

def sub (a b : Nat) : Nat := (a + (modulus - b % modulus)) % modulus

def mul (a b : Nat) : Nat := a * b % modulus

/-- Powers by repeated squaring; `fuel` bounds the bits of the exponent. -/
def powFuel : Nat → Nat → Nat → Nat
  | 0, _, _ => 1
  | fuel + 1, base, e =>
    if e = 0 then 1
    else
      let rest := powFuel fuel (mul base base) (e / 2)
      if e % 2 = 1 then mul base rest else rest

def pow (base e : Nat) : Nat :=
  powFuel 256 (base % modulus) e

def inv (a : Nat) : Nat := pow a (modulus - 2)

/-- The curve's coefficient, -121665/121666. -/
def d : Nat := 37095705934669439343138083508754565189542113879843219016388785533085940283555

/-- A square root of -1. -/
def sqrtMinusOne : Nat :=
  19681161376707505956807079304988542015446066515923890162744021073123829784752

structure Point where
  x : Nat
  y : Nat
  z : Nat
  t : Nat

def identity : Point := ⟨0, 1, 1, 0⟩

def ofAffine (x y : Nat) : Point := ⟨x, y, 1, mul x y⟩

def basePoint : Point :=
  ofAffine 15112221349535400772501151409588531511454012693041857206046113283949847762202
    46316835694926478169428394003475163141307993866256225615783033603165251855960

def add (p q : Point) : Point :=
  let a := mul (sub p.y p.x) (sub q.y q.x)
  let b := mul (p.y + p.x) (q.y + q.x)
  let c := mul (mul (2 * p.t) q.t) d
  let dd := mul (2 * p.z) q.z
  let e := sub b a
  let f := sub dd c
  let g := dd + c
  let h := b + a
  ⟨mul e f, mul g h, mul f g, mul e h⟩

def double (p : Point) : Point :=
  let a := mul p.x p.x
  let b := mul p.y p.y
  let c := mul 2 (mul p.z p.z)
  let h := a + b
  let e := sub h (mul (p.x + p.y) (p.x + p.y))
  let g := sub a b
  let f := c + g
  ⟨mul e f, mul g h, mul f g, mul e h⟩

def neg (p : Point) : Point :=
  ⟨sub 0 p.x, p.y, p.z, sub 0 p.t⟩

/-- The multiple of a point; `fuel` bounds the bits of the scalar. -/
def smulFuel : Nat → Nat → Point → Point
  | 0, _, _ => identity
  | fuel + 1, n, p =>
    if n = 0 then identity
    else
      let rest := double (smulFuel fuel (n / 2) p)
      if n % 2 = 1 then add rest p else rest

def smul (n : Nat) (p : Point) : Point :=
  smulFuel 256 n p

def isIdentity (p : Point) : Bool :=
  p.x % modulus = 0 && p.y % modulus = p.z % modulus

/-- Points whose eightfold vanishes. -/
def hasSmallOrder (p : Point) : Bool :=
  isIdentity (double (double (double p)))

def littleEndian (bytes : List UInt8) : Nat :=
  bytes.foldr (fun b n => b.toNat + 256 * n) 0

def octets : Nat → Nat → List UInt8
  | 0, _ => []
  | count + 1, n => UInt8.ofNat n :: octets count (n / 256)

/-- The canonical 32 octets of a point: `y`, with the parity of `x` in the top bit. -/
def compress (p : Point) : List UInt8 :=
  let zInv := inv p.z
  let x := mul p.x zInv
  let y := mul p.y zInv
  octets 32 (y + x % 2 * Nat.pow 2 255)

/-- A square root of the quotient of `u` and `v`, if it has one. -/
def sqrtRatio? (u v : Nat) : Option Nat :=
  let v3 := mul (mul v v) v
  let v7 := mul (mul v3 v3) v
  let r := mul (mul u v3) (pow (mul u v7) ((modulus - 5) / 8))
  let check := mul v (mul r r)
  if check = u % modulus then some r
  else if check = sub 0 u then some (mul r sqrtMinusOne)
  else none

/-- The point that 32 octets stand for. The number that they spell for `y` is reduced, and a
zero `x` is accepted with either parity. -/
def decompress? (bytes : List UInt8) : Option Point :=
  let n := littleEndian bytes
  let parity := n / Nat.pow 2 255 % 2
  let y := n % Nat.pow 2 255 % modulus
  let yy := mul y y
  (sqrtRatio? (sub yy 1) (mul d yy + 1)).map fun r =>
    ofAffine (if r % 2 = parity then r else sub 0 r) y

end ChequeTeller.Crypto.Edwards
