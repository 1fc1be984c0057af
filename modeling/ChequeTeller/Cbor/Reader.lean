import ChequeTeller.Text.Decimal
import ChequeTeller.Text.Quoted

/-!
Reading CBOR items one at a time. A reader starts at an offset with the octets from there on,
and returns what it read together with the new offset and what is left. Numbers and lengths may
be written with more octets than they need.
-/

namespace ChequeTeller.Cbor

/-- Where a reader stands. -/
structure Cursor where
  position : Nat
  rest : List UInt8
  deriving DecidableEq, Repr

def Cursor.start (bytes : List UInt8) : Cursor :=
  ⟨0, bytes⟩

/-- The kinds of item that a first octet announces. -/
inductive ItemType
  | u8 | u16 | u32 | u64 | i8 | i16 | i32 | i64 | int
  | bytes | bytesIndefinite | string | stringIndefinite
  | array | arrayIndefinite | map | mapIndefinite
  | tag | simple | bool | null | undefined | f16 | f32 | f64 | breakOff
  | unknown (byte : UInt8)
  deriving DecidableEq, Repr

def ItemType.name : ItemType → String
  | u8 => "u8"
  | u16 => "u16"
  | u32 => "u32"
  | u64 => "u64"
  | i8 => "i8"
  | i16 => "i16"
  | i32 => "i32"
  | i64 => "i64"
  | int => "int"
  | bytes => "bytes"
  | bytesIndefinite => "indefinite bytes"
  | string => "string"
  | stringIndefinite => "indefinite string"
  | array => "array"
  | arrayIndefinite => "indefinite array"
  | map => "map"
  | mapIndefinite => "indefinite map"
  | tag => "tag"
  | simple => "simple"
  | bool => "bool"
  | null => "null"
  | undefined => "undefined"
  | f16 => "f16"
  | f32 => "f32"
  | f64 => "f64"
  | breakOff => "break"
  | unknown byte => "0x" ++ Text.Quoted.hexNumber byte.toNat

/-- What was wanted where another type was found. -/
inductive Wanted
  | array
  | word
  | bytes
  deriving DecidableEq, Repr

def Wanted.note : Wanted → String
  | array => "expected array"
  | word => "expected u64"
  | bytes => "expected bytes (definite length)"

inductive Fault
  | endOfInput
  | mismatch (found : ItemType) (position : Nat) (wanted : Wanted)
  deriving DecidableEq, Repr

def Fault.message : Fault → String
  | endOfInput => "end of input bytes"
  | mismatch found position wanted =>
    "unexpected type " ++ found.name ++ " at position " ++ Text.Decimal.numeral position ++ ": " ++
      wanted.note

/-- The type that `byte` announces. A negative integer's width depends on whether the octet at
`ahead`, the second from where the reader stands, has its high bit set; without that octet the
type cannot be told. -/
def itemType? (byte : UInt8) (ahead : Option UInt8) : Except Fault ItemType :=
  let wide (small large : ItemType) : Except Fault ItemType :=
    match ahead with
    | none => .error .endOfInput
    | some q => .ok (if q < 0x80 then small else large)
  let n := byte.toNat
  if n ≤ 0x18 then .ok .u8
  else if n = 0x19 then .ok .u16
  else if n = 0x1A then .ok .u32
  else if n = 0x1B then .ok .u64
  else if 0x20 ≤ n ∧ n ≤ 0x37 then .ok .i8
  else if n = 0x38 then wide .i8 .i16
  else if n = 0x39 then wide .i16 .i32
  else if n = 0x3A then wide .i32 .i64
  else if n = 0x3B then wide .i64 .int
  else if 0x40 ≤ n ∧ n ≤ 0x5B then .ok .bytes
  else if n = 0x5F then .ok .bytesIndefinite
  else if 0x60 ≤ n ∧ n ≤ 0x7B then .ok .string
  else if n = 0x7F then .ok .stringIndefinite
  else if 0x80 ≤ n ∧ n ≤ 0x9B then .ok .array
  else if n = 0x9F then .ok .arrayIndefinite
  else if 0xA0 ≤ n ∧ n ≤ 0xBB then .ok .map
  else if n = 0xBF then .ok .mapIndefinite
  else if 0xC0 ≤ n ∧ n ≤ 0xDB then .ok .tag
  else if 0xE0 ≤ n ∧ n ≤ 0xF3 ∨ n = 0xF8 then .ok .simple
  else if n = 0xF4 ∨ n = 0xF5 then .ok .bool
  else if n = 0xF6 then .ok .null
  else if n = 0xF7 then .ok .undefined
  else if n = 0xF9 then .ok .f16
  else if n = 0xFA then .ok .f32
  else if n = 0xFB then .ok .f64
  else if n = 0xFF then .ok .breakOff
  else .ok (.unknown byte)

/-- The number that octets spell, the most significant first, after `high`. -/
def bigEndian (high : Nat) (bytes : List UInt8) : Nat :=
  bytes.foldl (fun n b => n * 256 + b.toNat) high

/-- Takes exactly `count` octets. -/
def take (count : Nat) (c : Cursor) : Except Fault (List UInt8 × Cursor) :=
  if c.rest.length < count then .error .endOfInput
  else .ok (c.rest.take count, ⟨c.position + count, c.rest.drop count⟩)

/-- How many octets follow that spell the argument, or the argument itself. -/
inductive Argument
  | inline (value : Nat)
  | following (count : Nat)
  | unusable

def argument (info : Nat) : Argument :=
  if info ≤ 0x17 then .inline info
  else if info = 0x18 then .following 1
  else if info = 0x19 then .following 2
  else if info = 0x1A then .following 4
  else if info = 0x1B then .following 8
  else .unusable

/-- The argument announced by the low five bits `info` of the octet before `c`, of an item that
began at `position`. -/
def number (info position : Nat) (c : Cursor) : Except Fault (UInt64 × Cursor) :=
  match argument info with
  | .inline value => .ok (UInt64.ofNat value, c)
  | .following count => do
    let (bytes, c) ← take count c
    return (UInt64.ofNat (bigEndian 0 bytes), c)
  | .unusable => .error (.mismatch (.unknown (UInt8.ofNat info)) position .word)

/-- Takes the first octet of an item. -/
def first (c : Cursor) : Except Fault (UInt8 × Cursor) :=
  match c.rest with
  | [] => .error .endOfInput
  | b :: rest => .ok (b, ⟨c.position + 1, rest⟩)

/-- The refusal of an item whose first octet was `byte` and after which the reader stands at `c`. -/
def refuse {α : Type} (byte : UInt8) (position : Nat) (wanted : Wanted) (c : Cursor) :
    Except Fault α := do
  let found ← itemType? byte c.rest[1]?
  .error (.mismatch found position wanted)

/-- An array's length, `none` if it runs to a break. -/
def array (c : Cursor) : Except Fault (Option UInt64 × Cursor) := do
  let (b, next) ← first c
  if b.toNat / 32 ≠ 4 then refuse b c.position .array next
  else if b.toNat % 32 = 31 then return (none, next)
  else
    let (count, next) ← number (b.toNat % 32) c.position next
    return (some count, next)

/-- An unsigned integer. -/
def word (c : Cursor) : Except Fault (UInt64 × Cursor) := do
  let (b, next) ← first c
  if b.toNat ≤ 0x1B then number b.toNat c.position next
  else refuse b c.position .word next

/-- A byte string whose length is given in front. -/
def bytes (c : Cursor) : Except Fault (List UInt8 × Cursor) := do
  let (b, next) ← first c
  if b.toNat / 32 ≠ 2 ∨ b.toNat % 32 = 31 then refuse b c.position .bytes next
  else
    let (count, next) ← number (b.toNat % 32) c.position next
    take count.toNat next

/-- The type of the item that comes next, which is not consumed. -/
def peek (c : Cursor) : Except Fault ItemType :=
  match c.rest with
  | [] => .error .endOfInput
  | b :: _ => itemType? b c.rest[1]?

end ChequeTeller.Cbor
