import ChequeTeller.Cbor.Reader
import ChequeTeller.Cbor.Writer
import ChequeTeller.Octets

/-!
The body of a cheque: the CBOR array of its index in the channel, the amount it is worth, the
time it may no longer be redeemed at, and the hash lock. The array may be of definite length four
or run to a break, and nothing may follow it. `encode` writes the shortest form.
-/

namespace ChequeTeller.Cheque

structure Body where
  index : UInt64
  amount : UInt64
  /-- Milliseconds since 1970. -/
  timeout : UInt64
  lock : Lock
  deriving DecidableEq

/-- The places in a body where reading can fail; `close` is the break. -/
inductive Part
  | array
  | index
  | amount
  | timeout
  | lock
  | close
  deriving DecidableEq, Repr

def Part.name : Part → String
  | array => "array"
  | index => "index"
  | amount => "amount"
  | timeout => "timeout"
  | lock => "lock"
  | close => "end"

inductive BodyError
  | unreadable (part : Part) (fault : Cbor.Fault)
  | fieldCount (found : UInt64)
  | unclosed
  | badLock (cause : OctetsError)
  | trailing (count : Nat)
  deriving DecidableEq, Repr

def BodyError.message : BodyError → String
  | unreadable part fault => part.name ++ ": " ++ fault.message
  | fieldCount found => "expected 4 fields, found " ++ Text.Decimal.numeral found.toNat
  | unclosed => "expected 4 fields, found more"
  | badLock cause => "lock: " ++ cause.message
  | trailing count => Text.Decimal.numeral count ++ " trailing bytes"

namespace Body

/-- Reads one part, naming it in a refusal. -/
def part {α : Type} (p : Part) (r : Except Cbor.Fault α) : Except BodyError α :=
  r.mapError (.unreadable p)

/-- Reads the octets of the lock. -/
def decodeLock (c : Cbor.Cursor) : Except BodyError (Lock × Cbor.Cursor) := do
  let (bytes, c) ← part .lock (Cbor.bytes c)
  let lock ← (Octets.ofBytes bytes).mapError .badLock
  return (lock, c)

def decodeFields (c : Cbor.Cursor) : Except BodyError (Body × Cbor.Cursor) := do
  let (index, c) ← part .index (Cbor.word c)
  let (amount, c) ← part .amount (Cbor.word c)
  let (timeout, c) ← part .timeout (Cbor.word c)
  let (lock, c) ← decodeLock c
  return (⟨index, amount, timeout, lock⟩, c)

/-- Passes the break of an array that runs to one. -/
def decodeClose (c : Cbor.Cursor) : Except BodyError Cbor.Cursor := do
  let found ← part .close (Cbor.peek c)
  if found = .breakOff then return ⟨c.position + 1, c.rest.drop 1⟩
  else .error .unclosed

def decodeFrom (c : Cbor.Cursor) : Except BodyError (Body × Cbor.Cursor) := do
  let (count, c) ← part .array (Cbor.array c)
  match count with
  | some n => if n ≠ 4 then .error (.fieldCount n) else decodeFields c
  | none =>
    let (body, c) ← decodeFields c
    return (body, ← decodeClose c)

def decode (bytes : List UInt8) : Except BodyError Body := do
  let (body, c) ← decodeFrom (Cbor.Cursor.start bytes)
  if c.rest = [] then return body else .error (.trailing c.rest.length)

def encode (b : Body) : List UInt8 :=
  Cbor.writeArrayHeader 4 ++ Cbor.writeWord b.index ++ Cbor.writeWord b.amount ++
    Cbor.writeWord b.timeout ++ Cbor.writeBytes b.lock.bytes

end Body

end ChequeTeller.Cheque
