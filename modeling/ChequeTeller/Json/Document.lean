import ChequeTeller.Json.Basic
import ChequeTeller.Text.Double
import ChequeTeller.Text.Hex
import ChequeTeller.Text.Utf16

/-!
JSON text as it was written. A document keeps what a plain value would lose: repeated members,
strings whose escapes spell no text, numbers too large for any use, and the place where a text
breaks the grammar, from which on nothing is known. Whoever reads a document meets its faults in
the order of the text, and may pass over those in parts that it has no use for.
-/

namespace ChequeTeller.Json

inductive Document
  | broken
  | null
  | bool (value : Bool)
  /-- `none` for a number too large for a double. -/
  | number (value : Option Number)
  /-- `none` for a string whose octets or escapes spell no text. -/
  | string (value : Option String)
  | array (items : List Document) (closed : Bool)
  | object (members : List (Option String × Document)) (closed : Bool)
  deriving Inhabited

namespace Document

def isBlank (b : UInt8) : Bool :=
  b = 0x20 || b = 0x09 || b = 0x0A || b = 0x0D

def skipBlanks (bytes : List UInt8) : List UInt8 :=
  bytes.dropWhile isBlank

/-! Strings: first the pieces between the quotes, then their text. -/

/-- An octet as it stands, or a UTF-16 unit given by its number. -/
inductive Piece
  | octet (b : UInt8)
  | unit (n : Nat)

/-- What the octet after a backslash stands for, `u` apart. -/
def simpleEscape? (b : UInt8) : Option UInt8 :=
  if b = 0x22 then some 0x22
  else if b = 0x5C then some 0x5C
  else if b = 0x2F then some 0x2F
  else if b = 0x62 then some 0x08
  else if b = 0x66 then some 0x0C
  else if b = 0x6E then some 0x0A
  else if b = 0x72 then some 0x0D
  else if b = 0x74 then some 0x09
  else none

/-- Where a string is being read: between pieces, after a backslash, or with so many digits of a
unit's number to come. -/
inductive StringState
  | plain
  | escaped
  | digits (missing value : Nat)

/-- The pieces up to the closing quote and what follows it, unless the string is never closed,
holds a control character or an unknown escape. -/
def pieces : StringState → List UInt8 → Option (List Piece × List UInt8)
  | _, [] => none
  | .plain, b :: bs =>
    if b = 0x22 then some ([], bs)
    else if b = 0x5C then pieces .escaped bs
    else if b < 0x20 then none
    else (pieces .plain bs).map fun (ps, rest) => (.octet b :: ps, rest)
  | .escaped, b :: bs =>
    if b = 0x75 then pieces (.digits 4 0) bs
    else
      match simpleEscape? b with
      | none => none
      | some e => (pieces .plain bs).map fun (ps, rest) => (.octet e :: ps, rest)
  | .digits missing value, b :: bs =>
    match Text.Hex.digitValue? b with
    | none => none
    | some d =>
      let value := value * 16 + d.toNat
      match missing with
      | 0 | 1 => (pieces .plain bs).map fun (ps, rest) => (.unit value :: ps, rest)
      | missing + 2 => pieces (.digits (missing + 1) value) bs

/-- The octets of the pieces. A high surrogate must stand right before a low one, and no low one
alone. -/
def pieceBytes : List Piece → Option (List UInt8)
  | [] => some []
  | .octet b :: ps => (pieceBytes ps).map (b :: ·)
  | .unit n :: ps =>
    if Text.Utf16.isHigh n then
      match ps with
      | .unit m :: ps =>
        if Text.Utf16.isLow m then
          (pieceBytes ps).map (String.utf8EncodeChar (Text.Utf16.join n m) ++ ·)
        else none
      | _ => none
    else if Text.Utf16.isLow n then none
    else (pieceBytes ps).map (String.utf8EncodeChar (Char.ofNat n) ++ ·)

def pieceText (ps : List Piece) : Option String :=
  (pieceBytes ps).bind Text.ofUtf8?

/-! Numbers. -/

def isDigit (b : UInt8) : Bool := 0x30 ≤ b && b ≤ 0x39

/-- A numeral by its parts, each a run of digits; the exponent with its sign. -/
structure Numeral where
  negative : Bool
  whole : List UInt8
  fraction : List UInt8
  exponent : Option (Bool × List UInt8)
  /-- All of it as it was written. -/
  text : List UInt8

def digitsValue (digits : List UInt8) : Nat :=
  digits.foldl (fun n b => n * 10 + (b.toNat - 0x30)) 0

/-- The digits at the front, at least one. -/
def digits? (bytes : List UInt8) : Option (List UInt8 × List UInt8) :=
  match bytes.takeWhile isDigit with
  | [] => none
  | ds => some (ds, bytes.dropWhile isDigit)

/-- Digits without a leading zero, or a zero alone. -/
def whole? (bytes : List UInt8) : Option (List UInt8 × List UInt8) :=
  match digits? bytes with
  | some (0x30 :: _ :: _, _) => none
  | other => other

def fraction? (bytes : List UInt8) : Option (List UInt8 × List UInt8) :=
  match bytes with
  | 0x2E :: rest => digits? rest
  | _ => some ([], bytes)

def exponent? (bytes : List UInt8) : Option (Option (Bool × List UInt8) × List UInt8) :=
  match bytes with
  | e :: rest =>
    if e = 0x65 ∨ e = 0x45 then
      match rest with
      | 0x2D :: rest => (digits? rest).map fun (ds, rest) => (some (true, ds), rest)
      | 0x2B :: rest => (digits? rest).map fun (ds, rest) => (some (false, ds), rest)
      | _ => (digits? rest).map fun (ds, rest) => (some (false, ds), rest)
    else some (none, bytes)
  | [] => some (none, [])

def numeral? (bytes : List UInt8) : Option (Numeral × List UInt8) := do
  let negative := bytes.head? == some 0x2D
  let (whole, rest) ← whole? (if negative then bytes.drop 1 else bytes)
  let (fraction, rest) ← fraction? rest
  let (exponent, rest) ← exponent? rest
  return (⟨negative, whole, fraction, exponent, bytes.take (bytes.length - rest.length)⟩, rest)

/-- Appends digits to a number as long as it stays a word of 64 bits; returns those left over. -/
def appendDigits (n : Nat) : List UInt8 → Nat × List UInt8
  | [] => (n, [])
  | b :: bs =>
    let next := n * 10 + (b.toNat - 0x30)
    if next < UInt64.size then appendDigits next bs else (n, b :: bs)

/-- The digits of a numeral that a word holds, and the power of ten that they are to be taken
times. Digits left over before the point count for the power, those after it do not count. -/
def Numeral.scaled (n : Numeral) : Nat × Int :=
  let (whole, wholeLeft) := appendDigits 0 n.whole
  let (digits, fractionLeft) := appendDigits whole n.fraction
  let places := n.fraction.length - fractionLeft.length
  let (negative, exponent) := n.exponent.getD (false, [])
  let power : Int := if negative then -(digitsValue exponent) else digitsValue exponent
  (digits, power + wholeLeft.length - places)

/-- Whether a double can be made of a numeral's digits and power of ten. -/
def Numeral.isInRange (n : Numeral) : Bool :=
  let (digits, power) := n.scaled
  power < 0 || Text.Double.isProductFinite digits power.toNat

def Numeral.number? (n : Numeral) : Option Number :=
  let value : Int := if n.negative then -(digitsValue n.whole) else digitsValue n.whole
  if n.fraction = [] ∧ n.exponent = none ∧ (value ≠ 0 ∨ ¬ n.negative) ∧
      -0x8000000000000000 ≤ value ∧ value < 0x10000000000000000 then
    some (.integer value)
  else if n.isInRange then
    some (.written (String.ofList (n.text.map fun b => Char.ofNat b.toNat)))
  else none

/-! Values. What follows a broken part counts as empty, so everything around it is unclosed. -/

def nullTail : List UInt8 := [0x75, 0x6C, 0x6C]
def trueTail : List UInt8 := [0x72, 0x75, 0x65]
def falseTail : List UInt8 := [0x61, 0x6C, 0x73, 0x65]

/-- A word of which the first letter has been read. -/
def readWord (tail : List UInt8) (d : Document) (bytes : List UInt8) : Document × List UInt8 :=
  if tail.isPrefixOf bytes then (d, bytes.drop tail.length) else (.broken, [])

/-- A value that is neither array nor object, from its first octet `b` on. -/
def readScalar (b : UInt8) (rest : List UInt8) : Document × List UInt8 :=
  if b = 0x22 then
    match pieces .plain rest with
    | some (ps, rest) => (.string (pieceText ps), rest)
    | none => (.broken, [])
  else if b = 0x6E then readWord nullTail .null rest
  else if b = 0x74 then readWord trueTail (.bool true) rest
  else if b = 0x66 then readWord falseTail (.bool false) rest
  else
    match numeral? (b :: rest) with
    | some (n, rest) => (.number n.number?, rest)
    | none => (.broken, [])

mutual

/-- The value at the front. `fuel` bounds the brackets and values to come. -/
def readValue : Nat → List UInt8 → Document × List UInt8
  | 0, _ => (.broken, [])
  | fuel + 1, bytes =>
    match skipBlanks bytes with
    | [] => (.broken, [])
    | b :: rest =>
      if b = 0x5B then
        match skipBlanks rest with
        | 0x5D :: rest => (.array [] true, rest)
        | rest =>
          let (items, closed, rest) := readItems fuel rest
          (.array items closed, rest)
      else if b = 0x7B then
        match skipBlanks rest with
        | 0x7D :: rest => (.object [] true, rest)
        | rest =>
          let (members, closed, rest) := readMembers fuel rest
          (.object members closed, rest)
      else readScalar b rest

/-- The items from the next one on, and whether the array is closed. -/
def readItems : Nat → List UInt8 → List Document × Bool × List UInt8
  | 0, _ => ([], false, [])
  | fuel + 1, bytes =>
    let (item, rest) := readValue fuel bytes
    match skipBlanks rest with
    | 0x2C :: rest =>
      let (items, closed, rest) := readItems fuel rest
      (item :: items, closed, rest)
    | 0x5D :: rest => ([item], true, rest)
    | _ => ([item], false, [])

/-- The members from the next one on, and whether the object is closed. -/
def readMembers : Nat → List UInt8 → List (Option String × Document) × Bool × List UInt8
  | 0, _ => ([], false, [])
  | fuel + 1, bytes =>
    match skipBlanks bytes with
    | 0x22 :: rest =>
      match pieces .plain rest with
      | none => ([], false, [])
      | some (ps, rest) =>
        match skipBlanks rest with
        | 0x3A :: rest =>
          let (value, rest) := readValue fuel rest
          let member := (pieceText ps, value)
          match skipBlanks rest with
          | 0x2C :: rest =>
            let (members, closed, rest) := readMembers fuel rest
            (member :: members, closed, rest)
          | 0x7D :: rest => ([member], true, rest)
          | _ => ([member], false, [])
        | _ => ([(pieceText ps, .broken)], false, [])
    | _ => ([], false, [])

end

/-- The value at the front of a text and what follows it. -/
def readFirst (bytes : List UInt8) : Document × List UInt8 :=
  readValue (2 * bytes.length + 2) bytes

end Document

/-! A value as the document that it is written as. -/

mutual

def toDocument : Json → Document
  | .null => .null
  | .bool b => .bool b
  | .number n => .number (some n)
  | .string s => .string (some s)
  | .array items => .array (itemDocuments items) true
  | .object members => .object (memberDocuments members) true

def itemDocuments : List Json → List Document
  | [] => []
  | item :: rest => toDocument item :: itemDocuments rest

def memberDocuments : List (String × Json) → List (Option String × Document)
  | [] => []
  | (name, value) :: rest => (some name, toDocument value) :: memberDocuments rest

end

end ChequeTeller.Json
