import ChequeTeller.Net.Ipv4
import ChequeTeller.Text.Radix

/-!
Internet addresses of 128 bits: eight pieces of 16 bits in hexadecimal, with colons between. Two
colons stand for a run of at least one zero piece, and the last two pieces may be written as an
address of 32 bits. The shortest text replaces the first of the longest runs of two zeros or more.
-/

namespace ChequeTeller.Net

structure Ipv6 where
  pieces : List UInt16
  length_pieces : pieces.length = 8
  deriving DecidableEq

namespace Ipv6

def piece? (digits : List Char) : Option UInt16 :=
  if 1 ≤ digits.length ∧ digits.length ≤ 4 then
    (Text.Radix.number? 16 digits).map UInt16.ofNat
  else none

def ofIpv4 (a : Ipv4) : List UInt16 :=
  let (w, x, y, z) := a.octets
  [UInt16.ofNat (w.toNat * 256 + x.toNat), UInt16.ofNat (y.toNat * 256 + z.toNat)]

/-- Groups between colons; if `dotted`, the last one may be an address of 32 bits. -/
def groups? (dotted : Bool) : List (List Char) → Option (List UInt16)
  | [] => some []
  | [last] =>
    if dotted && last.contains '.' then (Ipv4.ofChars? last).map ofIpv4
    else (piece? last).map ([·])
  | g :: gs => do
    let piece ← piece? g
    let pieces ← groups? dotted gs
    some (piece :: pieces)

/-- The groups on one side of the two colons, of which there may be none. -/
def side? (dotted : Bool) (s : List Char) : Option (List UInt16) :=
  if s = [] then some [] else groups? dotted (Text.split (· = ':') s)

/-- Cuts the text at the first two colons in a row. -/
def cutGap : List Char → List Char × Option (List Char)
  | [] => ([], none)
  | ':' :: ':' :: rest => ([], some rest)
  | c :: rest =>
    let (before, after) := cutGap rest
    (c :: before, after)

def ofPieces? (pieces : List UInt16) : Option Ipv6 :=
  if h : pieces.length = 8 then some ⟨pieces, h⟩ else none

def ofChars? (s : List Char) : Option Ipv6 := do
  match cutGap s with
  | (all, none) => ofPieces? (← groups? true (Text.split (· = ':') all))
  | (before, some after) =>
    let front ← side? false before
    let back ← side? true after
    if front.length + back.length ≤ 7 then
      ofPieces? (front ++ List.replicate (8 - front.length - back.length) 0 ++ back)
    else none

def pieceText (piece : UInt16) : String :=
  String.ofList (Nat.toDigits 16 piece.toNat)

def piecesText (pieces : List UInt16) : String :=
  ":".intercalate (pieces.map pieceText)

def leadingZeros (pieces : List UInt16) : Nat :=
  (pieces.takeWhile (· = 0)).length

/-- Where the first of the longest runs of zeros starts, and its length. -/
def longestRun : List UInt16 → Nat × Nat
  | [] => (0, 0)
  | piece :: pieces =>
    let here := leadingZeros (piece :: pieces)
    let (start, length) := longestRun pieces
    if length ≤ here then (0, here) else (start + 1, length)

def text (a : Ipv6) : String :=
  let (start, length) := longestRun a.pieces
  if length < 2 then piecesText a.pieces
  else piecesText (a.pieces.take start) ++ "::" ++ piecesText (a.pieces.drop (start + length))

/-- The address of 32 bits that is mapped to this one, if it is one of those. -/
def mapped? (a : Ipv6) : Option Ipv4 :=
  match a.pieces with
  | [0, 0, 0, 0, 0, 0xFFFF, high, low] => some (.ofNat (high.toNat * 0x10000 + low.toNat))
  | _ => none

end Ipv6

end ChequeTeller.Net
