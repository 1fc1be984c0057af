import ChequeTeller.Text.Split
import ChequeTeller.Text.Utf8
import ChequeTeller.Url.Domain.Alphabet
import ChequeTeller.Url.Domain.Direction
import ChequeTeller.Url.Domain.Joining
import ChequeTeller.Url.Domain.Punycode

/-!
Domain names of special URLs, in the form in which they are looked up: small letters of ASCII,
with `xn--` at the front of a label that spells other characters.
-/

namespace ChequeTeller.Url.Domain

/-- The ASCII characters that no domain holds. -/
def isForbidden (c : Char) : Bool :=
  c.toNat ≤ 0x20 || c.toNat = 0x7F ||
    ['#', '%', '/', ':', '<', '>', '?', '@', '[', '\\', ']', '^', '|'].contains c

/-- The composed text in characters of the domain alphabet. -/
def spelled? (s : List Char) : Option (List Char) :=
  (s.mapM Alphabet.spelling?).map fun pieces => Text.Composition.compose pieces.flatten

/-- The most characters that a label with any outside of ASCII has. -/
def maxLength : Nat := 1000

/-- The most characters that such a label is spelled with. -/
def maxSpelling : Nat := 2000

/-- What a label reads as. One that spells other characters must need its spelling, and hold just
what it reads as. -/
def label? : List Char → Option (List Char)
  | 'x' :: 'n' :: '-' :: '-' :: spelling => do
    if maxSpelling < spelling.length then none
    let label ← Punycode.decode? spelling
    if label.all Punycode.isAscii ∨ spelled? label ≠ some label then none else some label
  | label => some label

def isFit (label : List Char) : Bool :=
  !startsWithMark label && joinersFit [] label &&
    (label.all Punycode.isAscii || label.length ≤ maxLength)

def labelText (label : List Char) : List Char :=
  if label.all Punycode.isAscii then label
  else ['x', 'n', '-', '-'] ++ Punycode.encode label

/-- The name as it is looked up, from the octets that spell it. -/
def toAscii (bytes : List UInt8) : Option (List Char) := do
  let name ← spelled? (← Text.ofUtf8? bytes).toList
  let labels ← (Text.split (· = '.') name).mapM label?
  let oneWay := !labels.any runsBothWays || labels.all runsOneWay
  let text := ['.'].intercalate (labels.map labelText)
  if labels.all isFit && oneWay && text.all (!isForbidden ·) then some text else none

end ChequeTeller.Url.Domain
