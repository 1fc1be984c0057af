/-!
UTF-8, one octet at a time. `units` splits any octets into characters and the
longest stretches that cannot begin a character; the strict reading refuses a
text with such a stretch, the lenient one shows U+FFFD in its place.
-/

namespace ChequeTeller.Text

/-- The octets of a text. -/
def utf8 (s : String) : List UInt8 :=
  s.toList.flatMap String.utf8EncodeChar

namespace Utf8

/-- A character begun but not finished: the bits so far, the octets still owed, and the
bounds of the next one. -/
structure Pending where
  bits : Nat
  owed : Nat
  low : UInt8
  high : UInt8

/-- What the first octet of a character says: the character itself, the start of a longer
one, or nothing that UTF-8 allows. -/
inductive Lead
  | char (c : Char)
  | begins (p : Pending)
  | bad

def lead (b : UInt8) : Lead :=
  if b < 0x80 then .char (Char.ofNat b.toNat)
  else if b < 0xC2 then .bad
  else if b < 0xE0 then .begins ⟨b.toNat - 0xC0, 1, 0x80, 0xBF⟩
  else if b = 0xE0 then .begins ⟨0, 2, 0xA0, 0xBF⟩
  else if b = 0xED then .begins ⟨0xD, 2, 0x80, 0x9F⟩
  else if b < 0xF0 then .begins ⟨b.toNat - 0xE0, 2, 0x80, 0xBF⟩
  else if b = 0xF0 then .begins ⟨0, 3, 0x90, 0xBF⟩
  else if b < 0xF4 then .begins ⟨b.toNat - 0xF0, 3, 0x80, 0xBF⟩
  else if b = 0xF4 then .begins ⟨4, 3, 0x80, 0x8F⟩
  else .bad

/-- The characters, `none` standing for each stretch that is no character. An octet that
cannot continue the character before it is read again as a first octet. -/
def units : Option Pending → List UInt8 → List (Option Char)
  | none, [] => []
  | some _, [] => [none]
  | none, b :: bs =>
    match lead b with
    | .char c => some c :: units none bs
    | .begins p => units (some p) bs
    | .bad => none :: units none bs
  | some p, b :: bs =>
    if p.low ≤ b ∧ b ≤ p.high then
      let bits := p.bits * 64 + b.toNat % 64
      match p.owed with
      | 0 | 1 => some (Char.ofNat bits) :: units none bs
      | owed + 2 => units (some ⟨bits, owed + 1, 0x80, 0xBF⟩) bs
    else
      match lead b with
      | .char c => none :: some c :: units none bs
      | .begins q => none :: units (some q) bs
      | .bad => none :: none :: units none bs

end Utf8

/-- The text that the octets spell, if they are UTF-8 throughout. -/
def ofUtf8? (bytes : List UInt8) : Option String :=
  ((Utf8.units none bytes).mapM id).map String.ofList

/-- The text that the octets spell, U+FFFD for what is no character. -/
def ofUtf8Lenient (bytes : List UInt8) : String :=
  String.ofList ((Utf8.units none bytes).map (·.getD '\uFFFD'))

end ChequeTeller.Text
