import ChequeTeller.Text.Shown

/-!
Quoted characters and texts, as error texts show foreign data: the quote and the backslash are
escaped, and a character that would not show is written by its number.
-/

namespace ChequeTeller.Text.Quoted

/-- A number in lower-case hexadecimal, without leading zeros. -/
def hexNumber (n : Nat) : String :=
  String.ofList (Nat.toDigits 16 n)

/-- One character between quotes of the kind `quote`; the other kind of quote stays as it is. -/
def escape (quote c : Char) : String :=
  if c = '\x00' then "\\0"
  else if c = '\t' then "\\t"
  else if c = '\r' then "\\r"
  else if c = '\n' then "\\n"
  else if c = '\\' ∨ c = quote then String.ofList ['\\', c]
  else if isShown c then c.toString
  else "\\u\x7b" ++ hexNumber c.toNat ++ "\x7d"

def char (c : Char) : String :=
  "'" ++ escape '\x27' c ++ "'"

def text (s : String) : String :=
  "\"" ++ String.join (s.toList.map (escape '\x22')) ++ "\""

end ChequeTeller.Text.Quoted
