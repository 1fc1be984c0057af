import ChequeTeller.Json.Basic
import ChequeTeller.Text.Decimal

/-!
The compact text of a JSON value. Quotes, backslashes and control characters are escaped; all
other characters stand for themselves. It is one spelling of the value, with the members in the
order and the numbers in the words that the value has them in: whoever sorts members, or prints
what is no integer from a double, writes another text for the same value.
-/

namespace ChequeTeller.Json

def hexDigit (n : Nat) : Char :=
  if n < 10 then Char.ofNat (0x30 + n) else Char.ofNat (0x57 + n)

def escapeChar (c : Char) : List Char :=
  if c = '\x22' then ['\\', '\x22']
  else if c = '\\' then ['\\', '\\']
  else if c = '\x08' then ['\\', 'b']
  else if c = '\t' then ['\\', 't']
  else if c = '\n' then ['\\', 'n']
  else if c = '\x0C' then ['\\', 'f']
  else if c = '\r' then ['\\', 'r']
  else if c.toNat < 0x20 then
    ['\\', 'u', '0', '0', hexDigit (c.toNat / 16), hexDigit (c.toNat % 16)]
  else [c]

def printString (s : String) : List Char :=
  '\x22' :: (s.toList.flatMap escapeChar ++ ['\x22'])

def printNumber : Number → List Char
  | .integer (.ofNat n) => Nat.toDigits 10 n
  | .integer (.negSucc n) => '-' :: Nat.toDigits 10 (n + 1)
  | .written text => text.toList

mutual

def print : Json → List Char
  | .null => "null".toList
  | .bool b => if b then "true".toList else "false".toList
  | .number n => printNumber n
  | .string s => printString s
  | .array items => '[' :: printItems items
  | .object members => '\x7b' :: printMembers members

/-- The items and the closing bracket, commas between. -/
def printItems : List Json → List Char
  | [] => [']']
  | item :: rest => print item ++ printMoreItems rest

def printMoreItems : List Json → List Char
  | [] => [']']
  | item :: rest => ',' :: (print item ++ printMoreItems rest)

/-- The members and the closing brace, commas between. -/
def printMembers : List (String × Json) → List Char
  | [] => ['\x7d']
  | (name, value) :: rest => printString name ++ ':' :: (print value ++ printMoreMembers rest)

def printMoreMembers : List (String × Json) → List Char
  | [] => ['\x7d']
  | (name, value) :: rest =>
    ',' :: (printString name ++ ':' :: (print value ++ printMoreMembers rest))

end

def render (j : Json) : String :=
  String.ofList (print j)

end ChequeTeller.Json
