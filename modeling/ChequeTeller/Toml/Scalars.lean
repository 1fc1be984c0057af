import ChequeTeller.Text.Decimal
import ChequeTeller.Text.Double
import ChequeTeller.Text.Radix
import ChequeTeller.Text.Split
import ChequeTeller.Toml.Value

/-!
TOML values of one word: booleans, numbers, dates and times.
-/

namespace ChequeTeller.Toml

def isDigit (c : Char) : Bool := '0' ≤ c && c ≤ '9'

/-- Digits of a base, with single underscores between them. -/
def digitRun? (base : Nat) (s : List Char) : Option Nat :=
  let groups := Text.split (· = '_') s
  if groups.all (· ≠ []) then Text.Radix.number? base groups.flatten else none

/-- The sign, as whether it is a minus, and what follows. -/
def cutSign (s : List Char) : Bool × List Char :=
  match s with
  | '-' :: cs => (true, cs)
  | '+' :: cs => (false, cs)
  | cs => (false, cs)

/-- Decimal digits, of which the first is no zero unless it is the only one. -/
def whole? (s : List Char) : Option Nat :=
  match s with
  | '0' :: _ :: _ => none
  | _ => digitRun? 10 s

def inRange? (n : Int) : Option Int :=
  if -0x8000000000000000 ≤ n ∧ n < 0x8000000000000000 then some n else none

def integer? (s : List Char) : Option Int :=
  match s with
  | '0' :: 'x' :: cs => (digitRun? 16 cs).bind fun n => inRange? n
  | '0' :: 'o' :: cs => (digitRun? 8 cs).bind fun n => inRange? n
  | '0' :: 'b' :: cs => (digitRun? 2 cs).bind fun n => inRange? n
  | _ =>
    let (negative, digits) := cutSign s
    (whole? digits).bind fun n => inRange? (if negative then -n else n)

/-- How many digits there are, underscores apart. -/
def digitCount (s : List Char) : Nat :=
  (s.filter (· ≠ '_')).length

/-- Whether the text is a number with a fraction or an exponent, or both, and not too large. -/
def isFraction (s : List Char) : Bool :=
  let (negative, unsigned) := cutSign s
  let (mantissa, exponent) := Text.cut (fun c => c = 'e' || c = 'E') unsigned
  let (wholeDigits, fraction) := Text.cut (· = '.') mantissa
  let fractionDigits := fraction.getD ['0']
  let (exponentNegative, exponentDigits) := cutSign (exponent.getD ['0'])
  match whole? wholeDigits, digitRun? 10 fractionDigits, digitRun? 10 exponentDigits with
  | some n, some f, some e =>
    let places := digitCount fractionDigits
    (fraction.isSome || exponent.isSome) &&
      (negative || Text.Double.isFinite (n * Nat.pow 10 places + f) places exponentNegative e)
  | _, _, _ => false

def isFloat (s : List Char) : Bool :=
  let unsigned := (cutSign s).2
  unsigned = "inf".toList || unsigned = "nan".toList || isFraction s

/-! Dates and times. -/

/-- A number of exactly so many digits. -/
def fixed? (width : Nat) (s : List Char) : Option Nat :=
  if s.length = width then Text.Decimal.digits? 0 s else none

def daysIn (year month : Nat) : Nat :=
  if month = 2 then
    if year % 4 = 0 ∧ (year % 100 ≠ 0 ∨ year % 400 = 0) then 29 else 28
  else if month = 4 ∨ month = 6 ∨ month = 9 ∨ month = 11 then 30
  else 31

def isDate (s : List Char) : Bool :=
  match Text.split (· = '-') s with
  | [y, m, d] =>
    match fixed? 4 y, fixed? 2 m, fixed? 2 d with
    | some year, some month, some day =>
      1 ≤ month && month ≤ 12 && 1 ≤ day && day ≤ daysIn year month
    | _, _, _ => false
  | _ => false

def isBelow (bound : Nat) (s : List Char) : Bool :=
  (fixed? 2 s).any (· < bound)

/-- Hours, minutes and seconds, which may be sixty for a leap second, and a fraction. -/
def isTime (s : List Char) : Bool :=
  match Text.split (· = ':') s with
  | [h, m, rest] =>
    let (seconds, fraction) := Text.cut (· = '.') rest
    isBelow 24 h && isBelow 60 m && isBelow 61 seconds &&
      fraction.all fun digits => digits ≠ [] && digits.all isDigit
  | _ => false

def isOffset (s : List Char) : Bool :=
  match s with
  | ['Z'] | ['z'] => true
  | sign :: cs =>
    (sign = '+' || sign = '-') &&
      match Text.split (· = ':') cs with
      | [h, m] => isBelow 24 h && isBelow 60 m
      | _ => false
  | [] => false

def isOffsetStart (c : Char) : Bool :=
  c = 'Z' || c = 'z' || c = '+' || c = '-'

/-- A time after a date may have an offset. -/
def isTimeWithOffset (s : List Char) : Bool :=
  let offset := s.dropWhile (!isOffsetStart ·)
  isTime (s.takeWhile (!isOffsetStart ·)) && (offset = [] || isOffset offset)

def isDateTime (s : List Char) : Bool :=
  isTime s || isDate s ||
    (isDate (s.take 10) && match s.drop 10 with
      | c :: time => (c = 'T' || c = 't' || c = ' ') && isTimeWithOffset time
      | [] => false)

/-! Words. -/

def isWordChar (c : Char) : Bool :=
  c.isAlphanum || c = '+' || c = '-' || c = '_' || c = '.' || c = ':'

def scalar? (s : List Char) : Option Value :=
  if s = "true".toList then some (.bool true)
  else if s = "false".toList then some (.bool false)
  else if isDateTime s then some (.dateTime (String.ofList s))
  else if isFloat s then some (.float (String.ofList s))
  else (integer? s).map .integer

/-- The word at the front. A blank between a date and the digits of a time is part of it. -/
def cutWord (s : List Char) : List Char × List Char :=
  let word := s.takeWhile isWordChar
  let rest := s.dropWhile isWordChar
  match rest with
  | ' ' :: c :: cs =>
    if isDate word ∧ isDigit c then
      (word ++ ' ' :: (c :: cs).takeWhile isWordChar, (c :: cs).dropWhile isWordChar)
    else (word, rest)
  | _ => (word, rest)

def readScalar (s : List Char) : Option (Value × List Char) :=
  let (word, rest) := cutWord s
  (scalar? word).map (·, rest)

end ChequeTeller.Toml
