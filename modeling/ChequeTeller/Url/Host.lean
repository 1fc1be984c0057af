import ChequeTeller.Net.Ipv6
import ChequeTeller.Url.Domain
import ChequeTeller.Url.Fault
import ChequeTeller.Url.Percent

/-!
Hosts of URLs. In a special URL a name is a domain, and one that ends in a number is an address of
32 bits, whose numbers may be octal or hexadecimal, and the last of which fills all octets left.
In other URLs a name is kept as it is, but for control characters and those outside ASCII.
-/

namespace ChequeTeller.Url

inductive Host
  | empty
  | name (text : String)
  | ipv4 (address : Net.Ipv4)
  | ipv6 (address : Net.Ipv6)
  deriving DecidableEq

namespace Host

def text : Host → String
  | empty => ""
  | name s => s
  | ipv4 a => a.text
  | ipv6 a => "[" ++ a.text ++ "]"

/-- A number of an address: hexadecimal after `0x`, octal after `0`, otherwise decimal. -/
def number? : List Char → Option Nat
  | [] => none
  | '0' :: 'x' :: s | '0' :: 'X' :: s => Text.Radix.number? 16 s
  | '0' :: c :: s => Text.Radix.number? 8 (c :: s)
  | s => Text.Radix.number? 10 s

def isDecimal (s : List Char) : Bool :=
  s ≠ [] && s.all fun c => '0' ≤ c && c ≤ '9'

/-- The pieces between dots, without an empty one at the end. -/
def labels (s : List Char) : List (List Char) :=
  let pieces := Text.split (· = '.') s
  if pieces.getLast? = some [] then pieces.dropLast else pieces

def endsInNumber (s : List Char) : Bool :=
  match (labels s).getLast? with
  | some last => isDecimal last || (number? last).isSome
  | none => false

/-- The address of its numbers, all but the last one octets. -/
def ofNumbers? (octets : List Nat) (last : Nat) : Option Net.Ipv4 :=
  if octets.length ≤ 3 ∧ octets.all (· < 256) ∧ last < Nat.pow 256 (4 - octets.length) then
    some (.ofNat (octets.foldl (fun n o => n * 256 + o) 0 * Nat.pow 256 (4 - octets.length) + last))
  else none

def ipv4? (s : List Char) : Option Net.Ipv4 := do
  let numbers ← (labels s).mapM number?
  ofNumbers? numbers.dropLast (← numbers.getLast?)

/-- An address of 128 bits in brackets, of which the first has been read. -/
def ofBracketed (s : List Char) : Except Fault Host :=
  match s.getLast?, Net.Ipv6.ofChars? s.dropLast with
  | some ']', some a => .ok (.ipv6 a)
  | _, _ => .error .badIpv6

/-- The host of a special URL. -/
def ofSpecial (s : List Char) : Except Fault Host :=
  match s with
  | '[' :: rest => ofBracketed rest
  | _ =>
    match Domain.toAscii (Percent.decodeText (String.ofList s)) with
    | none => .error .badDomain
    | some [] => .error .emptyHost
    | some domain =>
      if endsInNumber domain then
        match ipv4? domain with
        | some a => .ok (.ipv4 a)
        | none => .error .badIpv4
      else .ok (.name (String.ofList domain))

/-- The characters that no host holds. -/
def isForbidden (c : Char) : Bool :=
  ['\x00', '\t', '\n', '\r', ' ', '#', '/', ':', '<', '>', '?', '@', '[', '\\', ']', '^',
    '|'].contains c

/-- The host of any other URL. -/
def ofOther (s : List Char) : Except Fault Host :=
  match s with
  | [] => .ok .empty
  | '[' :: rest => ofBracketed rest
  | _ =>
    if s.any isForbidden then .error .badHostCharacter
    else .ok (.name (Percent.encode isControl s))

end Host

end ChequeTeller.Url
