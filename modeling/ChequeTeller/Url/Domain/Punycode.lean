/-!
The spelling of labels in ASCII. The ASCII characters come first, then a hyphen if there are any,
then one number for each other character in ascending order, which says how many places for a
character are passed over before it. Numbers have digits of 36 values, the least one first, and
end with a digit below its threshold, which follows the size of the numbers before.
-/

namespace ChequeTeller.Url.Domain.Punycode

/-- The small letters come before the digits. -/
def digit (n : Nat) : Char :=
  if n < 26 then Char.ofNat (0x61 + n) else Char.ofNat (0x16 + n)

def value? (c : Char) : Option Nat :=
  let n := c.toNat
  if 0x61 ≤ n ∧ n ≤ 0x7A then some (n - 0x61)
  else if 0x30 ≤ n ∧ n ≤ 0x39 then some (n - 0x16)
  else none

/-- The threshold of a digit, whose place is 36 for the first and 36 more for each next one. -/
def threshold (bias place : Nat) : Nat :=
  max 1 (min 26 (place - bias))

theorem threshold_pos (bias place : Nat) : 1 ≤ threshold bias place :=
  Nat.le_max_left ..

/-- A size in steps of a factor of 35. -/
def scaled (size : Nat) : Nat :=
  if 455 < size then 36 + scaled (size / 35) else 36 * size / (size + 38)
termination_by size

/-- The bias after a number, with which the label has `count` characters. -/
def adapted (isFirst : Bool) (number count : Nat) : Nat :=
  let size := if isFirst then number / 700 else number / 2
  scaled (size + size / count)

/-! Writing. -/

def digits (bias place number : Nat) : List Char :=
  let t := threshold bias place
  if number < t then [digit number]
  else digit (t + (number - t) % (36 - t)) :: digits bias (place + 36) ((number - t) / (36 - t))
termination_by number
decreasing_by
  have := threshold_pos bias place
  exact Nat.lt_of_le_of_lt (Nat.div_le_self _ _) (by omega)

/-- What has been written: the digits, the places passed over since the last number, the bias, how
many characters are written, and whether no number has been. -/
structure Written where
  digits : List Char
  passed : Nat
  bias : Nat
  count : Nat
  isFirst : Bool

/-- Comes by a character of the label while those of number `n` are written. -/
def Written.comeBy (n : Nat) (w : Written) (c : Char) : Written :=
  if c.toNat < n then { w with passed := w.passed + 1 }
  else if c.toNat = n then
    { digits := w.digits ++ Punycode.digits w.bias 36 w.passed
      passed := 0
      bias := adapted w.isFirst w.passed (w.count + 1)
      count := w.count + 1
      isFirst := false }
  else w

/-- Writes the characters of the numbers given, in ascending order; those below `next` are
written. -/
def writeFrom (label : List Char) (next : Nat) (w : Written) : List Nat → List Char
  | [] => w.digits
  | n :: ns =>
    let start := { w with passed := w.passed + (n - next) * (w.count + 1) }
    let after := label.foldl (Written.comeBy n) start
    writeFrom label (n + 1) { after with passed := after.passed + 1 } ns

def isAscii (c : Char) : Bool :=
  c.toNat < 0x80

def encode (label : List Char) : List Char :=
  let plain := label.filter isAscii
  let others := ((label.filter (!isAscii ·)).map Char.toNat).mergeSort.eraseDups
  plain ++ (if plain = [] then [] else ['-']) ++
    writeFrom label 0x80 ⟨[], 0, 72, plain.length, true⟩ others

/-! Reading. -/

/-- What has been read: the label so far, the number and the place of its last character, the
bias, and the number being read, with the place and the weight of its next digit. -/
structure Read where
  label : List Char
  last : Nat
  passed : Nat
  bias : Nat
  isFirst : Bool
  number : Nat
  place : Nat
  weight : Nat

/-- Puts in the character that a number stands for. -/
def Read.insert? (r : Read) (number : Nat) : Option Read :=
  let count := r.label.length + 1
  let total := r.passed + number
  let code := r.last + total / count
  if code.isValidChar then
    some {
      label := r.label.insertIdx (total % count) (Char.ofNat code)
      last := code
      passed := total % count + 1
      bias := adapted r.isFirst number count
      isFirst := false
      number := 0
      place := 36
      weight := 1 }
  else none

def readFrom (r : Read) : List Char → Option (List Char)
  | [] => if r.place = 36 then some r.label else none
  | c :: cs => do
    let value ← value? c
    let number := r.number + value * r.weight
    let t := threshold r.bias r.place
    if value < t then readFrom (← r.insert? number) cs
    else readFrom { r with number, place := r.place + 36, weight := r.weight * (36 - t) } cs

/-- The label of a spelling in small letters. -/
def decode? (s : List Char) : Option (List Char) :=
  let rest := (s.reverse.takeWhile (· ≠ '-')).reverse
  let plain := s.take (s.length - rest.length - 1)
  if plain.all isAscii then
    if plain = [] then readFrom ⟨[], 0x80, 0, 72, true, 0, 36, 1⟩ s
    else readFrom ⟨plain, 0x80, 0, 72, true, 0, 36, 1⟩ rest
  else none

end ChequeTeller.Url.Domain.Punycode
