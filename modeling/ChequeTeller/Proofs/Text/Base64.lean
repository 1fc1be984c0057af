import ChequeTeller.Text.Base64
import Mathlib.Data.List.Basic

/-!
Base64 read back. Each group of octets is read as it was written, whether it is full or filled up,
so different octets are written differently. What text there is besides is left apart.
-/

namespace ChequeTeller.Text.Base64

theorem digitValue?_digit : ∀ n < 64, digitValue? (digit n) = some n := by
  decide

theorem digitValue?_fill : digitValue? '=' = none := by
  decide

theorem digit_ne_fill {n : Nat} (h : n < 64) : digit n ≠ '=' := by
  intro same
  have value := digitValue?_digit n h
  rw [same, digitValue?_fill] at value
  cases value

theorem ofNat_eq {n : Nat} {b : UInt8} (h : n % 256 = b.toNat) : UInt8.ofNat n = b :=
  UInt8.toNat_inj.mp (UInt8.toNat_ofNat'.trans h)

theorem decodeChars_one (a : UInt8) : decodeChars (encodeChars [a]) = some [a] := by
  have small := a.toNat_lt
  have high := digitValue?_digit (a.toNat * 16 / 64) (by omega)
  have low := digitValue?_digit (a.toNat * 16 % 64) (by omega)
  have whole : a.toNat * 16 / 64 * 64 + a.toNat * 16 % 64 = a.toNat * 16 := by omega
  have unused : a.toNat * 16 % 16 = 0 := by omega
  have octet : UInt8.ofNat (a.toNat * 16 / 16) = a := ofNat_eq (by omega)
  simp only [encodeChars, decodeChars, high, low, Option.bind_eq_bind, Option.bind_some, whole,
    unused, if_true, octet]

theorem decodeChars_two (a b : UInt8) : decodeChars (encodeChars [a, b]) = some [a, b] := by
  have := a.toNat_lt
  have := b.toNat_lt
  generalize whole : (a.toNat * 256 + b.toNat) * 4 = n
  have first := digitValue?_digit (n / 4096) (by omega)
  have second := digitValue?_digit (n / 64 % 64) (by omega)
  have third := digitValue?_digit (n % 64) (by omega)
  have joined : (n / 4096 * 64 + n / 64 % 64) * 64 + n % 64 = n := by omega
  rw [encodeChars, whole, decodeChars.eq_3 _ _ _ (digit_ne_fill (by omega))]
  have unused : n % 4 = 0 := by omega
  have octetA : UInt8.ofNat (n / 1024) = a := ofNat_eq (by omega)
  have octetB : UInt8.ofNat (n / 4) = b := ofNat_eq (by omega)
  simp only [first, second, third, Option.bind_eq_bind, Option.bind_some, joined, unused, if_true,
    octetA, octetB]

theorem decodeChars_encodeChars (bytes : List UInt8) :
    decodeChars (encodeChars bytes) = some bytes := by
  fun_induction encodeChars bytes with
  | case1 => rfl
  | case2 a => exact decodeChars_one a
  | case3 a b => exact decodeChars_two a b
  | case4 a b c rest n ih =>
      have := a.toNat_lt
      have := b.toNat_lt
      have := c.toNat_lt
      have bound : n < 16777216 := by omega
      have first := digitValue?_digit (n / 262144) (by omega)
      have second := digitValue?_digit (n / 4096 % 64) (by omega)
      have third := digitValue?_digit (n / 64 % 64) (by omega)
      have fourth := digitValue?_digit (n % 64) (by omega)
      have joined :
          ((n / 262144 * 64 + n / 4096 % 64) * 64 + n / 64 % 64) * 64 + n % 64 = n := by
        omega
      have unfilled : digit (n % 64) ≠ '=' := digit_ne_fill (by omega)
      rw [decodeChars.eq_4 _ _ _ _ _ (fun _ h => absurd h unfilled) fun h => absurd h unfilled]
      have octetA : UInt8.ofNat (n / 65536) = a := ofNat_eq (by omega)
      have octetB : UInt8.ofNat (n / 256) = b := ofNat_eq (by omega)
      have octetC : UInt8.ofNat n = c := ofNat_eq (by omega)
      simp only [first, second, third, fourth, Option.bind_eq_bind, Option.bind_some, joined, ih,
        octetA, octetB, octetC]

@[simp]
theorem decode_encode (bytes : List UInt8) : decode (encode bytes) = some bytes := by
  rw [decode, encode, String.toList_ofList, decodeChars_encodeChars]

end ChequeTeller.Text.Base64
