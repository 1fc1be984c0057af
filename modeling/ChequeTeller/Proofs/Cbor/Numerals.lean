import ChequeTeller.Cbor.Reader
import ChequeTeller.Cbor.Writer
import Mathlib.Tactic.Ring

/-!
Numbers in a fixed count of octets: reading undoes writing, and writing undoes reading.
-/

namespace ChequeTeller.Cbor

theorem octets_succ (count n : Nat) :
    octets (count + 1) n = UInt8.ofNat (n / 256 ^ count) :: octets count n :=
  rfl

@[simp]
theorem length_octets (count n : Nat) : (octets count n).length = count := by
  induction count with
  | zero => rfl
  | succ count ih => simp [octets, ih]

theorem bigEndian_eq_add (high : Nat) (bytes : List UInt8) :
    bigEndian high bytes = high * 256 ^ bytes.length + bigEndian 0 bytes := by
  induction bytes generalizing high with
  | nil => simp [bigEndian]
  | cons b bytes ih =>
      change bigEndian (high * 256 + b.toNat) bytes = _ + bigEndian (0 * 256 + b.toNat) bytes
      rw [ih, ih (0 * 256 + b.toNat), List.length_cons, pow_succ]
      ring

theorem bigEndian_lt (bytes : List UInt8) : bigEndian 0 bytes < 256 ^ bytes.length := by
  induction bytes with
  | nil => simp [bigEndian]
  | cons b bytes ih =>
      have small := b.toNat_lt
      change bigEndian (0 * 256 + b.toNat) bytes < _
      rw [bigEndian_eq_add, List.length_cons, pow_succ]
      calc (0 * 256 + b.toNat) * 256 ^ bytes.length + bigEndian 0 bytes
          < (0 * 256 + b.toNat) * 256 ^ bytes.length + 256 ^ bytes.length := by omega
        _ = (b.toNat + 1) * 256 ^ bytes.length := by ring
        _ ≤ 256 * 256 ^ bytes.length := Nat.mul_le_mul_right _ (by omega)
        _ = 256 ^ bytes.length * 256 := by ring

theorem octets_mod (count n : Nat) : octets count (n % 256 ^ count) = octets count n := by
  induction count generalizing n with
  | zero => rfl
  | succ count ih =>
      have lead : n % 256 ^ (count + 1) / 256 ^ count = n / 256 ^ count % 256 := by
        rw [pow_succ, Nat.mod_mul_right_div_self]
      have rest : octets count (n % 256 ^ (count + 1)) = octets count n := by
        rw [← ih (n % 256 ^ (count + 1)), Nat.mod_mod_of_dvd _ (Nat.pow_dvd_pow 256 (by omega)), ih]
      simp only [octets_succ, lead, rest]
      congr 1
      exact UInt8.toNat_inj.mp (by simp)

theorem bigEndian_octets (count n : Nat) : bigEndian 0 (octets count n) = n % 256 ^ count := by
  induction count with
  | zero => simp [octets, bigEndian, Nat.mod_one]
  | succ count ih =>
      change bigEndian (0 * 256 + (UInt8.ofNat (n / 256 ^ count)).toNat) (octets count n) = _
      rw [bigEndian_eq_add, ih, length_octets, UInt8.toNat_ofNat', pow_succ 256 count,
        Nat.mod_mul]
      ring

theorem octets_bigEndian (bytes : List UInt8) :
    octets bytes.length (bigEndian 0 bytes) = bytes := by
  induction bytes with
  | nil => rfl
  | cons b bytes ih =>
      have below := bigEndian_lt bytes
      have whole : bigEndian 0 (b :: bytes) = 256 ^ bytes.length * b.toNat + bigEndian 0 bytes := by
        change bigEndian (0 * 256 + b.toNat) bytes = _
        rw [bigEndian_eq_add]
        ring
      rw [List.length_cons, octets_succ, whole, Nat.mul_add_div (Nat.pow_pos (by decide)),
        Nat.div_eq_of_lt below, ← octets_mod bytes.length, Nat.mul_add_mod,
        Nat.mod_eq_of_lt below, ih]
      simp

end ChequeTeller.Cbor
