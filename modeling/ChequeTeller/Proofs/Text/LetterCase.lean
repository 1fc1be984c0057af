import ChequeTeller.Text.Hex
import Mathlib.Data.List.Forall2

/-!
Texts that differ in the case of hexadecimal digits alone. They are read as the same octets or
refused for the same fault, since an octet that is no digit stands in both. The case of other
letters does matter.
-/

namespace ChequeTeller.Text.Hex

/-- The digits that are letters, in both cases. -/
def letters : List (Char × Char) :=
  "abcdef".toList.zip "ABCDEF".toList

/-- One character, or one digit in either case. -/
inductive SameDigit : Char → Char → Prop
  | same (c : Char) : SameDigit c c
  | raised {low high : Char} (letter : (low, high) ∈ letters) : SameDigit low high
  | lowered {low high : Char} (letter : (low, high) ∈ letters) : SameDigit high low

/-- Character by character the texts are the same but for the case of digits. -/
def Recased (s t : String) : Prop :=
  List.Forall₂ SameDigit s.toList t.toList

theorem Recased.refl (s : String) : Recased s s :=
  List.forall₂_same.mpr fun c _ => .same c

/-- One octet, or two that spell one digit. -/
def SameOctet (a b : UInt8) : Prop :=
  a = b ∨ digitValue? a = digitValue? b ∧ (digitValue? a).isSome

instance (a b : UInt8) : Decidable (SameOctet a b) :=
  inferInstanceAs (Decidable (_ ∨ _))

variable {a b : UInt8} {xs ys : List UInt8} {s t : String}

theorem SameOctet.digitValue?_eq (same : SameOctet a b) : digitValue? b = digitValue? a := by
  obtain rfl | ⟨values, _⟩ := same
  · rfl
  · exact values.symm

theorem SameOctet.eq_of_none (same : SameOctet a b) (none : digitValue? a = none) : b = a := by
  obtain rfl | ⟨_, digit⟩ := same
  · rfl
  · rw [none] at digit
    cases digit

theorem letters_octets : ∀ p ∈ letters,
    List.Forall₂ SameOctet (String.utf8EncodeChar p.1) (String.utf8EncodeChar p.2) ∧
      List.Forall₂ SameOctet (String.utf8EncodeChar p.2) (String.utf8EncodeChar p.1) := by
  decide

theorem SameDigit.octets {c d : Char} (same : SameDigit c d) :
    List.Forall₂ SameOctet (String.utf8EncodeChar c) (String.utf8EncodeChar d) := by
  cases same with
  | same => exact List.forall₂_same.mpr fun b _ => .inl rfl
  | raised letter => exact (letters_octets _ letter).1
  | lowered letter => exact (letters_octets _ letter).2

theorem Recased.octets (same : Recased s t) : List.Forall₂ SameOctet (utf8 s) (utf8 t) :=
  List.rel_flatMap same fun _ _ => SameDigit.octets

/-- Only the value of a digit counts, and the octet itself only where it has none. -/
theorem decodePairs_congr (position : Nat) (same : List.Forall₂ SameOctet xs ys) :
    decodePairs position xs = decodePairs position ys := by
  fun_induction decodePairs position xs generalizing ys with
  | case1 =>
      cases same
      rfl
  | case2 position a =>
      obtain _ | ⟨_, _ | _⟩ := same
      rfl
  | case3 position a b rest ha =>
      obtain _ | ⟨first, _ | ⟨_, _⟩⟩ := same
      rw [first.eq_of_none ha]
      simp only [decodePairs, ha]
  | case4 position a b rest high hb ha =>
      obtain _ | ⟨first, _ | ⟨second, _⟩⟩ := same
      rw [second.eq_of_none hb]
      simp only [decodePairs, first.digitValue?_eq, ha, hb]
  | case5 position a b rest high low hb ha ih =>
      obtain _ | ⟨first, _ | ⟨second, later⟩⟩ := same
      simp only [decodePairs, first.digitValue?_eq, second.digitValue?_eq, ha, hb, ih later]

theorem Recased.decode_eq (same : Recased s t) : decode s = decode t := by
  simp only [decode, decodeBytes, same.octets.length_eq, decodePairs_congr 0 same.octets]

end ChequeTeller.Text.Hex
