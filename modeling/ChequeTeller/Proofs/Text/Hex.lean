import ChequeTeller.Proofs.Steps
import ChequeTeller.Proofs.Text.Utf8
import ChequeTeller.Text.Hex
import Mathlib.Data.List.Basic
import Mathlib.Data.List.Flatten

/-!
Hexadecimal text read back. Reading succeeds exactly on the text that is written for some octets,
in letters of either case, and gives those octets. Which fault is named for any other text is left
apart.
-/

namespace ChequeTeller.Text

namespace Hex

open Steps

/-! Letters in lower case. No octet of a character outside of ASCII is taken for a letter. -/

def lowerOctet (b : UInt8) : UInt8 :=
  if 0x41 ≤ b ∧ b ≤ 0x5A then b + 0x20 else b

theorem lowerOctet_of_le {b : UInt8} (h : 0x80 ≤ b) : lowerOctet b = b := by
  have not_letter : ¬ (0x41 ≤ b ∧ b ≤ 0x5A) := by
    simp only [UInt8.le_iff_toNat_le, UInt8.reduceToNat] at *
    omega
  rw [lowerOctet, if_neg not_letter]

theorem toLower_of_le {c : Char} (h : 0x80 ≤ c.toNat) : c.toLower = c := by
  have not_letter : ¬ (c.val ≥ 'A'.val ∧ c.val ≤ 'Z'.val) := by
    intro given
    have top : c.toNat ≤ 0x5A := given.2
    omega
  exact dif_neg not_letter

theorem lowerOctet_ascii : ∀ n < 0x80, (Char.ofNat n).toLower.toNat < 0x80 ∧
    UInt8.ofNat (Char.ofNat n).toLower.toNat = lowerOctet (UInt8.ofNat n) := by
  decide

theorem utf8EncodeChar_toLower (c : Char) :
    String.utf8EncodeChar c.toLower = (String.utf8EncodeChar c).map lowerOctet := by
  obtain low | high := Nat.lt_or_ge c.toNat 0x80
  · obtain ⟨low', same⟩ := lowerOctet_ascii c.toNat low
    rw [Char.ofNat_toNat] at low' same
    rw [utf8EncodeChar_of_ascii low, utf8EncodeChar_of_ascii low', same]
    rfl
  · rw [toLower_of_le high]
    symm
    refine (List.map_congr_left ?_).trans (List.map_id _)
    intro b hb
    exact lowerOctet_of_le (le_of_mem_utf8EncodeChar high b hb)

theorem utf8_toLower (s : String) : utf8 s.toLower = (utf8 s).map lowerOctet := by
  change utf8 (s.map Char.toLower) = _
  simp only [utf8, String.toList_map, List.flatMap_map, List.map_flatMap, utf8EncodeChar_toLower]

/-! Digits as octets. -/

def digitOctet (n : Nat) : UInt8 :=
  UInt8.ofNat (digit n).toNat

/-- The octets of the two digits that are written for an octet. -/
def digitOctets (b : UInt8) : List UInt8 :=
  [digitOctet (b.toNat / 16), digitOctet (b.toNat % 16)]

theorem utf8_encode (bytes : List UInt8) : utf8 (encode bytes) = bytes.flatMap digitOctets := by
  have ascii : ∀ n < 16, (digit n).toNat < 0x80 := by decide
  simp only [utf8, encode, String.toList_ofList, List.flatMap_assoc]
  refine List.flatMap_congr ?_
  intro b _
  have small := b.toNat_lt
  simp only [encodeByte, digitOctets, List.flatMap_cons, List.flatMap_nil, List.append_nil]
  rw [utf8EncodeChar_of_ascii (ascii _ (by omega)), utf8EncodeChar_of_ascii (ascii _ (by omega))]
  rfl

theorem digitValue?_digitOctet : ∀ n < 16, digitValue? (digitOctet n) = some (UInt8.ofNat n) := by
  decide

theorem digitValue?_octet : ∀ n < 256,
    digitValue? (lowerOctet (.ofNat n)) = digitValue? (.ofNat n) ∧
      (digitValue? (.ofNat n)).all fun v =>
        v.toNat < 16 ∧ lowerOctet (.ofNat n) = digitOctet v.toNat := by
  decide +kernel

theorem digitValue?_eq_some_iff {b v : UInt8} :
    digitValue? b = some v ↔ v.toNat < 16 ∧ lowerOctet b = digitOctet v.toNat := by
  obtain ⟨lower, value⟩ := digitValue?_octet b.toNat b.toNat_lt
  rw [UInt8.ofNat_toNat] at lower value
  refine ⟨?_, ?_⟩
  · intro h
    simpa [h] using value
  · intro given
    obtain ⟨small, same⟩ := given
    rw [← lower, same, digitValue?_digitOctet _ small, UInt8.ofNat_toNat]

theorem pair_eq_some_iff {a b v : UInt8} :
    (∃ high low, digitValue? a = some high ∧ digitValue? b = some low ∧ high * 16 + low = v) ↔
      [lowerOctet a, lowerOctet b] = digitOctets v := by
  simp only [digitValue?_eq_some_iff]
  refine ⟨?_, ?_⟩
  · intro given
    obtain ⟨high, low, ⟨hh, ha⟩, ⟨hl, hb⟩, rfl⟩ := given
    have value : (high * 16 + low).toNat = high.toNat * 16 + low.toNat := by
      simp only [UInt8.toNat_add, UInt8.toNat_mul, UInt8.reduceToNat]
      omega
    have first : (high.toNat * 16 + low.toNat) / 16 = high.toNat := by omega
    have second : (high.toNat * 16 + low.toNat) % 16 = low.toNat := by omega
    rw [digitOctets, value, ha, hb, first, second]
  · intro given
    simp only [digitOctets, List.cons.injEq, and_true] at given
    have small := v.toNat_lt
    have high : (UInt8.ofNat (v.toNat / 16)).toNat = v.toNat / 16 :=
      Nat.mod_eq_of_lt (by omega)
    have low : (UInt8.ofNat (v.toNat % 16)).toNat = v.toNat % 16 :=
      Nat.mod_eq_of_lt (by omega)
    refine ⟨.ofNat (v.toNat / 16), .ofNat (v.toNat % 16), ?_, ?_, ?_⟩
    · exact ⟨by omega, by rw [high, given.1]⟩
    · exact ⟨by omega, by rw [low, given.2]⟩
    · refine UInt8.toNat_inj.mp ?_
      simp only [UInt8.toNat_add, UInt8.toNat_mul, UInt8.reduceToNat, high, low]
      omega

/-! Reading, pair by pair. -/

theorem map_cons_cons_eq_iff {a b : UInt8} {rest bytes : List UInt8} :
    (a :: b :: rest).map lowerOctet = bytes.flatMap digitOctets ↔
      ∃ v bytes', bytes = v :: bytes' ∧ [lowerOctet a, lowerOctet b] = digitOctets v ∧
        rest.map lowerOctet = bytes'.flatMap digitOctets := by
  cases bytes with
  | nil => simp
  | cons v bytes' => simp [digitOctets, and_assoc]

theorem decodePairs_eq_ok_iff (position : Nat) {digits bytes : List UInt8} :
    decodePairs position digits = .ok bytes ↔
      digits.map lowerOctet = bytes.flatMap digitOctets := by
  fun_induction decodePairs position digits generalizing bytes with
  | case1 => cases bytes <;> simp [digitOctets]
  | case2 =>
      refine ⟨nofun, ?_⟩
      intro given
      have lengths := congrArg List.length given
      simp [digitOctets] at lengths
      omega
  | case3 position a b rest ha =>
      rw [map_cons_cons_eq_iff]
      refine ⟨nofun, ?_⟩
      intro given
      obtain ⟨v, _, _, pair, _⟩ := given
      obtain ⟨high, low, ha', _⟩ := pair_eq_some_iff.mpr pair
      rw [ha] at ha'
      cases ha'
  | case4 position a b rest high hb ha =>
      rw [map_cons_cons_eq_iff]
      refine ⟨nofun, ?_⟩
      intro given
      obtain ⟨v, _, _, pair, _⟩ := given
      obtain ⟨_, low, _, hb', _⟩ := pair_eq_some_iff.mpr pair
      rw [hb] at hb'
      cases hb'
  | case5 position a b rest high low hb ha ih =>
      simp only [map_cons_cons_eq_iff, bind_eq_ok_iff, pure_eq_ok_iff, ih, ← pair_eq_some_iff, ha,
        hb, Option.some.injEq]
      refine ⟨?_, ?_⟩
      · intro given
        obtain ⟨bytes', same, rfl⟩ := given
        exact ⟨_, bytes', rfl, ⟨high, low, rfl, rfl, rfl⟩, same⟩
      · intro given
        obtain ⟨_, bytes', rfl, ⟨_, _, rfl, rfl, rfl⟩, same⟩ := given
        exact ⟨bytes', same, rfl⟩

/-- A text is read as the octets that it is written for, but for the case of its letters. -/
theorem decode_eq_ok_iff {text : String} {bytes : List UInt8} :
    decode text = .ok bytes ↔ text.toLower = encode bytes := by
  rw [← utf8_injective.eq_iff, utf8_toLower, utf8_encode, ← decodePairs_eq_ok_iff 0]
  unfold decode decodeBytes
  split
  · rename_i odd
    refine ⟨nofun, ?_⟩
    intro h
    have lengths := congrArg List.length ((decodePairs_eq_ok_iff 0).mp h)
    simp [digitOctets] at lengths
    omega
  · rfl

theorem toLower_encode (bytes : List UInt8) : (encode bytes).toLower = encode bytes := by
  have lower_digit : ∀ n < 16, lowerOctet (digitOctet n) = digitOctet n := by decide
  refine utf8_injective ?_
  rw [utf8_toLower, utf8_encode, List.map_flatMap]
  refine List.flatMap_congr ?_
  intro b _
  have small := b.toNat_lt
  simp only [digitOctets, List.map_cons, List.map_nil]
  rw [lower_digit _ (by omega), lower_digit _ (by omega)]

@[simp]
theorem decode_encode (bytes : List UInt8) : decode (encode bytes) = .ok bytes :=
  decode_eq_ok_iff.mpr (toLower_encode bytes)

/-! Which texts are read at all. -/

/-- A digit of either case. -/
def IsDigit (c : Char) : Prop :=
  ('0' ≤ c ∧ c ≤ '9') ∨ ('a' ≤ c ∧ c ≤ 'f') ∨ ('A' ≤ c ∧ c ≤ 'F')

instance (c : Char) : Decidable (IsDigit c) :=
  inferInstanceAs (Decidable (_ ∨ _))

theorem isDigit_ascii : ∀ k < 0x80,
    IsDigit (Char.ofNat k) ↔ ∃ n < 16, (Char.ofNat k).toLower = digit n := by
  decide +kernel

theorem isDigit_iff {c : Char} : IsDigit c ↔ ∃ n < 16, c.toLower = digit n := by
  obtain low | high := Nat.lt_or_ge c.toNat 0x80
  · have ascii := isDigit_ascii c.toNat low
    rwa [Char.ofNat_toNat] at ascii
  · -- No character outside of ASCII is a digit, nor in lower case one.
    have bound : ∀ d : Char, c ≤ d → 0x80 ≤ d.toNat := fun d le => Nat.le_trans high le
    rw [toLower_of_le high]
    refine ⟨?_, ?_⟩
    · rintro (⟨-, top⟩ | ⟨-, top⟩ | ⟨-, top⟩)
      all_goals exact absurd (bound _ top) (by decide)
    · rintro ⟨n, small, rfl⟩
      have ascii : ∀ n < 16, (digit n).toNat < 0x80 := by decide
      have := ascii n small
      omega

theorem encodeByte_ofNat {high low : Nat} (hh : high < 16) (hl : low < 16) :
    encodeByte (UInt8.ofNat (high * 16 + low)) = [digit high, digit low] := by
  have value : (UInt8.ofNat (high * 16 + low)).toNat = high * 16 + low :=
    Nat.mod_eq_of_lt (by omega)
  rw [encodeByte, value, show (high * 16 + low) / 16 = high by omega,
    show (high * 16 + low) % 16 = low by omega]

/-- Digits are taken in pairs, one for each octet. -/
theorem exists_bytes_of_digits : ∀ (cs : List Char), cs.length % 2 = 0 → (∀ c ∈ cs, IsDigit c) →
    ∃ bytes : List UInt8, cs.map Char.toLower = bytes.flatMap encodeByte
  | [], _, _ => ⟨[], rfl⟩
  | [_], odd, _ => by cases odd
  | c :: d :: cs, even, digits => by
      obtain ⟨high, hh, first⟩ := isDigit_iff.mp (digits c (by simp))
      obtain ⟨low, hl, second⟩ := isDigit_iff.mp (digits d (by simp))
      have even : cs.length % 2 = 0 := by
        simp only [List.length_cons] at even
        omega
      have digits : ∀ c ∈ cs, IsDigit c := fun c hc => digits c (by simp [hc])
      obtain ⟨bytes, later⟩ := exists_bytes_of_digits cs even digits
      refine ⟨UInt8.ofNat (high * 16 + low) :: bytes, ?_⟩
      rw [List.flatMap_cons, encodeByte_ofNat hh hl, List.map_cons, List.map_cons, first, second,
        later]
      rfl

theorem length_flatMap_encodeByte (bytes : List UInt8) :
    (bytes.flatMap encodeByte).length = 2 * bytes.length := by
  induction bytes with
  | nil => rfl
  | cons b bytes ih =>
      simp only [List.flatMap_cons, List.length_append, List.length_cons, ih, encodeByte,
        List.length_nil]
      omega

theorem exists_digit_of_mem_encode {bytes : List UInt8} {c : Char}
    (mem : c ∈ (encode bytes).toList) : ∃ n < 16, c = digit n := by
  rw [encode, String.toList_ofList] at mem
  obtain ⟨b, -, mem⟩ := List.mem_flatMap.mp mem
  have small := b.toNat_lt
  obtain rfl | mem := List.mem_cons.mp mem
  · exact ⟨_, by omega, rfl⟩
  · exact ⟨_, by omega, List.mem_singleton.mp mem⟩

theorem toLower_eq_encode_iff {text : String} {bytes : List UInt8} :
    text.toLower = encode bytes ↔ text.toList.map Char.toLower = bytes.flatMap encodeByte := by
  change text.map Char.toLower = _ ↔ _
  rw [← String.toList_inj, String.toList_map, encode, String.toList_ofList]

theorem length_of_decode {text : String} {bytes : List UInt8} (read : decode text = .ok bytes) :
    text.length = 2 * bytes.length := by
  rw [← length_flatMap_encodeByte, ← toLower_eq_encode_iff.mp (decode_eq_ok_iff.mp read),
    List.length_map, String.length_toList]

theorem exists_decode_eq_ok_iff {text : String} :
    (∃ bytes, decode text = .ok bytes) ↔
      text.length % 2 = 0 ∧ ∀ c ∈ text.toList, IsDigit c := by
  refine ⟨?_, ?_⟩
  · rintro ⟨bytes, read⟩
    refine ⟨by rw [length_of_decode read, Nat.mul_mod_right], ?_⟩
    intro c hc
    have lowered := List.mem_map_of_mem (f := Char.toLower) hc
    rw [toLower_eq_encode_iff.mp (decode_eq_ok_iff.mp read)] at lowered
    obtain ⟨b, -, written⟩ := List.mem_flatMap.mp lowered
    have small := b.toNat_lt
    simp only [encodeByte, List.mem_cons, List.not_mem_nil, or_false] at written
    rcases written with written | written
    · exact isDigit_iff.mpr ⟨_, by omega, written⟩
    · exact isDigit_iff.mpr ⟨_, by omega, written⟩
  · rintro ⟨even, digits⟩
    rw [← String.length_toList] at even
    obtain ⟨bytes, written⟩ := exists_bytes_of_digits text.toList even digits
    exact ⟨bytes, decode_eq_ok_iff.mpr (toLower_eq_encode_iff.mpr written)⟩

end Hex

end ChequeTeller.Text
