import ChequeTeller.Text.Utf8
import Mathlib.Data.List.Basic
import Mathlib.Tactic.IntervalCases

/-!
UTF-8 both ways. A character of ASCII is one octet, the octets of all others are not of ASCII, and
the octets of a text are read as that text.
-/

namespace ChequeTeller.Text

/-- The octets of characters one after the other. -/
def octets (cs : List Char) : List UInt8 :=
  cs.flatMap String.utf8EncodeChar

@[simp]
theorem octets_cons (c : Char) (cs : List Char) :
    octets (c :: cs) = String.utf8EncodeChar c ++ octets cs := rfl

@[simp]
theorem octets_append (cs ds : List Char) : octets (cs ++ ds) = octets cs ++ octets ds :=
  List.flatMap_append

theorem length_le_octets (cs : List Char) : cs.length ≤ (octets cs).length := by
  induction cs with
  | nil => rfl
  | cons c cs ih =>
      have some_octet := List.length_pos_iff.mpr (String.utf8EncodeChar_ne_nil (c := c))
      rw [octets_cons, List.length_append, List.length_cons]
      omega

theorem utf8_ofList (cs : List Char) : utf8 (String.ofList cs) = octets cs := by
  rw [utf8, String.toList_ofList, octets]

theorem utf8_injective : Function.Injective utf8 := by
  intro s t same
  have bytes (u : String) : (utf8 u).toByteArray = u.toByteArray :=
    String.utf8Encode_toList
  rw [← String.toByteArray_inj, ← bytes s, ← bytes t, same]

theorem octets_injective : Function.Injective octets := by
  intro cs ds same
  rw [← utf8_ofList, ← utf8_ofList] at same
  exact String.ofList_injective (utf8_injective same)

theorem utf8EncodeChar_of_ascii {c : Char} (h : c.toNat < 0x80) :
    String.utf8EncodeChar c = [UInt8.ofNat c.toNat] := by
  have small : c.val.toNat ≤ 127 := Nat.le_of_lt_succ h
  simp only [String.utf8EncodeChar, small, if_true]
  rfl

theorem le_of_mem_utf8EncodeChar {c : Char} (h : 0x80 ≤ c.toNat) :
    ∀ b ∈ String.utf8EncodeChar c, 0x80 ≤ b := by
  have large : ¬ c.val.toNat ≤ 127 := Nat.not_le.mpr h
  have bound (n m : Nat) (hm : 128 ≤ m % 256 + n % 256 ∧ m % 256 + n % 256 < 256) :
      (0x80 : UInt8) ≤ UInt8.ofNat (m + n) := by
    rw [UInt8.le_iff_toNat_le, UInt8.toNat_ofNat']
    simp only [UInt8.reduceToNat]
    omega
  intro b hb
  simp only [String.utf8EncodeChar, large, if_false] at hb
  split at hb
  · simp only [List.mem_cons, List.not_mem_nil, or_false] at hb
    obtain rfl | rfl := hb <;> exact bound _ _ (by omega)
  · split at hb
    · simp only [List.mem_cons, List.not_mem_nil, or_false] at hb
      obtain rfl | rfl | rfl := hb <;> exact bound _ _ (by omega)
    · simp only [List.mem_cons, List.not_mem_nil, or_false] at hb
      obtain rfl | rfl | rfl | rfl := hb <;> exact bound _ _ (by omega)

namespace Utf8

/-! What the first octet of a longer character says. The octets after it are held apart from those
of shorter characters, of surrogates and of numbers that are too large. -/

theorem lead_of_lt {n : Nat} (h : n < 0x80) : lead (UInt8.ofNat n) = .char (Char.ofNat n) := by
  have octet : (UInt8.ofNat n).toNat = n := UInt8.toNat_ofNat_of_lt' (Nat.lt_trans h (by decide))
  have small : UInt8.ofNat n < 0x80 := by
    rw [UInt8.lt_iff_toNat_lt, octet]
    exact h
  rw [lead, if_pos small, octet]

theorem lead_two {n : Nat} (low : 2 ≤ n) (high : n < 32) :
    lead (UInt8.ofNat (n % 32 + 192)) = .begins ⟨n, 1, 0x80, 0xBF⟩ := by
  interval_cases n <;> rfl

theorem lead_three {n : Nat} (h : n < 16) :
    lead (UInt8.ofNat (n % 16 + 224)) =
      .begins ⟨n, 2, if n = 0 then 0xA0 else 0x80, if n = 13 then 0x9F else 0xBF⟩ := by
  interval_cases n <;> rfl

theorem lead_four {n : Nat} (h : n ≤ 4) :
    lead (UInt8.ofNat (n % 8 + 240)) =
      .begins ⟨n, 3, if n = 0 then 0x90 else 0x80, if n = 4 then 0x8F else 0xBF⟩ := by
  interval_cases n <;> rfl

theorem toNat_follow (n : Nat) : (UInt8.ofNat (n % 64 + 128)).toNat = n % 64 + 128 :=
  UInt8.toNat_ofNat_of_lt' (show n % 64 + 128 < 256 by omega)

theorem units_follow {bits owed n : Nat} {low high : UInt8} (bs : List UInt8)
    (above : low.toNat ≤ n % 64 + 128) (below : n % 64 + 128 ≤ high.toNat) :
    units (some ⟨bits, owed + 2, low, high⟩) (UInt8.ofNat (n % 64 + 128) :: bs) =
      units (some ⟨bits * 64 + n % 64, owed + 1, 0x80, 0xBF⟩) bs := by
  have continues : low ≤ UInt8.ofNat (n % 64 + 128) ∧ UInt8.ofNat (n % 64 + 128) ≤ high := by
    rw [UInt8.le_iff_toNat_le, UInt8.le_iff_toNat_le, toNat_follow]
    exact ⟨above, below⟩
  have bits' : (n % 64 + 128) % 64 = n % 64 := by omega
  rw [units, if_pos continues, toNat_follow, bits']

theorem units_last {bits n : Nat} {low high : UInt8} (bs : List UInt8)
    (above : low.toNat ≤ n % 64 + 128) (below : n % 64 + 128 ≤ high.toNat) :
    units (some ⟨bits, 1, low, high⟩) (UInt8.ofNat (n % 64 + 128) :: bs) =
      some (Char.ofNat (bits * 64 + n % 64)) :: units none bs := by
  have continues : low ≤ UInt8.ofNat (n % 64 + 128) ∧ UInt8.ofNat (n % 64 + 128) ≤ high := by
    rw [UInt8.le_iff_toNat_le, UInt8.le_iff_toNat_le, toNat_follow]
    exact ⟨above, below⟩
  have bits' : (n % 64 + 128) % 64 = n % 64 := by omega
  rw [units, if_pos continues, toNat_follow, bits']

theorem units_utf8EncodeChar (c : Char) (bs : List UInt8) :
    units none (String.utf8EncodeChar c ++ bs) = some c :: units none bs := by
  have valid : c.val.toNat < 0xD800 ∨ 0xDFFF < c.val.toNat ∧ c.val.toNat < 0x110000 := c.valid
  have same : Char.ofNat c.val.toNat = c := Char.ofNat_toNat c
  rw [String.utf8EncodeChar]
  generalize c.val.toNat = v at *
  split_ifs with one two three
  · rw [List.singleton_append, units, lead_of_lt (by omega), same]
  · have number : v / 64 * 64 + v % 64 = v := Nat.div_add_mod' v 64
    rw [List.cons_append, List.singleton_append, units, lead_two (by omega) (by omega)]
    simp only
    rw [units_last bs (show 128 ≤ _ by omega) (show _ ≤ 191 by omega), number, same]
  · have number : (v / 4096 * 64 + v / 64 % 64) * 64 + v % 64 = v := by omega
    rw [List.cons_append, List.cons_append, List.singleton_append, units, lead_three (by omega)]
    simp only
    rw [units_follow _ ?_ ?_, units_last bs (show 128 ≤ _ by omega) (show _ ≤ 191 by omega), number,
      same]
    · split <;> simp only [UInt8.reduceToNat] <;> omega
    · split <;> simp only [UInt8.reduceToNat] <;> omega
  · have number : ((v / 262144 * 64 + v / 4096 % 64) * 64 + v / 64 % 64) * 64 + v % 64 = v := by
      omega
    rw [List.cons_append, List.cons_append, List.cons_append, List.singleton_append, units,
      lead_four (by omega)]
    simp only
    rw [units_follow _ ?_ ?_, units_follow _ (show 128 ≤ _ by omega) (show _ ≤ 191 by omega),
      units_last bs (show 128 ≤ _ by omega) (show _ ≤ 191 by omega), number, same]
    · split <;> simp only [UInt8.reduceToNat] <;> omega
    · split <;> simp only [UInt8.reduceToNat] <;> omega

theorem units_octets (cs : List Char) : units none (octets cs) = cs.map some := by
  induction cs with
  | nil => rfl
  | cons c cs ih => rw [octets_cons, units_utf8EncodeChar, ih, List.map_cons]

end Utf8

theorem ofUtf8?_utf8 (s : String) : ofUtf8? (utf8 s) = some s := by
  have chars : Utf8.units none (utf8 s) = s.toList.map some := Utf8.units_octets s.toList
  have all (cs : List Char) : (cs.map some).mapM id = some cs := by
    rw [List.mapM_map]
    exact (List.mapM_pure (f := id)).trans (congrArg some (List.map_id cs))
  rw [ofUtf8?, chars, all, Option.map_some, String.ofList_toList]

end ChequeTeller.Text
