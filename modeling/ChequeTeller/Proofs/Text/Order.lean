import ChequeTeller.Proofs.Text.Decimal
import ChequeTeller.Proofs.Text.Utf8

/-!
The order of texts by their octets. Texts of ASCII sort as their characters do. Of two texts that
begin with digits, the digits that both have are compared first, as numbers, and what follows them
after that. Texts of other characters are left apart.
-/

namespace ChequeTeller.Text

theorem char_lt_iff {c d : Char} : c < d ↔ c.toNat < d.toNat :=
  Iff.rfl

theorem octets_lt_iff {cs ds : List Char} (ascii : ∀ c ∈ cs, c.toNat < 0x80)
    (ascii' : ∀ d ∈ ds, d.toNat < 0x80) : octets cs < octets ds ↔ cs < ds := by
  induction cs generalizing ds with
  | nil =>
      cases ds with
      | nil => exact iff_of_false (List.lt_irrefl _) (List.lt_irrefl _)
      | cons d ds =>
          rw [octets_cons, utf8EncodeChar_of_ascii (ascii' d List.mem_cons_self)]
          exact iff_of_true (List.nil_lt_cons _ _) (List.nil_lt_cons _ _)
  | cons c cs ih =>
      cases ds with
      | nil => exact iff_of_false (List.not_lt_nil _) (List.not_lt_nil _)
      | cons d ds =>
          obtain ⟨small, ascii⟩ := List.forall_mem_cons.mp ascii
          obtain ⟨small', ascii'⟩ := List.forall_mem_cons.mp ascii'
          have value : (UInt8.ofNat c.toNat).toNat = c.toNat :=
            UInt8.toNat_ofNat_of_lt' (Nat.lt_trans small (by decide))
          have value' : (UInt8.ofNat d.toNat).toNat = d.toNat :=
            UInt8.toNat_ofNat_of_lt' (Nat.lt_trans small' (by decide))
          rw [octets_cons, octets_cons, utf8EncodeChar_of_ascii small,
            utf8EncodeChar_of_ascii small', List.singleton_append, List.singleton_append,
            List.cons_lt_cons_iff, List.cons_lt_cons_iff, ih ascii ascii', UInt8.lt_iff_toNat_lt,
            ← UInt8.toNat_inj, value, value', char_lt_iff, Char.toNat_inj]

namespace Decimal

/-- Numbers of two places sort by the first of them, and then by the second. -/
theorem place_lt_iff {size a a' b b' : Nat} (small : b < size) (small' : b' < size) :
    size * a + b < size * a' + b' ↔ a < a' ∨ a = a' ∧ b < b' := by
  rcases Nat.lt_trichotomy a a' with less | rfl | more
  · have whole := Nat.mul_le_mul_left size (Nat.succ_le_of_lt less)
    rw [Nat.mul_succ] at whole
    exact iff_of_true (by omega) (.inl less)
  · omega
  · have whole := Nat.mul_le_mul_left size (Nat.succ_le_of_lt more)
    rw [Nat.mul_succ] at whole
    exact iff_of_false (by omega) (by omega)

theorem place_eq_iff {size a a' b b' : Nat} (small : b < size) (small' : b' < size) :
    size * a + b = size * a' + b' ↔ a = a' ∧ b = b' := by
  have less := @place_lt_iff size a a' b b' small small'
  have more := @place_lt_iff size a' a b' b small' small
  refine ⟨fun same => by omega, ?_⟩
  rintro ⟨rfl, rfl⟩
  rfl

theorem lt_digit {c d : Char} (below : c.toNat < 48) (digit : d.isDigit = true) : c < d :=
  char_lt_iff.mpr (Nat.lt_of_lt_of_le below (isDigit_iff.mp digit).1)

theorem ofDigitChars_cons_zero (d : Char) (ds : List Char) :
    Nat.ofDigitChars 10 (d :: ds) 0 =
      10 ^ ds.length * (d.toNat - 48) + Nat.ofDigitChars 10 ds 0 := by
  rw [Nat.ofDigitChars_cons, Nat.ofDigitChars_eq_ofDigitChars_zero, Nat.mul_zero, Nat.zero_add]
  rfl

theorem ofDigitChars_lt {ds : List Char} (digits : ∀ c ∈ ds, c.isDigit = true) :
    Nat.ofDigitChars 10 ds 0 < 10 ^ ds.length := by
  induction ds with
  | nil => decide
  | cons d ds ih =>
      obtain ⟨digit, digits⟩ := List.forall_mem_cons.mp digits
      have range := isDigit_iff.mp digit
      have rest := ih digits
      have first : 10 ^ ds.length * (d.toNat - 48) ≤ 10 ^ ds.length * 9 :=
        Nat.mul_le_mul_left _ (by omega)
      rw [ofDigitChars_cons_zero, List.length_cons, Nat.pow_succ]
      omega

/-- Runs of as many digits sort by what they spell, and then by what follows them. -/
theorem digits_append_lt_iff {ds ds' rest rest' : List Char} (same : ds.length = ds'.length)
    (digits : ∀ c ∈ ds, c.isDigit = true) (digits' : ∀ c ∈ ds', c.isDigit = true) :
    ds ++ rest < ds' ++ rest' ↔
      Nat.ofDigitChars 10 ds 0 < Nat.ofDigitChars 10 ds' 0 ∨
      Nat.ofDigitChars 10 ds 0 = Nat.ofDigitChars 10 ds' 0 ∧ rest < rest' := by
  induction ds generalizing ds' with
  | nil =>
      obtain rfl := List.length_eq_zero_iff.mp same.symm
      simp
  | cons d ds ih =>
      cases ds' with
      | nil => cases same
      | cons d' ds' =>
          have same : ds.length = ds'.length := Nat.succ.inj same
          obtain ⟨digit, digits⟩ := List.forall_mem_cons.mp digits
          obtain ⟨digit', digits'⟩ := List.forall_mem_cons.mp digits'
          have low := same ▸ ofDigitChars_lt digits
          have low' := ofDigitChars_lt digits'
          have less : d < d' ↔ d.toNat - 48 < d'.toNat - 48 := by
            have range := isDigit_iff.mp digit
            have range' := isDigit_iff.mp digit'
            rw [char_lt_iff]
            omega
          have equal : d = d' ↔ d.toNat - 48 = d'.toNat - 48 := by
            have range := isDigit_iff.mp digit
            have range' := isDigit_iff.mp digit'
            rw [← Char.toNat_inj]
            omega
          rw [List.cons_append, List.cons_append, List.cons_lt_cons_iff, ih same digits digits',
            ofDigitChars_cons_zero, ofDigitChars_cons_zero, same, place_lt_iff low low',
            place_eq_iff low low', less, equal, and_or_left, or_assoc, and_assoc]

variable {text text' : String} {width width' n n' : Nat}

/-- Of two runs of digits the longer one counts as far as the shorter one goes. Its further digits
are compared with what follows the shorter one. -/
theorem Spells.append_lt_iff (h : Spells text width n) (h' : Spells text' width' n')
    (shorter : width ≤ width') {rest rest' : List Char} :
    text.toList ++ rest < text'.toList ++ rest' ↔
      n < n' / 10 ^ (width' - width) ∨
      n = n' / 10 ^ (width' - width) ∧ rest < text'.toList.drop width ++ rest' := by
  have length : (text'.toList.take width).length = width := by
    rw [List.length_take, String.length_toList, h'.length, Nat.min_eq_left shorter]
  have beyond : (text'.toList.drop width).length = width' - width := by
    rw [List.length_drop, String.length_toList, h'.length]
  have low : Nat.ofDigitChars 10 (text'.toList.drop width) 0 < 10 ^ (width' - width) := by
    rw [← beyond]
    exact ofDigitChars_lt fun c hc => h'.digits c (List.mem_of_mem_drop hc)
  have high : Nat.ofDigitChars 10 (text'.toList.take width) 0 = n' / 10 ^ (width' - width) := by
    rw [← h'.value, ← List.take_append_drop width text'.toList, Nat.ofDigitChars_append,
      Nat.ofDigitChars_eq_ofDigitChars_zero (l := List.drop width _), List.take_append_drop, beyond,
      Nat.mul_add_div (Nat.pos_of_ne_zero (by simp)), Nat.div_eq_of_lt low, Nat.add_zero]
  rw [← List.take_append_drop width text'.toList, List.append_assoc,
    digits_append_lt_iff (by rw [length, String.length_toList, h.length]) h.digits
      fun c hc => h'.digits c (List.mem_of_mem_take hc), h.value, high,
    List.take_append_drop]

theorem padded_append_lt_iff (some_digit : 0 < width) (fits : n < 10 ^ width)
    (fits' : n' < 10 ^ width) {rest rest' : List Char} :
    (padded width n).toList ++ rest < (padded width n').toList ++ rest' ↔
      n < n' ∨ n = n' ∧ rest < rest' := by
  have h := spells_padded some_digit fits
  have h' := spells_padded some_digit fits'
  have none : (padded width n').toList.drop width = [] := by
    rw [List.drop_eq_nil_iff, String.length_toList, h'.length]
  rw [h.append_lt_iff h' (Nat.le_refl _), none, Nat.sub_self, Nat.pow_zero, Nat.div_one,
    List.nil_append]

theorem length_numeral_mono (h : n ≤ n') : (numeral n).length ≤ (numeral n').length := by
  have fits : n' < 10 ^ (Nat.toDigits 10 n').length :=
    (Nat.length_toDigits_le_iff (by decide) Nat.length_toDigits_pos).mp (Nat.le_refl _)
  rw [numeral, numeral, String.length_ofList, String.length_ofList,
    Nat.length_toDigits_le_iff (by decide) Nat.length_toDigits_pos]
  exact Nat.lt_of_le_of_lt h fits

end Decimal

end ChequeTeller.Text
