import ChequeTeller.Text.Decimal
import Mathlib.Data.List.Induction
import Mathlib.Tactic.IntervalCases

/-!
Decimal numerals: what the digits spell, of written numerals and of padded ones, and that the
shortest numeral of a number is read as that number.
-/

namespace ChequeTeller.Text.Decimal

/-- The text is this many decimal digits, and their value is `n`. -/
structure Spells (text : String) (width n : Nat) : Prop where
  length : text.length = width
  digits : ∀ c ∈ text.toList, c.isDigit = true
  value : Nat.ofDigitChars 10 text.toList 0 = n

theorem isDigit_iff {c : Char} : c.isDigit = true ↔ 48 ≤ c.toNat ∧ c.toNat ≤ 57 := by
  rw [Char.isDigit, Bool.and_eq_true, decide_eq_true_eq, decide_eq_true_eq]
  rfl

theorem digitValue?_eq (c : Char) :
    digitValue? c = if c.isDigit then some (c.toNat - '0'.toNat) else none := by
  simp only [digitValue?, isDigit_iff]
  rfl

/-- A run of digits is read as the number that it spells, most significant digit first. -/
theorem digits?_eq_some_iff {cs : List Char} {value n : Nat} :
    digits? value cs = some n ↔
      (∀ c ∈ cs, c.isDigit = true) ∧ Nat.ofDigitChars 10 cs value = n := by
  induction cs generalizing value with
  | nil => simp [digits?]
  | cons c cs ih =>
      rw [digits?, digitValue?_eq, List.forall_mem_cons, Nat.ofDigitChars_cons, Nat.mul_comm 10]
      by_cases digit : c.isDigit = true
      · simp [digit, ih]
      · simp [digit]

/-- Nothing is read from no digits, and one plus sign is passed over before some. -/
theorem natural?_eq_some_iff {cs : List Char} {n : Nat} :
    natural? cs = some n ↔
      ∃ ds, (cs = ds ∨ cs = '+' :: ds) ∧ ds ≠ [] ∧ digits? 0 ds = some n := by
  have unsigned {ds : List Char} : digits? 0 ('+' :: ds) ≠ some n := by
    simp [digits?, digitValue?_eq]
  refine ⟨?_, ?_⟩
  · intro given
    unfold natural? at given
    split at given
    · cases given
    · cases given
    · next ds lone => exact ⟨ds, .inr rfl, by rintro rfl; exact lone rfl, given⟩
    · next empty _ _ => exact ⟨cs, .inl rfl, empty, given⟩
  · rintro ⟨ds, rfl | rfl, some_digit, given⟩
    · unfold natural?
      split
      · exact absurd rfl some_digit
      · exact absurd given unsigned
      · exact absurd given unsigned
      · exact given
    · obtain ⟨d, ds, rfl⟩ := List.exists_cons_of_ne_nil some_digit
      exact given

theorem spells_numeral (n : Nat) : Spells (numeral n) (Nat.toDigits 10 n).length n where
  length := String.length_ofList
  digits := by
    rw [numeral, String.toList_ofList]
    exact fun _ hc => Nat.isDigit_of_mem_toDigits (by decide) (by decide) hc
  value := by rw [numeral, String.toList_ofList, Nat.ofDigitChars_ten_toDigits]

theorem spells_padded {width n : Nat} (some_digit : 0 < width) (fits : n < 10 ^ width) :
    Spells (padded width n) width n where
  length := by
    have short := (Nat.length_toDigits_le_iff (by decide) some_digit).mpr fits
    rw [padded, String.length_ofList, List.length_append, List.length_replicate]
    exact Nat.sub_add_cancel short
  digits := by
    intro c hc
    rw [padded, String.toList_ofList, List.mem_append] at hc
    rcases hc with zero | digit
    · rw [List.eq_of_mem_replicate zero]
      rfl
    · exact Nat.isDigit_of_mem_toDigits (by decide) (by decide) digit
  value := by
    rw [padded, String.toList_ofList, Nat.ofDigitChars_append, Nat.ofDigitChars_replicate_zero,
      Nat.mul_zero, Nat.ofDigitChars_ten_toDigits]

theorem natural?_toList_eq_some_iff {s : String} {n : Nat} :
    natural? s.toList = some n ↔
      ∃ digits width, (s = digits ∨ s = "+" ++ digits) ∧ 0 < width ∧ Spells digits width n := by
  simp only [natural?_eq_some_iff, digits?_eq_some_iff]
  refine ⟨?_, ?_⟩
  · rintro ⟨ds, signed, some_digit, digits, value⟩
    have same : (String.ofList ds).toList = ds := String.toList_ofList
    refine ⟨String.ofList ds, ds.length, ?_, List.length_pos_iff.mpr some_digit,
      ⟨String.length_ofList, same.symm ▸ digits, same.symm ▸ value⟩⟩
    simp only [← String.toList_inj, String.toList_append, same]
    exact signed
  · rintro ⟨digits, width, signed, positive, spells⟩
    refine ⟨digits.toList, ?_, ?_, spells.digits, spells.value⟩
    · simp only [← String.toList_inj, String.toList_append] at signed
      exact signed
    · rw [← List.length_pos_iff, String.length_toList, spells.length]
      exact positive

theorem natural?_numeral (n : Nat) : natural? (numeral n).toList = some n :=
  natural?_toList_eq_some_iff.mpr
    ⟨numeral n, _, .inl rfl, Nat.length_toDigits_pos, spells_numeral n⟩

theorem word64?_eq_some_iff {s : String} {n : UInt64} :
    word64? s = some n ↔
      ∃ digits width, (s = digits ∨ s = "+" ++ digits) ∧ 0 < width ∧
        Spells digits width n.toNat := by
  rw [← natural?_toList_eq_some_iff, word64?, below?]
  cases natural? s.toList with
  | none => simp
  | some m =>
      by_cases fits : m < UInt64.size
      · simp [Option.filter, fits, ← UInt64.toNat_inj, Nat.mod_eq_of_lt fits]
      · have large : n.toNat < m := Nat.lt_of_lt_of_le n.toNat_lt (Nat.not_lt.mp fits)
        simp [Option.filter, fits, large.ne']

/-- Equal texts that end in as many digits are equal before them, and so are the values. -/
theorem Spells.append_inj {front front' text text' : String} {width n n' : Nat}
    (h : Spells text width n) (h' : Spells text' width n')
    (same : front ++ text = front' ++ text') : front = front' ∧ n = n' := by
  have lists : front.toList ++ text.toList = front'.toList ++ text'.toList := by
    rw [← String.toList_append, same, String.toList_append]
  obtain ⟨fronts, texts⟩ := List.append_inj' lists (by
    rw [String.length_toList, String.length_toList, h.length, h'.length])
  exact ⟨String.toList_inj.mp fronts, by rw [← h.value, texts, h'.value]⟩

/-- A numeral begins with a zero only if it is the numeral of zero. -/
theorem head?_toDigits {n : Nat} (positive : 0 < n) : (Nat.toDigits 10 n).head? ≠ some '0' := by
  induction n using Nat.strongRecOn with
  | ind n ih =>
      rw [Nat.toDigits_eq_if (by decide)]
      by_cases small : n < 10
      · rw [if_pos small]
        interval_cases n <;> decide
      · have front := ih (n / 10) (by omega) (by omega)
        obtain ⟨c, cs, digits⟩ := List.exists_cons_of_ne_nil (Nat.toDigits_ne_nil (n := n / 10))
        rw [if_neg small, digits]
        rwa [digits] at front

theorem toDigits_ne_zero_cons (n : Nat) (d : Char) (ds : List Char) :
    Nat.toDigits 10 n ≠ '0' :: d :: ds := by
  intro same
  by_cases positive : 0 < n
  · exact head?_toDigits positive (by rw [same]; rfl)
  · rw [Nat.eq_zero_of_not_pos positive] at same
    cases same

theorem toDigits_digit {c : Char} (h : c.isDigit = true) :
    Nat.toDigits 10 (c.toNat - '0'.toNat) = [c] := by
  obtain ⟨low, high⟩ := isDigit_iff.mp h
  rw [← Char.ofNat_toNat c]
  generalize c.toNat = n at *
  interval_cases n <;> rfl

/-- Digits are the shortest numeral of their value unless there is a zero before others. -/
theorem toDigits_ofDigitChars {ds : List Char} (some_digit : ds ≠ [])
    (digits : ∀ c ∈ ds, c.isDigit = true) (whole : ∀ d ds', ds ≠ '0' :: d :: ds') :
    Nat.toDigits 10 (Nat.ofDigitChars 10 ds 0) = ds := by
  induction ds using List.reverseRecOn with
  | nil => exact absurd rfl some_digit
  | append_singleton front d ih =>
      obtain ⟨early, last⟩ := List.forall_mem_append.mp digits
      have digit := last d (List.mem_singleton_self d)
      rw [Nat.ofDigitChars_append, Nat.ofDigitChars_cons, Nat.ofDigitChars_nil]
      cases front with
      | nil => rw [Nat.ofDigitChars_nil, Nat.mul_zero, Nat.zero_add, toDigits_digit digit]; rfl
      | cons c cs =>
          have front := ih (List.cons_ne_nil c cs) early fun d' ds' same =>
            whole d' (ds' ++ [d]) (by rw [same]; rfl)
          have positive : 0 < Nat.ofDigitChars 10 (c :: cs) 0 := by
            refine Nat.pos_of_ne_zero fun zero => ?_
            rw [zero, Nat.toDigits_zero] at front
            exact whole d [] (by rw [← front]; rfl)
          have small : d.toNat - '0'.toNat < 10 := by
            have range := isDigit_iff.mp digit
            change d.toNat - 48 < 10
            omega
          rw [← Nat.toDigits_append_toDigits (by decide) positive small, front,
            toDigits_digit digit]

end ChequeTeller.Text.Decimal
