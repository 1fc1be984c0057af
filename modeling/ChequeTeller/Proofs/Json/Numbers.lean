import ChequeTeller.Json.Document
import ChequeTeller.Json.Printer
import ChequeTeller.Proofs.Text.Decimal
import ChequeTeller.Proofs.Text.Utf8

/-!
Integers in JSON text. An integer of 64 bits is read where its shortest numeral is written, with a
minus sign if it is negative, and from nothing else; a zero with a minus sign is none. Numerals that
spell no such integer are left apart.
-/

namespace ChequeTeller.Json.Document

open Text

/-! Digits. -/

theorem isDigit_iff {b : UInt8} : isDigit b = true ↔ 48 ≤ b.toNat ∧ b.toNat ≤ 57 := by
  rw [isDigit, Bool.and_eq_true, decide_eq_true_eq, decide_eq_true_eq, UInt8.le_iff_toNat_le,
    UInt8.le_iff_toNat_le]
  rfl

theorem utf8EncodeChar_digit {c : Char} (h : c.isDigit = true) :
    ∃ b : UInt8, String.utf8EncodeChar c = [b] ∧ b.toNat = c.toNat ∧ isDigit b = true := by
  obtain ⟨low, high⟩ := Decimal.isDigit_iff.mp h
  have octet : (UInt8.ofNat c.toNat).toNat = c.toNat :=
    UInt8.toNat_ofNat_of_lt' (Nat.lt_of_le_of_lt high (by decide))
  refine ⟨UInt8.ofNat c.toNat, utf8EncodeChar_of_ascii (by omega), octet, ?_⟩
  rw [isDigit_iff, octet]
  exact ⟨low, high⟩

theorem isDigit_of_mem_octets {ds : List Char} (digits : ∀ c ∈ ds, c.isDigit = true) :
    ∀ b ∈ octets ds, isDigit b = true := by
  intro b hb
  obtain ⟨c, hc, hb⟩ := List.mem_flatMap.mp hb
  obtain ⟨b', octet, -, digit⟩ := utf8EncodeChar_digit (digits c hc)
  rw [octet, List.mem_singleton] at hb
  exact hb ▸ digit

theorem exists_digits {w : List UInt8} (digits : ∀ b ∈ w, isDigit b = true) :
    ∃ ds : List Char, (∀ c ∈ ds, c.isDigit = true) ∧ octets ds = w := by
  induction w with
  | nil => exact ⟨[], nofun, rfl⟩
  | cons b w ih =>
      obtain ⟨digit, later⟩ := List.forall_mem_cons.mp digits
      obtain ⟨ds, digits, same⟩ := ih later
      have range := isDigit_iff.mp digit
      have number : (Char.ofNat b.toNat).toNat = b.toNat := by
        obtain ⟨low, high⟩ := range
        generalize b.toNat = n at *
        interval_cases n <;> rfl
      have char : (Char.ofNat b.toNat).isDigit = true := by rwa [Decimal.isDigit_iff, number]
      obtain ⟨b', octet, value, -⟩ := utf8EncodeChar_digit char
      refine ⟨Char.ofNat b.toNat :: ds, List.forall_mem_cons.mpr ⟨char, digits⟩, ?_⟩
      rw [octets_cons, octet, same, UInt8.toNat_inj.mp (value.trans number)]
      rfl

theorem digitsValue_octets {ds : List Char} (digits : ∀ c ∈ ds, c.isDigit = true) :
    digitsValue (octets ds) = Nat.ofDigitChars 10 ds 0 := by
  have from_value (value : Nat) :
      (octets ds).foldl (fun n b => n * 10 + (b.toNat - 0x30)) value =
        Nat.ofDigitChars 10 ds value := by
    induction ds generalizing value with
    | nil => rfl
    | cons c ds ih =>
        obtain ⟨digit, later⟩ := List.forall_mem_cons.mp digits
        obtain ⟨b, octet, same, -⟩ := utf8EncodeChar_digit digit
        rw [octets_cons, octet, List.singleton_append, List.foldl_cons, ih later,
          Nat.ofDigitChars_cons, same, Nat.mul_comm]
        rfl
  exact from_value 0

theorem isDigit_of_mem_toDigits (n : Nat) : ∀ c ∈ Nat.toDigits 10 n, c.isDigit = true :=
  fun _ hc => Nat.isDigit_of_mem_toDigits (by decide) (by decide) hc

theorem zero_leads_iff {ds : List Char} (digits : ∀ c ∈ ds, c.isDigit = true) :
    (∃ b bs, octets ds = 0x30 :: b :: bs) ↔ ∃ d ds', ds = '0' :: d :: ds' := by
  cases ds with
  | nil => simp [octets]
  | cons c ds =>
      obtain ⟨digit, later⟩ := List.forall_mem_cons.mp digits
      obtain ⟨b, octet, value, -⟩ := utf8EncodeChar_digit digit
      have zero : b = 0x30 ↔ c = '0' := by
        rw [← UInt8.toNat_inj, value, ← Char.toNat_inj]
        rfl
      cases ds with
      | nil => simp [octet, octets]
      | cons d ds =>
          obtain ⟨b', octet', -, -⟩ := utf8EncodeChar_digit (later d List.mem_cons_self)
          simp [octet, octet', zero]

theorem exists_octets_toDigits (n : Nat) :
    ∃ b bs, octets (Nat.toDigits 10 n) = b :: bs ∧ isDigit b = true := by
  have digits := isDigit_of_mem_octets (isDigit_of_mem_toDigits n)
  have longer := length_le_octets (Nat.toDigits 10 n)
  have some_digit := Nat.length_toDigits_pos (b := 10) (n := n)
  obtain ⟨b, bs, same⟩ := List.exists_cons_of_length_pos (Nat.lt_of_lt_of_le some_digit longer)
  exact ⟨b, bs, same, digits b (same ▸ List.mem_cons_self)⟩

/-- No digit comes first. -/
def NoDigit (rest : List UInt8) : Prop :=
  ∀ b ∈ rest.head?, isDigit b = false

theorem takeWhile_digits {w rest : List UInt8} (digits : ∀ b ∈ w, isDigit b = true)
    (ends : NoDigit rest) :
    (w ++ rest).takeWhile isDigit = w ∧ (w ++ rest).dropWhile isDigit = rest := by
  rw [List.takeWhile_append_of_pos digits, List.dropWhile_append_of_pos digits]
  cases rest with
  | nil => exact ⟨List.append_nil w, rfl⟩
  | cons b rest =>
      have no_digit : isDigit b = false := ends b rfl
      simp [no_digit]

theorem digits?_eq_some_iff {bytes w rest : List UInt8} :
    digits? bytes = some (w, rest) ↔
      w ≠ [] ∧ (∀ b ∈ w, isDigit b = true) ∧ NoDigit rest ∧ bytes = w ++ rest := by
  refine ⟨?_, ?_⟩
  · intro given
    unfold digits? at given
    split at given
    · cases given
    · next some_digit =>
        obtain ⟨rfl, rfl⟩ := Prod.mk.inj (Option.some.inj given)
        refine ⟨some_digit, List.all_eq_true.mp List.all_takeWhile, ?_,
          List.takeWhile_append_dropWhile.symm⟩
        intro b first
        have no_digit := List.head?_dropWhile_not isDigit bytes
        rwa [Option.mem_def.mp first] at no_digit
  · rintro ⟨some_digit, digits, ends, rfl⟩
    obtain ⟨front, back⟩ := takeWhile_digits digits ends
    unfold digits?
    rw [front, back]
    split
    · contradiction
    · rfl

/-- The digits before the point are the shortest numeral of some number. -/
theorem whole?_eq_some_iff {bytes w rest : List UInt8} :
    whole? bytes = some (w, rest) ↔
      ∃ n, w = octets (Nat.toDigits 10 n) ∧ NoDigit rest ∧ bytes = w ++ rest := by
  refine ⟨?_, ?_⟩
  · intro given
    unfold whole? at given
    split at given
    · cases given
    · next whole =>
        obtain ⟨some_digit, octetDigits, ends, split⟩ := digits?_eq_some_iff.mp given
        obtain ⟨ds, digits, rfl⟩ := exists_digits octetDigits
        refine ⟨Nat.ofDigitChars 10 ds 0, ?_, ends, split⟩
        rw [Decimal.toDigits_ofDigitChars ?_ digits ?_]
        · rintro rfl
          exact some_digit rfl
        · intro d ds' zero
          obtain ⟨b, bs, same⟩ := (zero_leads_iff digits).mpr ⟨d, ds', zero⟩
          exact whole b bs rest (same ▸ given)
  · rintro ⟨n, rfl, ends, rfl⟩
    have digits := isDigit_of_mem_toDigits n
    have some_octet : octets (Nat.toDigits 10 n) ≠ [] := by
      obtain ⟨b, bs, same, -⟩ := exists_octets_toDigits n
      exact same ▸ List.cons_ne_nil b bs
    unfold whole?
    rw [digits?_eq_some_iff.mpr ⟨some_octet, isDigit_of_mem_octets digits, ends, rfl⟩]
    split
    · next zero =>
        obtain ⟨same, -⟩ := Prod.mk.inj (Option.some.inj zero)
        obtain ⟨d, ds', zero⟩ := (zero_leads_iff digits).mp ⟨_, _, same⟩
        exact absurd zero (Decimal.toDigits_ne_zero_cons n d ds')
    · rfl

theorem digitsValue_toDigits (n : Nat) : digitsValue (octets (Nat.toDigits 10 n)) = n := by
  rw [digitsValue_octets (isDigit_of_mem_toDigits n), Nat.ofDigitChars_ten_toDigits]

/-! Numerals. -/

theorem fraction?_eq_none_iff {bytes rest : List UInt8} :
    fraction? bytes = some ([], rest) ↔ bytes.head? ≠ some 0x2E ∧ bytes = rest := by
  cases bytes with
  | nil => simp [fraction?]
  | cons b bs =>
      by_cases point : b = 0x2E
      · subst point
        simp [fraction?, digits?_eq_some_iff]
      · simp [fraction?, point]

theorem exponent?_eq_none_iff {bytes rest : List UInt8} :
    exponent? bytes = some (none, rest) ↔
      (bytes.head? ≠ some 0x65 ∧ bytes.head? ≠ some 0x45) ∧ bytes = rest := by
  cases bytes with
  | nil => simp [exponent?]
  | cons e bs =>
      by_cases letter : e = 0x65 ∨ e = 0x45
      · unfold exponent?
        simp only [if_pos letter]
        split <;> simp [← not_or, letter]
      · simp [exponent?, letter, ← not_or]

/-- No number goes on into these octets. -/
structure NumberEnds (rest : List UInt8) : Prop where
  noDigit : NoDigit rest
  noPoint : rest.head? ≠ some 0x2E
  noExponent : rest.head? ≠ some 0x65 ∧ rest.head? ≠ some 0x45

/-- The integers that a word of 64 bits holds, signed or not. -/
def IsWordSized (n : Int) : Prop :=
  -2 ^ 63 ≤ n ∧ n < 2 ^ 64

theorem number?_eq_integer_iff {m : Numeral} {n : Int} :
    m.number? = some (.integer n) ↔
      m.fraction = [] ∧ m.exponent = none ∧ IsWordSized n ∧
      (if m.negative then -(digitsValue m.whole : Int) else digitsValue m.whole) = n ∧
      (n ≠ 0 ∨ ¬ m.negative) := by
  unfold Numeral.number?
  generalize (if m.negative then -(digitsValue m.whole : Int) else digitsValue m.whole) = value
  dsimp only
  split
  · next integer =>
      obtain ⟨whole, plain, signed, low, high⟩ := integer
      rw [Option.some.injEq, Number.integer.injEq]
      refine ⟨?_, fun given => given.2.2.2.1⟩
      rintro rfl
      exact ⟨whole, plain, ⟨low, high⟩, rfl, signed⟩
  · next other =>
      refine iff_of_false ?_ ?_
      · split <;> simp
      · rintro ⟨whole, plain, ⟨low, high⟩, rfl, signed⟩
        exact other ⟨whole, plain, signed, low, high⟩

/-- The digits after the sign. -/
def unsigned (bytes : List UInt8) : List UInt8 :=
  if bytes.head? == some 0x2D then bytes.drop 1 else bytes

/-- A numeral without fraction and exponent is a sign, if any, and digits. -/
theorem numeral?_eq_some_iff {bytes rest : List UInt8} {m : Numeral} :
    numeral? bytes = some (m, rest) ∧ m.fraction = [] ∧ m.exponent = none ↔
      NumberEnds rest ∧ ∃ k, unsigned bytes = octets (Nat.toDigits 10 k) ++ rest ∧
        m = ⟨bytes.head? == some 0x2D, octets (Nat.toDigits 10 k), [], none,
          bytes.take (bytes.length - rest.length)⟩ := by
  simp only [numeral?, Option.bind_eq_bind, Option.bind_eq_some_iff, Prod.exists, unsigned,
    Option.pure_def, Option.some.injEq, Prod.mk.injEq]
  refine ⟨?_, ?_⟩
  · rintro ⟨⟨whole, _, read, _, _, point, _, _, power, rfl, rfl⟩, rfl, rfl⟩
    obtain ⟨noPoint, rfl⟩ := fraction?_eq_none_iff.mp point
    obtain ⟨noExponent, rfl⟩ := exponent?_eq_none_iff.mp power
    obtain ⟨k, rfl, noDigit, split⟩ := whole?_eq_some_iff.mp read
    exact ⟨⟨noDigit, noPoint, noExponent⟩, k, split, rfl⟩
  · rintro ⟨⟨noDigit, noPoint, noExponent⟩, k, split, rfl⟩
    exact ⟨⟨_, _, whole?_eq_some_iff.mpr ⟨k, rfl, noDigit, split⟩, _, _,
      fraction?_eq_none_iff.mpr ⟨noPoint, rfl⟩, _, _, exponent?_eq_none_iff.mpr ⟨noExponent, rfl⟩,
      rfl, rfl⟩, rfl, rfl⟩

/-- An integer is written with its sign if it is negative, and then its digits. -/
theorem unsigned_printNumber (n : Int) (rest : List UInt8) :
    let bytes := octets (printNumber (.integer n)) ++ rest
    (bytes.head? == some 0x2D) = decide (n < 0) ∧
      unsigned bytes = octets (Nat.toDigits 10 n.natAbs) ++ rest := by
  cases n with
  | negSucc k => exact ⟨(decide_eq_true (Int.negSucc_lt_zero k)).symm, rfl⟩
  | ofNat k =>
      obtain ⟨b, bs, same, digit⟩ := exists_octets_toDigits k
      have plain : ((octets (Nat.toDigits 10 k) ++ rest).head? == some 0x2D) = false := by
        rw [same, beq_eq_false_iff_ne]
        intro minus
        cases Option.some.inj minus
        cases digit
      refine ⟨plain.trans (decide_eq_false (Int.not_lt.mpr (Int.natCast_nonneg k))).symm, ?_⟩
      exact if_neg (plain ▸ Bool.false_ne_true)

theorem numeral?_integer_iff {bytes rest : List UInt8} {n : Int} :
    (∃ m, numeral? bytes = some (m, rest) ∧ m.number? = some (.integer n)) ↔
      IsWordSized n ∧ NumberEnds rest ∧ bytes = octets (printNumber (.integer n)) ++ rest := by
  refine ⟨?_, ?_⟩
  · rintro ⟨m, read, integer⟩
    obtain ⟨whole, plain, sized, value, signed⟩ := number?_eq_integer_iff.mp integer
    obtain ⟨ends, k, split, rfl⟩ := numeral?_eq_some_iff.mp ⟨read, whole, plain⟩
    refine ⟨sized, ends, ?_⟩
    dsimp only at value signed
    rw [digitsValue_toDigits] at value
    cases negative : bytes.head? == some 0x2D with
    | false =>
        rw [unsigned, negative, if_neg (by decide)] at split
        rw [negative, if_neg (by decide)] at value
        rw [← value, split]
        rfl
    | true =>
        obtain ⟨tail, rfl⟩ := List.head?_eq_some_iff.mp (beq_iff_eq.mp negative)
        rw [unsigned, negative, if_pos rfl, List.drop_one, List.tail_cons] at split
        rw [negative, if_pos rfl] at value
        obtain ⟨j, rfl⟩ := Nat.exists_eq_succ_of_ne_zero (n := k) (by simp_all; omega)
        rw [← value, split]
        rfl
  · rintro ⟨sized, ends, rfl⟩
    obtain ⟨signed, digits⟩ := unsigned_printNumber n rest
    obtain ⟨read, whole, plain⟩ := numeral?_eq_some_iff.mpr ⟨ends, n.natAbs, digits, rfl⟩
    refine ⟨_, read, number?_eq_integer_iff.mpr ⟨whole, plain, sized, ?_⟩⟩
    dsimp only
    rw [digitsValue_toDigits, signed]
    by_cases negative : n < 0
    · rw [decide_eq_true negative, if_pos rfl]
      exact ⟨by omega, .inl (by omega)⟩
    · rw [decide_eq_false negative, if_neg Bool.false_ne_true]
      exact ⟨by omega, .inr Bool.false_ne_true⟩

end ChequeTeller.Json.Document
