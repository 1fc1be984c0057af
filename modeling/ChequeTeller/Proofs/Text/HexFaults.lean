import ChequeTeller.Proofs.Text.Hex

/-!
Which fault reading hexadecimal text names. An odd number of octets comes before all else, and then
the leftmost octet that is no digit is named with its position. Positions count octets, so a
character outside of ASCII counts for as many as it is written as.
-/

namespace ChequeTeller.Text.Hex

open Steps

/-- The octet is the character of a digit of either case. -/
def IsDigitOctet (b : UInt8) : Prop :=
  IsDigit (Char.ofNat b.toNat)

instance (b : UInt8) : Decidable (IsDigitOctet b) :=
  inferInstanceAs (Decidable (IsDigit _))

/-- At `position` stands `b`, which is no digit, and all octets before it are digits. -/
structure FirstNonDigit (bs : List UInt8) (b : UInt8) (position : Nat) : Prop where
  here : bs[position]? = some b
  bad : ¬ IsDigitOctet b
  before : ∀ i < position, ∀ a, bs[i]? = some a → IsDigitOctet a

variable {a b : UInt8} {bs : List UInt8} {position : Nat}

theorem digitValue?_octet_isSome : ∀ n < 256,
    (digitValue? (.ofNat n)).isSome = true ↔ IsDigitOctet (.ofNat n) := by
  decide +kernel

theorem digitValue?_isSome_iff : (digitValue? b).isSome = true ↔ IsDigitOctet b := by
  have octet := digitValue?_octet_isSome b.toNat b.toNat_lt
  rwa [UInt8.ofNat_toNat] at octet

theorem isDigitOctet_of_some {v : UInt8} (value : digitValue? b = some v) : IsDigitOctet b :=
  digitValue?_isSome_iff.mp (by rw [value]; rfl)

theorem not_isDigitOctet_of_none (value : digitValue? b = none) : ¬ IsDigitOctet b := by
  rw [← digitValue?_isSome_iff, value]
  exact Bool.false_ne_true

theorem firstNonDigit_nil : ¬ FirstNonDigit [] b position := by
  intro first
  cases first.here

theorem firstNonDigit_of_not (bad : ¬ IsDigitOctet a) :
    FirstNonDigit (a :: bs) b position ↔ a = b ∧ position = 0 := by
  refine ⟨?_, ?_⟩
  · intro first
    cases position with
    | zero => exact ⟨Option.some.inj first.here, rfl⟩
    | succ position => exact absurd (first.before 0 (Nat.succ_pos _) a rfl) bad
  · rintro ⟨rfl, rfl⟩
    exact ⟨rfl, bad, nofun⟩

theorem firstNonDigit_of_digit (digit : IsDigitOctet a) :
    FirstNonDigit (a :: bs) b position ↔ ∃ p, position = p + 1 ∧ FirstNonDigit bs b p := by
  refine ⟨?_, ?_⟩
  · intro first
    cases position with
    | zero =>
        obtain rfl := Option.some.inj first.here
        exact absurd digit first.bad
    | succ position =>
        refine ⟨position, rfl, first.here, first.bad, ?_⟩
        intro i hi
        exact first.before (i + 1) (Nat.succ_lt_succ hi)
  · rintro ⟨p, rfl, first⟩
    refine ⟨first.here, first.bad, ?_⟩
    intro i hi c hc
    cases i with
    | zero =>
        obtain rfl := Option.some.inj hc
        exact digit
    | succ i => exact first.before i (Nat.lt_of_succ_lt_succ hi) c hc

/-! Reading, pair by pair. -/

theorem decodePairs_ne_oddLength (start : Nat) (even : bs.length % 2 = 0) :
    decodePairs start bs ≠ .error .oddLength := by
  fun_induction decodePairs start bs with
  | case1 | case3 | case4 => simp
  | case2 => cases even
  | case5 start a b rest high low hb ha ih =>
      have even : rest.length % 2 = 0 := by
        simp only [List.length_cons] at even
        omega
      intro odd
      obtain odd | ⟨_, _, odd⟩ := bind_eq_error_iff.mp odd
      · exact ih even odd
      · cases odd

theorem decodePairs_eq_badDigit_iff (start : Nat) (even : bs.length % 2 = 0) :
    decodePairs start bs = .error (.badDigit b position) ↔
      ∃ p, position = start + p ∧ FirstNonDigit bs b p := by
  fun_induction decodePairs start bs with
  | case1 => simp [firstNonDigit_nil]
  | case2 => cases even
  | case3 start c d rest hc =>
      simp only [firstNonDigit_of_not (not_isDigitOctet_of_none hc)]
      simp [eq_comm, and_comm]
  | case4 start c d rest high hd hc =>
      simp only [firstNonDigit_of_digit (isDigitOctet_of_some hc),
        firstNonDigit_of_not (not_isDigitOctet_of_none hd)]
      simp [eq_comm, and_comm]
  | case5 start c d rest high low hd hc ih =>
      have even : rest.length % 2 = 0 := by
        simp only [List.length_cons] at even
        omega
      simp only [firstNonDigit_of_digit (isDigitOctet_of_some hc),
        firstNonDigit_of_digit (isDigitOctet_of_some hd), bind_eq_error_iff, ih even]
      refine ⟨?_, ?_⟩
      · rintro (⟨p, rfl, first⟩ | ⟨_, _, read⟩)
        · exact ⟨p + 2, by omega, p + 1, rfl, p, rfl, first⟩
        · cases read
      · rintro ⟨_, rfl, _, rfl, p, rfl, first⟩
        exact .inl ⟨p, by omega, first⟩

variable {text : String}

theorem decode_eq_oddLength_iff :
    decode text = .error .oddLength ↔ (utf8 text).length % 2 = 1 := by
  unfold decode decodeBytes
  split
  · rename_i odd
    exact iff_of_true rfl odd
  · rename_i even
    exact iff_of_false (decodePairs_ne_oddLength 0 (Nat.mod_two_ne_one.mp even)) even

theorem decode_eq_badDigit_iff :
    decode text = .error (.badDigit b position) ↔
      (utf8 text).length % 2 = 0 ∧ FirstNonDigit (utf8 text) b position := by
  unfold decode decodeBytes
  split
  · rename_i odd
    exact iff_of_false nofun fun ⟨even, _⟩ => by omega
  · rename_i even
    have even := Nat.mod_two_ne_one.mp even
    simp [decodePairs_eq_badDigit_iff 0 even, even]

/-! How many octets are read, and from how many. -/

theorem length_utf8_of_digits (digits : ∀ c ∈ text.toList, IsDigit c) :
    (utf8 text).length = text.length := by
  have ascii : ∀ c ∈ text.toList, c.toNat < 0x80 := by
    intro c hc
    rcases digits c hc with ⟨-, top⟩ | ⟨-, top⟩ | ⟨-, top⟩
    all_goals exact Nat.lt_of_le_of_lt top (by decide)
  rw [utf8, ← String.length_toList]
  generalize text.toList = cs at ascii
  induction cs with
  | nil => rfl
  | cons c cs ih =>
      obtain ⟨here, later⟩ := List.forall_mem_cons.mp ascii
      rw [List.flatMap_cons, List.length_append, utf8EncodeChar_of_ascii here, ih later,
        List.length_singleton, List.length_cons, Nat.add_comm]

theorem exists_decode_of_length_iff {n : Nat} :
    (∃ bytes, decode text = .ok bytes ∧ bytes.length = n) ↔
      (∀ c ∈ text.toList, IsDigit c) ∧ text.length = 2 * n := by
  refine ⟨?_, ?_⟩
  · rintro ⟨bytes, read, rfl⟩
    exact ⟨(exists_decode_eq_ok_iff.mp ⟨bytes, read⟩).2, length_of_decode read⟩
  · rintro ⟨digits, length⟩
    obtain ⟨bytes, read⟩ := exists_decode_eq_ok_iff.mpr ⟨by omega, digits⟩
    have twice := length_of_decode read
    exact ⟨bytes, read, by omega⟩

end ChequeTeller.Text.Hex
