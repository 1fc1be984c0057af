import ChequeTeller.Proofs.Text.Utf8
import Mathlib.Data.Nat.Find

/-!
What any octets spell as UTF-8. Characters are read where their octets stand; where none stands,
U+FFFD stands for as many octets as begin a character, or for one octet if none begins there. The
reading is told by the octets of characters alone, and any octets have exactly one.
-/

namespace ChequeTeller.Text.Utf8

/-- Some character's octets begin so. -/
def Begins (front : List UInt8) : Prop :=
  ∃ c : Char, front <+: String.utf8EncodeChar c

/-- No character stands at the front of `bad ++ bs`, and `bad` is as much of it as begins one, or a
single octet that begins none. -/
structure IsStretch (bad bs : List UInt8) : Prop where
  unread : ∀ c : Char, ¬ String.utf8EncodeChar c <+: bad ++ bs
  begins : Begins bad ∨ bad.length = 1
  longest : ∀ front, front <+: bad ++ bs → Begins front → front.length ≤ bad.length
  ne_nil : bad ≠ []

/-- The octets spell the characters. -/
inductive Spells : List UInt8 → List Char → Prop
  | nil : Spells [] []
  | char (c : Char) {bs : List UInt8} {cs : List Char} (rest : Spells bs cs) :
      Spells (String.utf8EncodeChar c ++ bs) (c :: cs)
  | stretch {bad bs : List UInt8} {cs : List Char} (stretch : IsStretch bad bs)
      (rest : Spells bs cs) : Spells (bad ++ bs) ('\uFFFD' :: cs)

/-! The octets of the characters that have more than one. -/

theorem val_ofNat {v : Nat} (h : v < 0xD800 ∨ 0xDFFF < v ∧ v < 0x110000) :
    (Char.ofNat v).val.toNat = v := by
  rw [Char.ofNat, dif_pos h]
  rfl

theorem encode_two {a b : Nat} (low : 2 ≤ a) (high : a < 32) (hb : b < 64) :
    String.utf8EncodeChar (Char.ofNat (a * 64 + b)) =
      [UInt8.ofNat (a % 32 + 192), UInt8.ofNat (b % 64 + 128)] := by
  have first : (a * 64 + b) / 64 = a := by omega
  have second : (a * 64 + b) % 64 = b % 64 := by omega
  rw [String.utf8EncodeChar, val_ofNat (by omega), if_neg (by omega), if_pos (by omega), first,
    second]

theorem encode_three {a b c : Nat} (ha : a < 16) (hb : b < 64) (hc : c < 64)
    (low : a = 0 → 32 ≤ b) (high : a = 13 → b < 32) :
    String.utf8EncodeChar (Char.ofNat (a * 4096 + b * 64 + c)) =
      [UInt8.ofNat (a % 16 + 224), UInt8.ofNat (b % 64 + 128), UInt8.ofNat (c % 64 + 128)] := by
  have large : ¬ a * 4096 + b * 64 + c ≤ 2047 := by omega
  have small : a * 4096 + b * 64 + c ≤ 65535 := by omega
  have valid : ¬ (0xD800 ≤ a * 4096 + b * 64 + c ∧ a * 4096 + b * 64 + c ≤ 0xDFFF) := by omega
  have first : (a * 4096 + b * 64 + c) / 4096 = a := by omega
  have second : (a * 4096 + b * 64 + c) / 64 % 64 = b % 64 := by omega
  have third : (a * 4096 + b * 64 + c) % 64 = c % 64 := by omega
  generalize a * 4096 + b * 64 + c = v at *
  rw [String.utf8EncodeChar, val_ofNat (by omega), if_neg (by omega), if_neg large, if_pos small,
    first, second, third]

theorem encode_four {a b c d : Nat} (ha : a ≤ 4) (hb : b < 64) (hc : c < 64) (hd : d < 64)
    (low : a = 0 → 16 ≤ b) (high : a = 4 → b < 16) :
    String.utf8EncodeChar (Char.ofNat (a * 262144 + b * 4096 + c * 64 + d)) =
      [UInt8.ofNat (a % 8 + 240), UInt8.ofNat (b % 64 + 128), UInt8.ofNat (c % 64 + 128),
        UInt8.ofNat (d % 64 + 128)] := by
  have large : ¬ a * 262144 + b * 4096 + c * 64 + d ≤ 65535 := by omega
  have valid : a * 262144 + b * 4096 + c * 64 + d < 0x110000 := by omega
  have first : (a * 262144 + b * 4096 + c * 64 + d) / 262144 = a := by omega
  have second : (a * 262144 + b * 4096 + c * 64 + d) / 4096 % 64 = b % 64 := by omega
  have third : (a * 262144 + b * 4096 + c * 64 + d) / 64 % 64 = c % 64 := by omega
  have fourth : (a * 262144 + b * 4096 + c * 64 + d) % 64 = d % 64 := by omega
  generalize a * 262144 + b * 4096 + c * 64 + d = v at *
  rw [String.utf8EncodeChar, val_ofNat (by omega), if_neg (by omega), if_neg (by omega),
    if_neg large, first, second, third, fourth]

/-- The digit of 64 that an octet after the first one carries. -/
theorem exists_digit {b : UInt8} (low : 0x80 ≤ b) (high : b ≤ 0xBF) :
    ∃ d < 64, b.toNat = d + 128 ∧ b = UInt8.ofNat (d % 64 + 128) := by
  have above : 128 ≤ b.toNat := low
  have below : b.toNat ≤ 191 := high
  refine ⟨b.toNat - 128, by omega, by omega, UInt8.toNat_inj.mp ?_⟩
  rw [toNat_follow]
  omega

/-! What a character begun leaves to come. -/

/-- With `front` a character is begun of which `p` is pending, and every octet that `p` admits
continues some character. -/
structure Opens (front : List UInt8) (p : Pending) : Prop where
  read : ∀ bs, units none (front ++ bs) = units (some p) bs
  more : ∀ b, p.low ≤ b → b ≤ p.high → Begins (front ++ [b])

theorem opens_two {a : Nat} (low : 2 ≤ a) (high : a < 32) :
    Opens [UInt8.ofNat (a % 32 + 192)] ⟨a, 1, 0x80, 0xBF⟩ where
  read bs := by rw [List.singleton_append, units, lead_two low high]
  more b above below := by
    obtain ⟨d, hd, -, rfl⟩ := exists_digit above below
    exact ⟨_, [], (encode_two low high hd).symm⟩

/-- The bounds of a second octet, which its first one may narrow, in terms of its digit. -/
theorem exists_digit_of_ite {b : UInt8} {least most : Prop} [Decidable least] [Decidable most]
    {low high : UInt8} (least_le : 0x80 ≤ low) (le_most : high ≤ 0xBF)
    (above : (if least then low else 0x80) ≤ b) (below : b ≤ if most then high else 0xBF) :
    ∃ d < 64, (least → low.toNat ≤ d + 128) ∧ (most → d + 128 ≤ high.toNat) ∧
      b = UInt8.ofNat (d % 64 + 128) := by
  have low' : 0x80 ≤ b := by
    split at above
    · exact UInt8.le_trans least_le above
    · exact above
  have high' : b ≤ 0xBF := by
    split at below
    · exact UInt8.le_trans below le_most
    · exact below
  obtain ⟨d, hd, digit, spelled⟩ := exists_digit low' high'
  refine ⟨d, hd, fun holds => ?_, fun holds => ?_, spelled⟩
  · rw [if_pos holds, UInt8.le_iff_toNat_le, digit] at above
    exact above
  · rw [if_pos holds, UInt8.le_iff_toNat_le, digit] at below
    exact below

theorem opens_three {a : Nat} (ha : a < 16) :
    Opens [UInt8.ofNat (a % 16 + 224)]
      ⟨a, 2, if a = 0 then 0xA0 else 0x80, if a = 13 then 0x9F else 0xBF⟩ where
  read bs := by rw [List.singleton_append, units, lead_three ha]
  more b above below := by
    obtain ⟨d, hd, least, most, rfl⟩ :=
      exists_digit_of_ite (by decide) (by decide) above below
    simp only [UInt8.reduceToNat] at least most
    exact ⟨_, [_], (encode_three ha hd (Nat.zero_lt_succ 63) (by omega) (by omega)).symm⟩

theorem opens_four {a : Nat} (ha : a ≤ 4) :
    Opens [UInt8.ofNat (a % 8 + 240)]
      ⟨a, 3, if a = 0 then 0x90 else 0x80, if a = 4 then 0x8F else 0xBF⟩ where
  read bs := by rw [List.singleton_append, units, lead_four ha]
  more b above below := by
    obtain ⟨d, hd, least, most, rfl⟩ :=
      exists_digit_of_ite (by decide) (by decide) above below
    simp only [UInt8.reduceToNat] at least most
    exact ⟨_, [_, _], (encode_four ha hd (Nat.zero_lt_succ 63) (Nat.zero_lt_succ 63) (by omega)
      (by omega)).symm⟩

/-- One octet on, and any digit may come next. -/
theorem Opens.next {front : List UInt8} {p : Pending} (opens : Opens front p) {owed n : Nat}
    (last : p.owed = owed + 2) (above : p.low.toNat ≤ n % 64 + 128)
    (below : n % 64 + 128 ≤ p.high.toNat)
    (more : ∀ d < 64,
      Begins (front ++ [UInt8.ofNat (n % 64 + 128)] ++ [UInt8.ofNat (d % 64 + 128)])) :
    Opens (front ++ [UInt8.ofNat (n % 64 + 128)])
      ⟨p.bits * 64 + n % 64, owed + 1, 0x80, 0xBF⟩ where
  read bs := by
    obtain ⟨bits, _, low, high⟩ := p
    cases last
    rw [List.append_assoc, opens.read, List.singleton_append, units_follow bs above below]
  more b above below := by
    obtain ⟨d, hd, -, rfl⟩ := exists_digit above below
    exact more d hd

theorem opens_three_second {a b : Nat} (ha : a < 16) (hb : b < 64) (low : a = 0 → 32 ≤ b)
    (high : a = 13 → b < 32) :
    Opens [UInt8.ofNat (a % 16 + 224), UInt8.ofNat (b % 64 + 128)]
      ⟨a * 64 + b % 64, 1, 0x80, 0xBF⟩ := by
  have above : (if a = 0 then (0xA0 : UInt8) else 0x80).toNat ≤ b % 64 + 128 := by
    split <;> simp only [UInt8.reduceToNat] <;> omega
  have below : b % 64 + 128 ≤ (if a = 13 then (0x9F : UInt8) else 0xBF).toNat := by
    split <;> simp only [UInt8.reduceToNat] <;> omega
  refine (opens_three ha).next rfl above below fun d hd => ?_
  exact ⟨_, [], (encode_three ha hb hd low high).symm⟩

theorem opens_four_second {a b : Nat} (ha : a ≤ 4) (hb : b < 64) (low : a = 0 → 16 ≤ b)
    (high : a = 4 → b < 16) :
    Opens [UInt8.ofNat (a % 8 + 240), UInt8.ofNat (b % 64 + 128)]
      ⟨a * 64 + b % 64, 2, 0x80, 0xBF⟩ := by
  have above : (if a = 0 then (0x90 : UInt8) else 0x80).toNat ≤ b % 64 + 128 := by
    split <;> simp only [UInt8.reduceToNat] <;> omega
  have below : b % 64 + 128 ≤ (if a = 4 then (0x8F : UInt8) else 0xBF).toNat := by
    split <;> simp only [UInt8.reduceToNat] <;> omega
  refine (opens_four ha).next rfl above below fun d hd => ?_
  exact ⟨_, [_], (encode_four ha hb hd (Nat.zero_lt_succ 63) low high).symm⟩

theorem opens_four_third {a b c : Nat} (ha : a ≤ 4) (hb : b < 64) (hc : c < 64)
    (low : a = 0 → 16 ≤ b) (high : a = 4 → b < 16) :
    Opens [UInt8.ofNat (a % 8 + 240), UInt8.ofNat (b % 64 + 128), UInt8.ofNat (c % 64 + 128)]
      ⟨(a * 64 + b % 64) * 64 + c % 64, 1, 0x80, 0xBF⟩ := by
  refine (opens_four_second ha hb low high).next rfl (show 128 ≤ _ by omega)
    (show _ ≤ 191 by omega) fun d hd => ?_
  exact ⟨_, [], (encode_four ha hb hc hd low high).symm⟩

/-- Part of a character is one begun. -/
theorem exists_opens {c : Char} {front : List UInt8} (begins : front <+: String.utf8EncodeChar c)
    (some : front ≠ []) (part : front ≠ String.utf8EncodeChar c) : ∃ p, Opens front p := by
  have valid : c.val.toNat < 0xD800 ∨ 0xDFFF < c.val.toNat ∧ c.val.toNat < 0x110000 := c.valid
  have digit (n : Nat) : n % 64 % 64 = n % 64 := Nat.mod_mod n 64
  rw [String.utf8EncodeChar] at begins part
  generalize c.val.toNat = v at *
  split_ifs at begins part with one two three
  -- In each case `front` is taken octet by octet, up to where the character would be whole.
  all_goals obtain rfl | ⟨_, rfl, tail₁⟩ := List.prefix_cons_iff.mp begins
  all_goals try exact absurd rfl some
  · obtain rfl := List.prefix_nil.mp tail₁
    exact absurd rfl part
  · obtain rfl | ⟨_, rfl, tail₂⟩ := List.prefix_cons_iff.mp tail₁
    · exact ⟨_, opens_two (by omega) (by omega)⟩
    obtain rfl := List.prefix_nil.mp tail₂
    exact absurd rfl part
  · obtain rfl | ⟨_, rfl, tail₂⟩ := List.prefix_cons_iff.mp tail₁
    · exact ⟨_, opens_three (by omega)⟩
    obtain rfl | ⟨_, rfl, tail₃⟩ := List.prefix_cons_iff.mp tail₂
    · have opens := @opens_three_second (v / 4096) (v / 64 % 64) (by omega) (by omega) (by omega)
        (by omega)
      rw [digit] at opens
      exact ⟨_, opens⟩
    obtain rfl := List.prefix_nil.mp tail₃
    exact absurd rfl part
  · obtain rfl | ⟨_, rfl, tail₂⟩ := List.prefix_cons_iff.mp tail₁
    · exact ⟨_, opens_four (by omega)⟩
    obtain rfl | ⟨_, rfl, tail₃⟩ := List.prefix_cons_iff.mp tail₂
    · have opens := @opens_four_second (v / 262144) (v / 4096 % 64) (by omega) (by omega)
        (by omega) (by omega)
      rw [digit] at opens
      exact ⟨_, opens⟩
    obtain rfl | ⟨_, rfl, tail₄⟩ := List.prefix_cons_iff.mp tail₃
    · have opens := @opens_four_third (v / 262144) (v / 4096 % 64) (v / 64 % 64) (by omega)
        (by omega) (by omega) (by omega) (by omega)
      rw [digit, digit] at opens
      exact ⟨_, opens⟩
    obtain rfl := List.prefix_nil.mp tail₄
    exact absurd rfl part

theorem Opens.begins {front : List UInt8} {p : Pending} (opens : Opens front p)
    (some : p.low ≤ p.high) : Begins front := by
  obtain ⟨c, whole⟩ := opens.more p.low (UInt8.le_refl _) some
  exact ⟨c, (List.prefix_append _ _).trans whole⟩

theorem begins_of_ascii {n : Nat} (h : n < 0x80) : Begins [UInt8.ofNat n] := by
  have code : (Char.ofNat n).toNat = n := val_ofNat (by omega)
  have encoded := utf8EncodeChar_of_ascii (code.symm ▸ h)
  rw [code] at encoded
  exact ⟨_, [], encoded.symm⟩

/-- The octets that begin a longer character. -/
theorem begins_of_mem {n : Nat} (low : 0xC2 ≤ n) (high : n ≤ 0xF4) : Begins [UInt8.ofNat n] := by
  by_cases two : n < 0xE0
  · obtain ⟨a, rfl⟩ := Nat.exists_eq_add_of_le' (show 192 ≤ n by omega)
    have some : (0x80 : UInt8) ≤ 0xBF := by decide
    have begins := (@opens_two a (by omega) (by omega)).begins some
    rwa [Nat.mod_eq_of_lt (by omega)] at begins
  by_cases three : n < 0xF0
  · obtain ⟨a, rfl⟩ := Nat.exists_eq_add_of_le' (Nat.not_lt.mp two)
    have some : (if a = 0 then (0xA0 : UInt8) else 0x80) ≤ if a = 13 then 0x9F else 0xBF := by
      split_ifs <;> first | omega | decide
    have begins := (@opens_three a (by omega)).begins some
    rwa [Nat.mod_eq_of_lt (by omega)] at begins
  · obtain ⟨a, rfl⟩ := Nat.exists_eq_add_of_le' (Nat.not_lt.mp three)
    have some : (if a = 0 then (0x90 : UInt8) else 0x80) ≤ if a = 4 then 0x8F else 0xBF := by
      split_ifs <;> first | omega | decide
    have begins := (@opens_four a (by omega)).begins some
    rwa [Nat.mod_eq_of_lt (by omega)] at begins

/-- An octet that begins no character is bad by itself. -/
theorem lead_of_not_begins {b : UInt8} (h : ¬ Begins [b]) : lead b = .bad := by
  rw [← UInt8.ofNat_toNat (x := b)] at h
  have large : ¬ b < 0x80 := fun small => h (begins_of_ascii small)
  by_cases low : b < 0xC2
  · rw [lead, if_neg large, if_pos low]
  have high : 0xF4 < b := by
    by_contra inside
    exact h (begins_of_mem (UInt8.not_lt.mp low) (UInt8.not_lt.mp inside))
  have past {n : UInt8} (le : n ≤ 0xF4) : ¬ b < n ∧ b ≠ n := by
    have below : n < b := UInt8.lt_of_le_of_lt le high
    exact ⟨UInt8.lt_asymm below, (UInt8.ne_of_lt below).symm⟩
  rw [lead, if_neg large, if_neg low, if_neg (past (by decide)).1, if_neg (past (by decide)).2,
    if_neg (past (by decide)).2, if_neg (past (by decide)).1, if_neg (past (by decide)).2,
    if_neg (past (by decide)).1, if_neg (past (UInt8.le_refl _)).2]

/-! The reading. -/

theorem units_some_of_not_mem {p : Pending} {b : UInt8} (outside : ¬ (p.low ≤ b ∧ b ≤ p.high))
    (bs : List UInt8) : units (some p) (b :: bs) = none :: units none (b :: bs) := by
  simp only [units, if_neg outside]
  cases lead b <;> rfl

/-- A stretch is read as one. -/
theorem IsStretch.units_eq {bad bs : List UInt8} (h : IsStretch bad bs) :
    units none (bad ++ bs) = none :: units none bs := by
  by_cases begins : Begins bad
  · obtain ⟨c, front⟩ := begins
    have part : bad ≠ String.utf8EncodeChar c := by
      intro whole
      exact h.unread c (whole ▸ List.prefix_append _ _)
    obtain ⟨p, opens⟩ := exists_opens front h.ne_nil part
    rw [opens.read]
    cases bs with
    | nil => rfl
    | cons b bs =>
        refine units_some_of_not_mem ?_ bs
        intro inside
        have longer := h.longest (bad ++ [b]) (by simp) (opens.more b inside.1 inside.2)
        simp at longer
  · obtain ⟨b, rfl⟩ := List.length_eq_one_iff.mp (h.begins.resolve_left begins)
    rw [List.singleton_append, units, lead_of_not_begins begins]

theorem Spells.eq_units {bs : List UInt8} {cs : List Char} (h : Spells bs cs) :
    cs = (units none bs).map (·.getD '\uFFFD') := by
  induction h with
  | nil => rfl
  | char c rest ih => rw [units_utf8EncodeChar, List.map_cons, ← ih, Option.getD_some]
  | stretch stretch rest ih => rw [stretch.units_eq, List.map_cons, ← ih, Option.getD_none]

/-- Where no character stands, there is a stretch. -/
theorem exists_isStretch {b : UInt8} {bs : List UInt8}
    (unread : ∀ c : Char, ¬ String.utf8EncodeChar c <+: b :: bs) :
    ∃ bad back, b :: bs = bad ++ back ∧ IsStretch bad back := by
  classical
  let whole := b :: bs
  -- No octets at all begin a character, so zero here says that not even `b` does.
  let most := Nat.findGreatest (fun n => Begins (whole.take n)) whole.length
  have longest (front : List UInt8) (stands : front <+: whole) (begins : Begins front) :
      front.length ≤ most := by
    refine Nat.le_findGreatest stands.length_le ?_
    rwa [← List.prefix_iff_eq_take.mp stands]
  by_cases some : most = 0
  · refine ⟨[b], bs, rfl, unread, .inr rfl, ?_, List.cons_ne_nil _ _⟩
    intro front stands begins
    have none := longest front stands begins
    omega
  · have begins : Begins (whole.take most) := Nat.findGreatest_of_ne_zero rfl some
    have split : whole = whole.take most ++ whole.drop most := (List.take_append_drop _ _).symm
    have length : (whole.take most).length = most :=
      List.length_take_of_le (Nat.findGreatest_le _)
    refine ⟨whole.take most, whole.drop most, split, ?_, .inl begins, ?_, ?_⟩
    · rwa [← split]
    · rw [← split, length]
      exact longest
    · intro empty
      rw [empty] at length
      exact some length.symm

theorem exists_spells (bs : List UInt8) : ∃ cs, Spells bs cs := by
  induction h : bs.length using Nat.strong_induction_on generalizing bs with
  | _ n ih =>
      subst h
      cases bs with
      | nil => exact ⟨[], .nil⟩
      | cons b bs =>
          by_cases whole : ∃ c : Char, String.utf8EncodeChar c <+: b :: bs
          · obtain ⟨c, back, same⟩ := whole
            have some := List.length_pos_iff.mpr (String.utf8EncodeChar_ne_nil (c := c))
            rw [← same, List.length_append] at ih
            obtain ⟨cs, rest⟩ := ih back.length (by omega) back rfl
            rw [← same]
            exact ⟨_, .char c rest⟩
          · obtain ⟨bad, back, same, stretch⟩ := exists_isStretch (not_exists.mp whole)
            have some := List.length_pos_iff.mpr stretch.ne_nil
            rw [same, List.length_append] at ih
            obtain ⟨cs, rest⟩ := ih back.length (by omega) back rfl
            rw [same]
            exact ⟨_, .stretch stretch rest⟩

theorem spells_iff {bs : List UInt8} {cs : List Char} :
    Spells bs cs ↔ cs = (units none bs).map (·.getD '\uFFFD') := by
  refine ⟨Spells.eq_units, ?_⟩
  intro read
  obtain ⟨cs', spells⟩ := exists_spells bs
  rwa [read, ← spells.eq_units]

theorem spells_octets (cs : List Char) : Spells (octets cs) cs := by
  induction cs with
  | nil => exact .nil
  | cons c cs ih => exact .char c ih

end ChequeTeller.Text.Utf8
