import ChequeTeller.Proofs.Cbor.Numerals
import ChequeTeller.Proofs.Steps
import Mathlib.Tactic.IntervalCases

/-!
The grammar of the items that the readers take. `Head` gives the first octets of an item in every
width that holds its argument, and each reader succeeds exactly on the octets of its item, passing
those and no more. Which fault an ill-formed item is refused with is left apart.
-/

namespace ChequeTeller.Cbor

open Steps

/-- The first octets of an item of the major type `major` whose argument is `n`. -/
inductive Head (major n : Nat) : List UInt8 → Prop
  | inline (small : n ≤ 0x17) : Head major n [UInt8.ofNat (major * 32 + n)]
  | wide (k : Nat) (known : k < 4) (fits : n < 256 ^ 2 ^ k) :
      Head major n (UInt8.ofNat (major * 32 + (0x18 + k)) :: octets (2 ^ k) n)

/-- From `c` to `c'` there are exactly these octets. -/
def Cursor.Passes (c : Cursor) (bytes : List UInt8) (c' : Cursor) : Prop :=
  c.rest = bytes ++ c'.rest ∧ c'.position = c.position + bytes.length

namespace Cursor.Passes

variable {c c' c'' : Cursor} {front back : List UInt8}

theorem trans (h : c.Passes front c') (h' : c'.Passes back c'') :
    c.Passes (front ++ back) c'' := by
  refine ⟨?_, ?_⟩
  · rw [h.1, h'.1, List.append_assoc]
  · rw [h'.2, h.2, List.length_append, Nat.add_assoc]

theorem append_iff :
    c.Passes (front ++ back) c'' ↔ ∃ c', c.Passes front c' ∧ c'.Passes back c'' := by
  refine ⟨?_, ?_⟩
  · intro given
    obtain ⟨rest, position⟩ := given
    refine ⟨⟨c.position + front.length, back ++ c''.rest⟩, ⟨?_, rfl⟩, rfl, ?_⟩
    · rw [rest, List.append_assoc]
    · rw [position, List.length_append, Nat.add_assoc]
  · intro given
    obtain ⟨c', h, h'⟩ := given
    exact h.trans h'

theorem cons_iff {b : UInt8} :
    c.Passes (b :: back) c'' ↔ ∃ c', c.Passes [b] c' ∧ c'.Passes back c'' := by
  rw [← append_iff, List.singleton_append]

theorem nil_iff : c.Passes [] c' ↔ c' = c := by
  obtain ⟨position, rest⟩ := c
  obtain ⟨position', rest'⟩ := c'
  simp [Cursor.Passes, and_comm, eq_comm]

end Cursor.Passes

variable {c c' : Cursor}

theorem take_eq_ok_iff {count : Nat} {bytes : List UInt8} :
    take count c = .ok (bytes, c') ↔ bytes.length = count ∧ c.Passes bytes c' := by
  obtain ⟨position, rest⟩ := c
  obtain ⟨position', rest'⟩ := c'
  unfold take Cursor.Passes
  dsimp only
  refine ⟨?_, ?_⟩
  · intro h
    split at h
    · cases h
    · rename_i enough
      simp only [Except.ok.injEq, Prod.mk.injEq, Cursor.mk.injEq] at h
      obtain ⟨rfl, rfl, rfl⟩ := h
      simp only [List.length_take, List.take_append_drop, true_and]
      exact ⟨by omega, by omega⟩
  · intro given
    obtain ⟨rfl, rfl, rfl⟩ := given
    simp

theorem first_eq_ok_iff {b : UInt8} : first c = .ok (b, c') ↔ c.Passes [b] c' := by
  obtain ⟨position, rest⟩ := c
  obtain ⟨position', rest'⟩ := c'
  cases rest with
  | nil => simp [first, Cursor.Passes]
  | cons a rest => simp [first, Cursor.Passes, and_assoc, and_comm, eq_comm]

theorem argument_inline {info : Nat} (small : info ≤ 0x17) : argument info = .inline info := by
  simp [argument, small]

theorem argument_wide {k : Nat} (known : k < 4) : argument (0x18 + k) = .following (2 ^ k) := by
  interval_cases k <;> rfl

theorem wide_bound {k : Nat} (known : k < 4) : 256 ^ 2 ^ k ≤ 2 ^ 64 := by
  interval_cases k <;> decide

theorem argument_cases (info : Nat) :
    info ≤ 0x17 ∨ (∃ k < 4, info = 0x18 + k) ∨ argument info = .unusable := by
  by_cases h : info ≤ 0x1B
  · by_cases small : info ≤ 0x17
    · exact .inl small
    · exact .inr (.inl ⟨info - 0x18, by omega, by omega⟩)
  · refine .inr (.inr ?_)
    simp [argument, show ¬ info ≤ 0x17 by omega, show info ≠ 0x18 by omega,
      show info ≠ 0x19 by omega, show info ≠ 0x1A by omega, show info ≠ 0x1B by omega]

variable {position : Nat} {n : UInt64}

theorem number_inline_eq_ok_iff {info : Nat} (small : info ≤ 0x17) :
    number info position c = .ok (n, c') ↔ info = n.toNat ∧ c.Passes [] c' := by
  have value : (UInt64.ofNat info).toNat = info := UInt64.toNat_ofNat_of_lt (by
    change info < 2 ^ 64
    omega)
  simp only [number, argument_inline small, Except.ok.injEq, Prod.mk.injEq,
    Cursor.Passes.nil_iff]
  refine ⟨?_, ?_⟩
  · intro given
    obtain ⟨rfl, rfl⟩ := given
    exact ⟨value.symm, rfl⟩
  · intro given
    obtain ⟨rfl, rfl⟩ := given
    exact ⟨UInt64.ofNat_toNat, rfl⟩

theorem number_wide_eq_ok_iff {k : Nat} (known : k < 4) :
    number (0x18 + k) position c = .ok (n, c') ↔
      n.toNat < 256 ^ 2 ^ k ∧ c.Passes (octets (2 ^ k) n.toNat) c' := by
  simp only [number, argument_wide known, bind_eq_ok_iff, take_eq_ok_iff, Prod.exists,
    pure_eq_ok_iff, Prod.mk.injEq]
  refine ⟨?_, ?_⟩
  · intro given
    obtain ⟨bytes, c', ⟨length, passes⟩, rfl, rfl⟩ := given
    have below : bigEndian 0 bytes < 256 ^ 2 ^ k := length ▸ bigEndian_lt bytes
    have value : (UInt64.ofNat (bigEndian 0 bytes)).toNat = bigEndian 0 bytes :=
      UInt64.toNat_ofNat_of_lt (Nat.lt_of_lt_of_le below (wide_bound known))
    rw [value, ← length, octets_bigEndian]
    exact ⟨bigEndian_lt bytes, passes⟩
  · intro given
    obtain ⟨fits, passes⟩ := given
    refine ⟨_, c', ⟨length_octets .., passes⟩, ?_, rfl⟩
    rw [bigEndian_octets, Nat.mod_eq_of_lt fits, UInt64.ofNat_toNat]

theorem number_eq_ok_iff {info : Nat} :
    number info position c = .ok (n, c') ↔
      (info = n.toNat ∧ n.toNat ≤ 0x17 ∧ c.Passes [] c') ∨
      ∃ k < 4, info = 0x18 + k ∧ n.toNat < 256 ^ 2 ^ k ∧ c.Passes (octets (2 ^ k) n.toNat) c' := by
  refine ⟨?_, ?_⟩
  · intro h
    obtain small | ⟨k, known, rfl⟩ | unusable := argument_cases info
    · obtain ⟨rfl, passes⟩ := (number_inline_eq_ok_iff small).mp h
      exact .inl ⟨rfl, small, passes⟩
    · exact .inr ⟨k, known, rfl, (number_wide_eq_ok_iff known).mp h⟩
    · simp only [number, unusable] at h
      cases h
  · intro given
    obtain ⟨rfl, small, passes⟩ | ⟨k, known, rfl, wide⟩ := given
    · exact (number_inline_eq_ok_iff small).mpr ⟨rfl, passes⟩
    · exact (number_wide_eq_ok_iff known).mpr wide

theorem firstOctet_iff {major info : Nat} (hm : major < 8) (hi : info < 32) {b : UInt8} :
    b.toNat / 32 = major ∧ b.toNat % 32 = info ↔ b = UInt8.ofNat (major * 32 + info) := by
  have value : (UInt8.ofNat (major * 32 + info)).toNat = major * 32 + info :=
    UInt8.toNat_ofNat_of_lt (by
      change _ < 256
      omega)
  rw [← UInt8.toNat_inj, value]
  omega

/-- The first octet of an item gives its major type, and with the number after it the head. -/
theorem head_iff {major : Nat} (position : Nat) (known : major < 8) :
    (∃ b next, c.Passes [b] next ∧ b.toNat / 32 = major ∧
        number (b.toNat % 32) position next = .ok (n, c')) ↔
      ∃ h, Head major n.toNat h ∧ c.Passes h c' := by
  simp only [number_eq_ok_iff]
  refine ⟨?_, ?_⟩
  · intro given
    obtain ⟨b, next, passes, hm, ⟨hi, small, rest⟩ | ⟨k, hk, hi, fits, rest⟩⟩ := given
    · obtain rfl := (firstOctet_iff known (by omega)).mp ⟨hm, hi⟩
      exact ⟨_, .inline small, passes.trans rest⟩
    · obtain rfl := (firstOctet_iff known (by omega)).mp ⟨hm, hi⟩
      exact ⟨_, .wide k hk fits, passes.trans rest⟩
  · intro given
    obtain ⟨h, head, passes⟩ := given
    cases head with
    | inline small =>
        obtain ⟨next, lead, rest⟩ := Cursor.Passes.cons_iff.mp passes
        obtain ⟨hm, hi⟩ := (firstOctet_iff known (show n.toNat < 32 by omega)).mpr rfl
        exact ⟨_, next, lead, hm, .inl ⟨hi, small, rest⟩⟩
    | wide k hk fits =>
        obtain ⟨next, lead, rest⟩ := Cursor.Passes.cons_iff.mp passes
        obtain ⟨hm, hi⟩ := (firstOctet_iff known (show 0x18 + k < 32 by omega)).mpr rfl
        exact ⟨_, next, lead, hm, .inr ⟨k, hk, hi, fits, rest⟩⟩

theorem refuse_ne_ok {α : Type} {b : UInt8} {wanted : Wanted} {a : α} :
    refuse b position wanted c ≠ .ok a := by
  intro h
  obtain ⟨_, _, h⟩ := bind_eq_ok_iff.mp h
  cases h

theorem word_eq_ok_iff :
    word c = .ok (n, c') ↔ ∃ h, Head 0 n.toNat h ∧ c.Passes h c' := by
  rw [← head_iff c.position (by decide)]
  simp only [word, bind_eq_ok_iff, Prod.exists, first_eq_ok_iff]
  refine ⟨?_, ?_⟩
  · intro given
    obtain ⟨b, next, passes, h⟩ := given
    split at h
    · rename_i low
      refine ⟨b, next, passes, by omega, ?_⟩
      rw [Nat.mod_eq_of_lt (by omega)]
      exact h
    · exact absurd h refuse_ne_ok
  · intro given
    obtain ⟨b, next, passes, hm, h⟩ := given
    rw [Nat.mod_eq_of_lt (by omega)] at h
    have low : b.toNat ≤ 0x1B := by
      obtain ⟨_, _, _⟩ | ⟨k, _, _, _⟩ := number_eq_ok_iff.mp h <;> omega
    exact ⟨b, next, passes, by rw [if_pos low]; exact h⟩

/-- After the head of a string its octets are taken. -/
theorem bytes_of_head {length : Nat} {h : List UInt8} {next : Cursor} (head : Head 2 length h)
    (start : c.Passes h next) : bytes c = take length next := by
  have small : length < 2 ^ 64 := by
    cases head with
    | inline small => omega
    | wide k known fits => exact Nat.lt_of_lt_of_le fits (wide_bound known)
  have value : (UInt64.ofNat length).toNat = length := UInt64.toNat_ofNat_of_lt small
  rw [← value] at head
  obtain ⟨b, next', passes, hm, number⟩ := (head_iff c.position (by decide)).mpr ⟨h, head, start⟩
  have usable : ¬ (b.toNat / 32 ≠ 2 ∨ b.toNat % 32 = 31) := by
    obtain ⟨_, _, _⟩ | ⟨k, _, _, _⟩ := number_eq_ok_iff.mp number <;> omega
  rw [bytes, first_eq_ok_iff.mpr passes]
  change (if b.toNat / 32 ≠ 2 ∨ b.toNat % 32 = 31 then _ else _) = _
  rw [if_neg usable, number]
  change take (UInt64.ofNat length).toNat next = _
  rw [value]

theorem bytes_eq_ok_iff {string : List UInt8} :
    bytes c = .ok (string, c') ↔ ∃ h, Head 2 string.length h ∧ c.Passes (h ++ string) c' := by
  refine ⟨?_, ?_⟩
  · intro given
    simp only [bytes, bind_eq_ok_iff, Prod.exists, first_eq_ok_iff] at given
    obtain ⟨b, next, passes, h⟩ := given
    split at h
    · exact absurd h refuse_ne_ok
    · rename_i usable
      simp only [not_or, not_not] at usable
      simp only [bind_eq_ok_iff, Prod.exists, take_eq_ok_iff] at h
      obtain ⟨n, next', number, length, rest⟩ := h
      obtain ⟨h, head, start⟩ := (head_iff _ (by decide)).mp ⟨b, next, passes, usable.1, number⟩
      rw [← length] at head
      exact ⟨h, head, start.trans rest⟩
  · intro given
    obtain ⟨h, head, passes⟩ := given
    obtain ⟨next, start, rest⟩ := Cursor.Passes.append_iff.mp passes
    rw [bytes_of_head head start]
    exact take_eq_ok_iff.mpr ⟨rfl, rest⟩

theorem array_eq_ok_some_iff :
    array c = .ok (some n, c') ↔ ∃ h, Head 4 n.toNat h ∧ c.Passes h c' := by
  rw [← head_iff c.position (by decide)]
  simp only [array, bind_eq_ok_iff, Prod.exists, first_eq_ok_iff]
  refine ⟨?_, ?_⟩
  · intro given
    obtain ⟨b, next, passes, h⟩ := given
    split at h
    · exact absurd h refuse_ne_ok
    · rename_i hm
      split at h
      · cases h
      · simp only [bind_eq_ok_iff, Prod.exists, pure_eq_ok_iff, Prod.mk.injEq,
          Option.some.injEq] at h
        obtain ⟨_, _, number, rfl, rfl⟩ := h
        exact ⟨b, next, passes, not_not.mp hm, number⟩
  · intro given
    obtain ⟨b, next, passes, hm, number⟩ := given
    have counted : b.toNat % 32 ≠ 31 := by
      obtain ⟨_, _, _⟩ | ⟨k, _, _, _⟩ := number_eq_ok_iff.mp number <;> omega
    refine ⟨b, next, passes, ?_⟩
    simp only [hm, ne_eq, not_true_eq_false, if_false, counted, bind_eq_ok_iff, Prod.exists,
      pure_eq_ok_iff, Prod.mk.injEq, Option.some.injEq]
    exact ⟨n, c', number, rfl, rfl⟩

theorem array_eq_ok_none_iff : array c = .ok (none, c') ↔ c.Passes [0x9F] c' := by
  simp only [array, bind_eq_ok_iff, Prod.exists, first_eq_ok_iff]
  refine ⟨?_, ?_⟩
  · intro given
    obtain ⟨b, next, passes, h⟩ := given
    split at h
    · exact absurd h refuse_ne_ok
    · split at h
      · simp only [pure_eq_ok_iff, Prod.mk.injEq, true_and] at h
        subst h
        have lead : b = 0x9F := UInt8.toNat_inj.mp (by
          change b.toNat = 159
          omega)
        exact lead ▸ passes
      · simp only [bind_eq_ok_iff, pure_eq_ok_iff, Prod.mk.injEq, reduceCtorEq, false_and,
          and_false, exists_false] at h
  · intro passes
    exact ⟨0x9F, c', passes, rfl⟩

theorem itemType?_eq_breakOff_iff {b : UInt8} {ahead : Option UInt8} :
    itemType? b ahead = .ok .breakOff ↔ b = 0xFF := by
  refine ⟨?_, ?_⟩
  · intro h
    have last : b.toNat = 0xFF := by
      cases ahead with
      | none | some _ =>
          simp only [itemType?, ite_eq_iff, Except.ok.injEq, reduceCtorEq, and_false, false_or,
            and_true, or_false] at h
          omega
    exact UInt8.toNat_inj.mp last
  · intro given
    obtain rfl := given
    rfl

theorem peek_eq_breakOff_iff : peek c = .ok .breakOff ↔ ∃ rest, c.rest = 0xFF :: rest := by
  obtain ⟨position, rest⟩ := c
  cases rest with
  | nil => simp [peek]
  | cons b rest => simp [peek, itemType?_eq_breakOff_iff]

end ChequeTeller.Cbor
