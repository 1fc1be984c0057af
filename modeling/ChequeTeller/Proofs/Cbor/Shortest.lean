import ChequeTeller.Proofs.Cbor.Heads

/-!
The shortest heads. Of all heads with one argument the one that is written has the fewest octets,
and no other has as few.
-/

namespace ChequeTeller.Cbor

/-- A head in the fewest octets that hold its argument. -/
structure ShortestHead (major n : Nat) (h : List UInt8) : Prop where
  head : Head major n h
  least : ∀ h', Head major n h' → h.length ≤ h'.length

/-- The written head takes the first width that holds the argument. -/
theorem header_cases (major : Nat) (n : UInt64) :
    (n.toNat ≤ 0x17 ∧ header major n = [UInt8.ofNat (major * 32 + n.toNat)]) ∨
    ∃ k < 4, n.toNat < 256 ^ 2 ^ k ∧ 0x17 < n.toNat ∧ (∀ j < k, 256 ^ 2 ^ j ≤ n.toNat) ∧
      header major n = UInt8.ofNat (major * 32 + (0x18 + k)) :: octets (2 ^ k) n.toNat := by
  have bound : n.toNat < 2 ^ 64 := n.toNat_lt
  unfold header
  simp only [UInt8.size, UInt16.size, UInt32.size]
  by_cases inline : n.toNat ≤ 0x17
  · exact .inl ⟨inline, if_pos inline⟩
  · rw [if_neg inline]
    refine .inr ?_
    by_cases one : n.toNat < 256
    · refine ⟨0, by decide, one, by omega, nofun, ?_⟩
      rw [if_pos one]
      rfl
    · rw [if_neg one]
      by_cases two : n.toNat < 65536
      · refine ⟨1, by decide, two, by omega, ?_, ?_⟩
        · intro j hj
          interval_cases j
          omega
        · rw [if_pos two]
          rfl
      · rw [if_neg two]
        by_cases four : n.toNat < 4294967296
        · refine ⟨2, by decide, four, by omega, ?_, ?_⟩
          · intro j hj
            interval_cases j <;> omega
          · rw [if_pos four]
            rfl
        · rw [if_neg four]
          refine ⟨3, by decide, bound, by omega, ?_, rfl⟩
          intro j hj
          interval_cases j <;> omega

variable {major : Nat} {n : UInt64} {h : List UInt8}

theorem head_header (major : Nat) (n : UInt64) : Head major n.toNat (header major n) := by
  obtain ⟨small, written⟩ | ⟨k, known, fits, _, _, written⟩ := header_cases major n
  · rw [written]
    exact .inline small
  · rw [written]
    exact .wide k known fits

/-- Any other head of the argument is longer. -/
theorem Head.eq_header_or_lt (head : Head major n.toNat h) :
    h = header major n ∨ (header major n).length < h.length := by
  obtain ⟨small, written⟩ | ⟨k, known, fits, large, narrower, written⟩ := header_cases major n
  · rw [written]
    cases head with
    | inline _ => exact .inl rfl
    | wide j _ _ =>
        refine .inr ?_
        have width : 0 < 2 ^ j := Nat.two_pow_pos j
        simp only [List.length_cons, List.length_nil, length_octets]
        omega
  · rw [written]
    cases head with
    | inline small => omega
    | wide j _ fits' =>
        obtain below | rfl | above := Nat.lt_trichotomy j k
        · have := narrower j below
          omega
        · exact .inl rfl
        · refine .inr ?_
          have widths : 2 ^ k < 2 ^ j := Nat.pow_lt_pow_right (by decide) above
          simp only [List.length_cons, length_octets]
          omega

theorem Head.length_header_le (head : Head major n.toNat h) :
    (header major n).length ≤ h.length := by
  obtain rfl | longer := head.eq_header_or_lt
  · exact Nat.le_refl _
  · exact Nat.le_of_lt longer

theorem Head.eq_header (head : Head major n.toNat h)
    (short : h.length ≤ (header major n).length) : h = header major n := by
  obtain same | longer := head.eq_header_or_lt
  · exact same
  · exact absurd short (Nat.not_le.mpr longer)

theorem shortestHead_iff : ShortestHead major n.toNat h ↔ h = header major n := by
  refine ⟨?_, ?_⟩
  · intro shortest
    exact shortest.head.eq_header (shortest.least _ (head_header major n))
  · intro given
    obtain rfl := given
    exact ⟨head_header major n, fun _ head => head.length_header_le⟩

end ChequeTeller.Cbor
