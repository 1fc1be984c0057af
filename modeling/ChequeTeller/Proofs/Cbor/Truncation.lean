import ChequeTeller.Proofs.Cbor.Heads

/-!
Octets that end too soon. Before a proper front of an item's octets its reader finds the end of the
input, wherever the front is cut, and no other fault. What is said of an item of another kind is
left apart.
-/

namespace ChequeTeller.Cbor

/-- A front that something of the whole is missing from. -/
def ProperFront (front whole : List UInt8) : Prop :=
  ∃ back, back ≠ [] ∧ front ++ back = whole

namespace ProperFront

variable {front whole first second : List UInt8} {b : UInt8}

theorem length_lt (h : ProperFront front whole) : front.length < whole.length := by
  obtain ⟨back, missing, rfl⟩ := h
  have := List.length_pos_iff.mpr missing
  rw [List.length_append]
  omega

/-- Of two parts the front is cut within the first one, or it holds that and is cut within the
second one. -/
theorem append_iff : ProperFront front (first ++ second) ↔
    ProperFront front first ∨ ∃ held, front = first ++ held ∧ ProperFront held second := by
  refine ⟨?_, ?_⟩
  · rintro ⟨back, missing, same⟩
    rcases List.append_eq_append_iff.mp same with ⟨more, rfl, rfl⟩ | ⟨held, rfl, rfl⟩
    · by_cases none : more = []
      · subst none
        exact .inr ⟨[], by simp, second, by simpa using missing, rfl⟩
      · exact .inl ⟨more, none, rfl⟩
    · exact .inr ⟨held, rfl, back, missing, rfl⟩
  · rintro (⟨back, missing, rfl⟩ | ⟨held, rfl, back, missing, rfl⟩)
    · exact ⟨back ++ second, by simp [missing], by simp⟩
    · exact ⟨back, missing, by simp⟩

theorem not_nil : ¬ ProperFront front [] := by
  intro h
  cases h.length_lt

theorem cons_iff : ProperFront front (b :: whole) ↔
    front = [] ∨ ∃ held, front = b :: held ∧ ProperFront held whole := by
  rw [← List.singleton_append, append_iff]
  refine or_congr_left ⟨?_, ?_⟩
  · intro h
    exact List.eq_nil_of_length_eq_zero (Nat.lt_one_iff.mp h.length_lt)
  · rintro rfl
    exact ⟨[b], by simp, rfl⟩

end ProperFront

variable {c : Cursor} {octets : List UInt8} {major n : Nat}

theorem take_eq_endOfInput {count : Nat} (short : c.rest.length < count) :
    take count c = .error .endOfInput := by
  rw [take, if_pos short]

theorem first_eq_endOfInput (ended : c.rest = []) : first c = .error .endOfInput := by
  rw [first, ended]

theorem first_of_rest {b : UInt8} {rest : List UInt8} (ahead : c.rest = b :: rest) :
    first c = .ok (b, ⟨c.position + 1, rest⟩) := by
  rw [first, ahead]

/-- A head is a first octet, of the major type, with the octets of its argument. A front that holds
the first octet alone tells how many octets it lacks. -/
theorem Head.cut (head : Head major n octets) (known : major < 8)
    (cut : ProperFront c.rest octets) :
    c.rest = [] ∨ ∃ b next, first c = .ok (b, next) ∧ b.toNat / 32 = major ∧ b.toNat % 32 ≤ 0x1B ∧
      ∀ position, number (b.toNat % 32) position next = .error .endOfInput := by
  cases head with
  | inline small =>
      rcases ProperFront.cons_iff.mp cut with ended | ⟨held, -, cut⟩
      · exact .inl ended
      · exact absurd cut ProperFront.not_nil
  | wide k hk fits =>
      rcases ProperFront.cons_iff.mp cut with ended | ⟨held, ahead, cut⟩
      · exact .inl ended
      · obtain ⟨hm, hi⟩ := (firstOctet_iff known (show 0x18 + k < 32 by omega)).mpr rfl
        have short : held.length < 2 ^ k := by simpa using cut.length_lt
        refine .inr ⟨_, _, first_of_rest ahead, hm, by omega, ?_⟩
        intro position
        rw [hi, number, argument_wide hk]
        dsimp only
        rw [take_eq_endOfInput short]
        rfl

theorem word_cut (head : Head 0 n octets) (cut : ProperFront c.rest octets) :
    word c = .error .endOfInput := by
  rcases head.cut (by decide) cut with ended | ⟨b, next, lead, hm, hi, number⟩
  · rw [word, first_eq_endOfInput ended]
    rfl
  · have low : b.toNat ≤ 0x1B := by omega
    have info : b.toNat % 32 = b.toNat := by omega
    rw [info] at number
    rw [word, lead]
    exact (if_pos low).trans (number c.position)

theorem array_eq_endOfInput (ended : c.rest = []) : array c = .error .endOfInput := by
  rw [array, first_eq_endOfInput ended]
  rfl

theorem array_cut (head : Head 4 n octets) (cut : ProperFront c.rest octets) :
    array c = .error .endOfInput := by
  rcases head.cut (by decide) cut with ended | ⟨b, next, lead, hm, hi, number⟩
  · exact array_eq_endOfInput ended
  · have counted : b.toNat % 32 ≠ 31 := by omega
    rw [array, lead]
    change (if b.toNat / 32 ≠ 4 then _ else _) = _
    rw [if_neg (not_not.mpr hm), if_neg counted, number]
    rfl

/-- A string is cut within its head or within its octets. -/
theorem bytes_cut {string : List UInt8} (head : Head 2 string.length octets)
    (cut : ProperFront c.rest (octets ++ string)) : bytes c = .error .endOfInput := by
  rcases ProperFront.append_iff.mp cut with cut | ⟨held, ahead, cut⟩
  · rcases head.cut (by decide) cut with ended | ⟨b, next, lead, hm, hi, number⟩
    · rw [bytes, first_eq_endOfInput ended]
      rfl
    · have usable : ¬ (b.toNat / 32 ≠ 2 ∨ b.toNat % 32 = 31) := by omega
      rw [bytes, lead]
      change (if b.toNat / 32 ≠ 2 ∨ b.toNat % 32 = 31 then _ else _) = _
      rw [if_neg usable, number]
      rfl
  · have start : c.Passes octets ⟨c.position + octets.length, held⟩ := ⟨ahead, rfl⟩
    rw [bytes_of_head head start]
    exact take_eq_endOfInput cut.length_lt

end ChequeTeller.Cbor
