import ChequeTeller.Cheque.Verification
import ChequeTeller.Proofs.Cheque.Grammar
import Mathlib.Data.List.Infix

/-!
Which tags one signed message can be redeemed under. Tag and body are signed with nothing between
them, so the message may be cut wherever its end is a body. All cuts agree on the tail of the body
and so on the lock, but not on the tag: the argument of a number may open the array over again,
and this is the only way to come to a second tag.
-/

namespace ChequeTeller.Cheque

open Body
open Cbor (Head)

/-- There is a cheque with this signature that has it cover `message` under `tag` and carries
`b`. Whether the signature holds depends on the message and the key alone. -/
def Covers (signature : Signature) (message : List UInt8) (tag : Tag) (b : Body) : Prop :=
  ∃ f : Frame, f.signature = signature ∧ f.message tag = message ∧ Body.decode f.body = .ok b

/-- Preambles in which a number opens the array over again: from some octet of the number's
argument on, what is left is a preamble of the same form. -/
inductive Reopens (form : Form) : List UInt8 → Prop
  | intro {h x y z q : List UInt8} {index amount timeout index' amount' timeout' : UInt64}
      (opens : form.Opens h) (hx : Head 0 index.toNat x) (hy : Head 0 amount.toNat y)
      (hz : Head 0 timeout.toNat z)
      (inside : (∃ d, d <:+ x.tail ∧ q = d ++ (y ++ z)) ∨ (∃ d, d <:+ y.tail ∧ q = d ++ z) ∨
        q <:+ z.tail)
      (again : Preamble form index' amount' timeout' q) : Reopens form (h ++ (x ++ (y ++ z)))

variable {signature : Signature} {message : List UInt8} {tag tag' : Tag} {b b' : Body}

theorem covers_iff :
    Covers signature message tag b ↔ ∃ form p t, Preamble form b.index b.amount b.timeout p ∧
      Tail form b.lock t ∧ message = tag.bytes ++ (p ++ t) := by
  simp only [Covers, decode_eq_ok_iff]
  refine ⟨?_, ?_⟩
  · intro given
    obtain ⟨f, _, rfl, form, p, t, hp, ht, body⟩ := given
    exact ⟨form, p, t, hp, ht, congrArg (tag.bytes ++ ·) body⟩
  · intro given
    obtain ⟨form, p, t, hp, ht, rfl⟩ := given
    exact ⟨.assemble (p ++ t) signature, rfl, rfl, form, p, t, hp, ht, rfl⟩

/-! The tail. The length before the lock is 32 in one of four widths. -/

/-- The octets before the last of a lock's header. -/
def lockWidths : List (List UInt8) :=
  [[0x58], [0x59, 0], [0x5A, 0, 0, 0], [0x5B, 0, 0, 0, 0, 0, 0, 0]]

theorem lockHeader_cases {s : List UInt8} (hs : Head 2 32 s) :
    ∃ w ∈ lockWidths, s = w ++ [0x20] := by
  cases hs with
  | inline small => omega
  | wide k known fits =>
      refine ⟨UInt8.ofNat (2 * 32 + (0x18 + k)) :: Cbor.octets (2 ^ k - 1) 0, ?_, ?_⟩
      · interval_cases k <;> decide
      · interval_cases k <;> rfl

theorem lockWidths_suffix_free : ∀ w ∈ lockWidths, ∀ w' ∈ lockWidths, w <:+ w' → w = w' := by
  decide

theorem lockWidths_last {w : List UInt8} (hw : w ∈ lockWidths) (front : List UInt8) :
    (front ++ w).getLast? ≠ some 0x20 := by
  simp only [lockWidths, List.mem_cons, List.not_mem_nil, or_false] at hw
  obtain rfl | rfl | rfl | rfl := hw <;> simp

theorem lockHeader_unique {front front' s s' : List UInt8} (hs : Head 2 32 s) (hs' : Head 2 32 s')
    (same : front ++ s = front' ++ s') : s = s' := by
  obtain ⟨w, hw, rfl⟩ := lockHeader_cases hs
  obtain ⟨w', hw', rfl⟩ := lockHeader_cases hs'
  simp only [← List.append_assoc] at same
  obtain ⟨same, _⟩ := List.append_inj' same rfl
  have ends : w <:+ front' ++ w' := ⟨front, same⟩
  obtain h | h := List.suffix_or_suffix_of_suffix ends (List.suffix_append front' w')
  · rw [lockWidths_suffix_free w hw w' hw' h]
  · rw [lockWidths_suffix_free w' hw' w hw h]

/-- A lock that a break follows stands one octet further from the end than one without, where the
other's header has its length. -/
theorem forms_differ {front front' s s' : List UInt8} {lock lock' : Lock} (hs : Head 2 32 s)
    (hs' : Head 2 32 s') :
    front ++ (s ++ (lock.bytes ++ [])) ≠ front' ++ (s' ++ (lock'.bytes ++ [0xFF])) := by
  intro same
  obtain ⟨w, hw, rfl⟩ := lockHeader_cases hs
  obtain ⟨w', hw', rfl⟩ := lockHeader_cases hs'
  have same : (front ++ w) ++ (0x20 :: lock.bytes) =
      (front' ++ w' ++ [0x20]) ++ (lock'.bytes ++ [0xFF]) := by
    simpa using same
  obtain ⟨same, _⟩ := List.append_inj' same (by simp [length_lock])
  exact lockWidths_last hw front (by simp [same])

theorem tail_unique {form form' : Form} {front front' t t' : List UInt8} {lock lock' : Lock}
    (ht : Tail form lock t) (ht' : Tail form' lock' t') (same : front ++ t = front' ++ t') :
    form = form' ∧ lock = lock' ∧ front = front' ∧ t = t' := by
  obtain @⟨s, hs⟩ := ht
  obtain @⟨s', hs'⟩ := ht'
  have forms : form = form' := by
    cases form <;> cases form'
    · rfl
    · exact absurd same (forms_differ hs hs')
    · exact absurd same.symm (forms_differ hs' hs)
    · rfl
  subst forms
  simp only [← List.append_assoc] at same
  have unclosed := List.append_cancel_right same
  obtain ⟨fronts, locks⟩ := List.append_inj' unclosed (by simp only [length_lock])
  obtain rfl := lockHeader_unique hs hs' fronts
  obtain rfl := Octets.ext locks
  exact ⟨rfl, rfl, List.append_cancel_right fronts, rfl⟩

/-! Preambles that end in a shorter one. An octet that opens an array is too large for the first
octet of a number, so the shorter one starts inside of a number. -/

theorem suffix_append_cases {q front back : List UInt8} (h : q <:+ front ++ back) :
    (∃ d, d <:+ front ∧ q = d ++ back) ∨ q <:+ back := by
  obtain h' | ⟨d, rfl⟩ := List.suffix_or_suffix_of_suffix h (List.suffix_append front back)
  · exact .inr h'
  · exact .inl ⟨d, List.suffix_append_self_iff.mp h, rfl⟩

theorem opens_lead {form : Form} {h : List UInt8} (opens : form.Opens h) :
    ∃ o args, h = o :: args ∧ 0x80 ≤ o.toNat ∧ ∀ a ∈ args, a.toNat < 0x80 := by
  cases form with
  | counted =>
      cases opens with
      | inline small => exact ⟨_, _, rfl, by decide, List.forall_mem_nil _⟩
      | wide k known fits =>
          refine ⟨_, _, rfl, ?_, ?_⟩
          · interval_cases k <;> decide
          · interval_cases k <;> simp [Cbor.octets]
  | broken =>
      obtain rfl : h = [0x9F] := opens
      exact ⟨_, _, rfl, by decide, List.forall_mem_nil _⟩

theorem number_lead {n : Nat} {x : List UInt8} (hx : Head 0 n x) :
    ∃ o args, x = o :: args ∧ o.toNat < 0x80 := by
  cases hx with
  | inline small =>
      refine ⟨_, _, rfl, ?_⟩
      interval_cases n <;> decide
  | wide k known fits =>
      refine ⟨_, _, rfl, ?_⟩
      interval_cases k <;> decide

theorem preamble_lead {form : Form} {index amount timeout : UInt64} {q : List UInt8}
    (hq : Preamble form index amount timeout q) : ∃ o rest, q = o :: rest ∧ 0x80 ≤ o.toNat := by
  obtain ⟨opens, _, _, _⟩ := hq
  obtain ⟨o, args, rfl, high, _⟩ := opens_lead opens
  exact ⟨o, _, rfl, high⟩

theorem suffix_after_opening {form : Form} {h rest q : List UInt8} {o : UInt8}
    (opens : form.Opens h) (high : 0x80 ≤ o.toNat) (ends : o :: q <:+ h ++ rest)
    (proper : o :: q ≠ h ++ rest) : o :: q <:+ rest := by
  obtain ⟨lead, args, rfl, _, low⟩ := opens_lead opens
  obtain whole | ends := List.suffix_cons_iff.mp ends
  · exact absurd whole proper
  · obtain ⟨d, inside, same⟩ | ends := suffix_append_cases ends
    · cases d with
      | nil => exact same ▸ List.suffix_refl _
      | cons a d =>
          obtain rfl : o = a := (List.cons.inj same).1
          exact absurd (low o (inside.subset (List.mem_cons_self ..))) (Nat.not_lt.mpr high)
    · exact ends

theorem suffix_after_number {n : Nat} {x rest q : List UInt8} {o : UInt8} (hx : Head 0 n x)
    (high : 0x80 ≤ o.toNat) (ends : o :: q <:+ x ++ rest) :
    (∃ d, d <:+ x.tail ∧ o :: q = d ++ rest) ∨ o :: q <:+ rest := by
  obtain ⟨lead, args, rfl, low⟩ := number_lead hx
  obtain whole | ends := List.suffix_cons_iff.mp ends
  · obtain rfl : o = lead := (List.cons.inj whole).1
    exact absurd low (Nat.not_lt.mpr high)
  · exact suffix_append_cases ends

theorem reopens_iff {form : Form} {p : List UInt8} :
    Reopens form p ↔
      (∃ index amount timeout, Preamble form index amount timeout p) ∧
      ∃ q index amount timeout, Preamble form index amount timeout q ∧ q <:+ p ∧ q ≠ p := by
  refine ⟨?_, ?_⟩
  · intro given
    obtain @⟨h, x, y, z, q, index, amount, timeout, index', amount', timeout', opens, hx, hy, hz,
      inside, again⟩ := given
    refine ⟨⟨_, _, _, .intro opens hx hy hz⟩, q, _, _, _, again, ?_⟩
    have ends : q <:+ x ++ (y ++ z) := by
      obtain ⟨d, inside, rfl⟩ | ⟨d, inside, rfl⟩ | inside := inside
      · exact List.suffix_append_self_iff.mpr (inside.trans (List.tail_suffix x))
      · exact List.suffix_append_of_suffix
          (List.suffix_append_self_iff.mpr (inside.trans (List.tail_suffix y)))
      · exact List.suffix_append_of_suffix
          (List.suffix_append_of_suffix (inside.trans (List.tail_suffix z)))
    refine ⟨List.suffix_append_of_suffix ends, ?_⟩
    intro given
    obtain rfl := given
    obtain ⟨_, _, rfl, _, _⟩ := opens_lead opens
    have shorter := ends.length_le
    simp only [List.length_append, List.length_cons] at shorter
    omega
  · intro given
    obtain ⟨⟨index, amount, timeout, @⟨h, x, y, z, opens, hx, hy, hz⟩⟩, q, index', amount',
      timeout', again, ends, proper⟩ := given
    refine .intro opens hx hy hz ?_ again
    obtain ⟨o, rest, rfl, high⟩ := preamble_lead again
    obtain inside | ends :=
        suffix_after_number hx high (suffix_after_opening opens high ends proper)
    · exact .inl inside
    · obtain inside | ends := suffix_after_number hy high ends
      · exact .inr (.inl inside)
      · rw [← List.append_nil z] at ends
        obtain ⟨d, inside, same⟩ | ends := suffix_after_number hz high ends
        · rw [List.append_nil] at same
          exact .inr (.inr (same ▸ inside))
        · simp at ends

/-! The tags. -/

/-- The shorter preamble makes a cheque too, under a longer tag. -/
theorem two_tags_of_reopens (signature : Signature) {form : Form} {front p t : List UInt8}
    {lock : Lock} (reopens : Reopens form p) (ht : Tail form lock t)
    (whole : message = front ++ (p ++ t)) :
    ∃ tag tag' b b',
      Covers signature message tag b ∧ Covers signature message tag' b' ∧ tag ≠ tag' := by
  obtain ⟨⟨index, amount, timeout, hp⟩, q, index', amount', timeout', hq, ⟨more, rfl⟩, proper⟩ :=
    reopens_iff.mp reopens
  refine ⟨⟨front⟩, ⟨front ++ more⟩, ⟨index, amount, timeout, lock⟩,
    ⟨index', amount', timeout', lock⟩, covers_iff.mpr ⟨form, _, t, hp, ht, whole⟩,
    covers_iff.mpr ⟨form, q, t, hq, ht, ?_⟩, ?_⟩
  · simp only [whole, List.append_assoc]
  · intro same
    refine proper ?_
    simpa using congrArg Tag.bytes same

theorem covers_tail (h : Covers signature message tag b)
    (h' : Covers signature message tag' b') :
    ∃ form p p' t, Preamble form b.index b.amount b.timeout p ∧
      Preamble form b'.index b'.amount b'.timeout p' ∧ Tail form b.lock t ∧ b.lock = b'.lock ∧
      message = tag.bytes ++ (p ++ t) ∧ message = tag'.bytes ++ (p' ++ t) := by
  obtain ⟨form, p, t, hp, ht, whole⟩ := covers_iff.mp h
  obtain ⟨form', p', t', hp', ht', whole'⟩ := covers_iff.mp h'
  have same : (tag.bytes ++ p) ++ t = (tag'.bytes ++ p') ++ t' := by
    simp only [List.append_assoc, ← whole, ← whole']
  obtain ⟨rfl, locks, _, rfl⟩ := tail_unique ht ht' same
  exact ⟨form, p, p', t, hp, hp', ht, locks, whole, whole'⟩

/-- All cheques that one signature makes of a message pay against one lock. They have one tag
exactly if the message does not end in a body that one of its own numbers opens over again. -/
theorem tag_unique_iff (signature : Signature) (message : List UInt8) :
    (∀ tag tag' b b', Covers signature message tag b → Covers signature message tag' b' →
      b.lock = b'.lock) ∧
    ((∀ tag tag' b b', Covers signature message tag b → Covers signature message tag' b' →
      tag = tag') ↔
      ¬ ∃ form front p t lock, Reopens form p ∧ Tail form lock t ∧
        message = front ++ (p ++ t)) := by
  refine ⟨?_, ?_, ?_⟩
  · intro tag tag' b b' h h'
    obtain ⟨_, _, _, _, _, _, _, locks, _⟩ := covers_tail h h'
    exact locks
  · intro unique given
    obtain ⟨form, front, p, t, lock, reopens, ht, whole⟩ := given
    obtain ⟨tag, tag', b, b', h, h', differ⟩ :=
      two_tags_of_reopens signature reopens ht whole
    exact differ (unique tag tag' b b' h h')
  · intro never tag tag' b b' h h'
    obtain ⟨form, p, p', t, hp, hp', ht, _, whole, whole'⟩ := covers_tail h h'
    have fronts : tag.bytes ++ p = tag'.bytes ++ p' := by
      have same := whole.symm.trans whole'
      simp only [← List.append_assoc] at same
      exact List.append_cancel_right same
    by_cases equal : p = p'
    · subst equal
      exact Tag.ext (List.append_cancel_right fronts)
    · have ends : p <:+ tag'.bytes ++ p' := ⟨tag.bytes, fronts⟩
      exfalso
      obtain inner | inner := List.suffix_or_suffix_of_suffix ends (List.suffix_append _ p')
      · have reopens := reopens_iff.mpr ⟨⟨_, _, _, hp'⟩, p, _, _, _, hp, inner, equal⟩
        exact never ⟨form, _, p', t, _, reopens, ht, whole'⟩
      · have reopens := reopens_iff.mpr ⟨⟨_, _, _, hp⟩, p', _, _, _, hp', inner, Ne.symm equal⟩
        exact never ⟨form, _, p, t, _, reopens, ht, whole⟩

/-- Its amount opens the array over again, and leaves `reopened`. -/
def reopening : Body :=
  ⟨1, 0x84051864, 1800000060000, ⟨(List.range 32).map UInt8.ofNat, rfl⟩⟩

def reopened : Body :=
  ⟨5, 100, 1800000060000, ⟨(List.range 32).map UInt8.ofNat, rfl⟩⟩

theorem one_message_two_tags :
    let tag : Tag := ⟨[0xC0, 0xFF, 0xEE]⟩
    let tag' : Tag := ⟨[0xC0, 0xFF, 0xEE, 0x84, 0x01, 0x1A]⟩
    tag.bytes ++ encode reopening = tag'.bytes ++ encode reopened ∧
      Body.decode (encode reopening) = .ok reopening ∧
      Body.decode (encode reopened) = .ok reopened ∧ tag ≠ tag' :=
  ⟨by decide, by rfl, by rfl, by decide⟩

end ChequeTeller.Cheque
