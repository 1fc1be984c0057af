import ChequeTeller.Cheque.Frame
import ChequeTeller.Proofs.Text.Hex

/-!
Frames and the octets that they are written as. Each is read back from the other, so a frame says
which octets make its body and its signature, counted from the front. Which octets of a frame make
it a CBOR array is left apart, for nothing looks at them.
-/

namespace ChequeTeller.Cheque.Frame

theorem length_toBytes (f : Frame) : f.toBytes.length = f.body.length + overhead := by
  simp [toBytes, overhead, f.signature.length_bytes]

theorem ofBytes_toBytes (f : Frame) : ofBytes f.toBytes = .ok f := by
  have long : ¬ f.toBytes.length < overhead := by
    rw [length_toBytes]
    omega
  have middle : f.toBytes.length - overhead = f.body.length := by
    rw [length_toBytes, Nat.add_sub_cancel]
  obtain ⟨opening, body, ⟨first, second⟩, ⟨signature, length⟩, closing⟩ := f
  have tail (rest : List UInt8) : (opening :: (body ++ rest)).drop (1 + body.length) = rest := by
    rw [Nat.add_comm, List.drop_succ_cons, List.drop_left]
  have last (h : 64 < (signature ++ [closing]).length) :
      (signature ++ [closing])[64] = closing := by
    rw [List.getElem_append_right (by omega)]
    simp
  -- The parts are cut out by position: first the body by `middle`, then the rest after `tail`.
  unfold ofBytes
  rw [dif_neg long]
  simp only [middle]
  simp only [toBytes, tail, List.getElem_cons_zero, List.getElem_cons_succ, List.drop_succ_cons,
    List.drop_zero, List.take_left' length, List.take_left, last]

/-- Any octets are a frame's if they are enough. -/
theorem exists_toBytes_eq {bytes : List UInt8} (long : overhead ≤ bytes.length) :
    ∃ f : Frame, f.toBytes = bytes := by
  simp only [overhead] at long
  obtain ⟨opening, rest, rfl⟩ := List.exists_cons_of_length_pos (by omega : 0 < bytes.length)
  rw [List.length_cons] at long
  obtain ⟨body, tail, rfl, length_tail⟩ : ∃ body tail, rest = body ++ tail ∧ tail.length = 67 :=
    ⟨rest.take (rest.length - 67), rest.drop (rest.length - 67),
      (List.take_append_drop _ rest).symm, by rw [List.length_drop]; omega⟩
  obtain ⟨first, tail, rfl⟩ := List.exists_cons_of_length_pos (by omega : 0 < tail.length)
  rw [List.length_cons] at length_tail
  obtain ⟨second, tail, rfl⟩ := List.exists_cons_of_length_pos (by omega : 0 < tail.length)
  rw [List.length_cons] at length_tail
  obtain rfl | ⟨signature, closing, rfl⟩ := List.eq_nil_or_concat tail
  · cases length_tail
  · rw [List.concat_eq_append, List.length_append, List.length_singleton] at length_tail
    refine ⟨⟨opening, body, (first, second), ⟨signature, by omega⟩, closing⟩, ?_⟩
    simp only [toBytes, List.concat_eq_append]

theorem ofBytes_eq_ok_iff {bytes : List UInt8} {f : Frame} :
    ofBytes bytes = .ok f ↔ f.toBytes = bytes := by
  refine ⟨?_, ?_⟩
  · intro h
    obtain short | long := Nat.lt_or_ge bytes.length overhead
    · rw [ofBytes, dif_pos short] at h
      cases h
    · obtain ⟨g, rfl⟩ := exists_toBytes_eq long
      rw [ofBytes_toBytes] at h
      exact congrArg toBytes (Except.ok.inj h).symm
  · intro given
    obtain rfl := given
    exact ofBytes_toBytes f

theorem getElem?_toBytes_body (f : Frame) {i : Nat} (h : i < f.body.length) :
    f.toBytes[i + 1]? = f.body[i]? := by
  rw [toBytes, List.getElem?_cons_succ, List.getElem?_append_left h]

theorem getElem?_toBytes_signature (f : Frame) {i : Nat} (h : i < 64) :
    f.toBytes[f.body.length + 3 + i]? = f.signature.bytes[i]? := by
  rw [← f.signature.length_bytes] at h
  rw [toBytes, show f.body.length + 3 + i = f.body.length + (i + 2) + 1 by omega,
    List.getElem?_cons_succ, List.getElem?_append_right (Nat.le_add_right _ _),
    Nat.add_sub_cancel_left, List.getElem?_cons_succ, List.getElem?_cons_succ,
    List.getElem?_append_left h]

@[simp]
theorem ofHex_toHex (f : Frame) : ofHex f.toHex = .ok f := by
  simp only [ofHex, toHex, Text.Hex.decode_encode, ofBytes_toBytes]

end ChequeTeller.Cheque.Frame
