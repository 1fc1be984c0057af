import ChequeTeller.Proofs.Cbor.Shortest
import ChequeTeller.Proofs.Cheque.Grammar

/-!
The encoding of cheque bodies among all that are read as the same body. It is read back, it is
shorter than every other, and it is the one whose array gives its length in front and whose heads
are all shortest.
-/

namespace ChequeTeller.Cheque.Body

open Cbor (Head ShortestHead header)

/-- The octets write the body with its length in front, each number and length in the fewest octets
that hold it. -/
inductive Compact (b : Body) : List UInt8 → Prop
  | intro {h x y z s : List UInt8} (opens : ShortestHead 4 4 h)
      (index : ShortestHead 0 b.index.toNat x) (amount : ShortestHead 0 b.amount.toNat y)
      (timeout : ShortestHead 0 b.timeout.toNat z) (lock : ShortestHead 2 32 s) :
      Compact b (h ++ x ++ y ++ z ++ s ++ b.lock.bytes)

variable {b b' : Body} {bytes : List UInt8}

theorem encode_eq (b : Body) :
    b.encode = header 4 4 ++ header 0 b.index ++ header 0 b.amount ++ header 0 b.timeout ++
      header 2 32 ++ b.lock.bytes := by
  simp only [encode, Cbor.writeArrayHeader, Cbor.writeWord, Cbor.writeBytes, length_lock,
    ← List.append_assoc]
  rfl

theorem compact_iff : b.Compact bytes ↔ bytes = b.encode := by
  rw [encode_eq]
  refine ⟨?_, ?_⟩
  · intro compact
    obtain ⟨opens, index, amount, timeout, lock⟩ := compact
    rw [(Cbor.shortestHead_iff (n := 4)).mp opens, Cbor.shortestHead_iff.mp index,
      Cbor.shortestHead_iff.mp amount, Cbor.shortestHead_iff.mp timeout,
      (Cbor.shortestHead_iff (n := 32)).mp lock]
  · intro given
    obtain rfl := given
    exact .intro ((Cbor.shortestHead_iff (n := 4)).mpr rfl) (Cbor.shortestHead_iff.mpr rfl)
      (Cbor.shortestHead_iff.mpr rfl) (Cbor.shortestHead_iff.mpr rfl)
      ((Cbor.shortestHead_iff (n := 32)).mpr rfl)

theorem written_encode (b : Body) : b.Written b.encode := by
  rw [encode_eq]
  exact .counted (head_four_iff.mp (Cbor.head_header 4 4)) (Cbor.head_header 0 b.index)
    (Cbor.head_header 0 b.amount) (Cbor.head_header 0 b.timeout) (Cbor.head_header 2 32)

theorem decode_eq_ok_iff_written : decode bytes = .ok b ↔ b.Written bytes :=
  decode_eq_ok_iff.trans written_iff.symm

theorem decode_encode (b : Body) : decode b.encode = .ok b :=
  decode_eq_ok_iff_written.mpr (written_encode b)

theorem encode_injective : Function.Injective encode := by
  intro b b' same
  have decoded := decode_encode b
  rw [same, decode_encode b'] at decoded
  exact (Except.ok.inj decoded).symm

/-- Each part of what is written is at least as long as the part of the encoding in its place. -/
theorem Written.eq_encode_or_lt (written : b.Written bytes) :
    bytes = b.encode ∨ b.encode.length < bytes.length := by
  rw [encode_eq]
  cases written with
  | counted opens index amount timeout lock =>
      have opens : Head 4 (4 : UInt64).toNat _ := head_four_iff.mpr opens
      have lock : Head 2 (32 : UInt64).toNat _ := lock
      obtain longer | short := Nat.lt_or_ge
        (header 4 4 ++ header 0 b.index ++ header 0 b.amount ++ header 0 b.timeout ++
          header 2 32 ++ b.lock.bytes).length (List.length _)
      · exact .inr longer
      · refine .inl ?_
        have := opens.length_header_le
        have := index.length_header_le
        have := amount.length_header_le
        have := timeout.length_header_le
        have := lock.length_header_le
        simp only [List.length_append] at short
        rw [opens.eq_header (by omega), index.eq_header (by omega), amount.eq_header (by omega),
          timeout.eq_header (by omega), lock.eq_header (by omega)]
  | broken index amount timeout lock =>
      refine .inr ?_
      have lock : Head 2 (32 : UInt64).toNat _ := lock
      have := index.length_header_le
      have := amount.length_header_le
      have := timeout.length_header_le
      have := lock.length_header_le
      -- The break has no counterpart in the encoding.
      have counted : (header 4 4).length = 1 := rfl
      simp only [List.length_append, List.length_singleton, counted]
      omega

/-- Every body is read back from its encoding, of all octets that are read as the body the encoding
alone has the fewest, and a reading is undone by encoding exactly for compact octets. -/
theorem encode_alone_shortest :
    (∀ b : Body, decode b.encode = .ok b) ∧
    (∀ (b : Body) (bytes : List UInt8), decode bytes = .ok b →
      b.encode.length ≤ bytes.length ∧ (bytes.length = b.encode.length ↔ bytes = b.encode)) ∧
    Function.Injective encode ∧
    ∀ (b : Body) (bytes : List UInt8),
      decode bytes = .ok b ∧ b.encode = bytes ↔ b.Compact bytes := by
  refine ⟨decode_encode, ?_, encode_injective, ?_⟩
  · intro b bytes decoded
    obtain rfl | longer := (decode_eq_ok_iff_written.mp decoded).eq_encode_or_lt
    · simp
    · refine ⟨Nat.le_of_lt longer, ?_, congrArg List.length⟩
      intro equal
      exact absurd equal (Nat.ne_of_gt longer)
  · intro b bytes
    rw [compact_iff]
    refine ⟨fun given => given.2.symm, ?_⟩
    intro given
    obtain rfl := given
    exact ⟨decode_encode b, rfl⟩

end ChequeTeller.Cheque.Body
