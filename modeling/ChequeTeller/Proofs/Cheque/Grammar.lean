import ChequeTeller.Cheque.Body
import ChequeTeller.Proofs.Cbor.Heads
import ChequeTeller.Proofs.Octets
import ChequeTeller.TellerError

/-!
The grammar of cheque bodies. A body is a preamble, the opening of the array with its three
numbers, and a tail, the lock with what closes the array; both in one of two forms, and each
number and length in any width that holds it. Decoding accepts exactly these octets. `Written`
says the same without preamble and tail, octet by octet.
-/

namespace ChequeTeller.Cheque.Body

open Steps
open Cbor (Cursor Head)

/-- The array gives its length in front, or runs to a break. -/
inductive Form
  | counted
  | broken
  deriving DecidableEq

def Form.Opens : Form → List UInt8 → Prop
  | counted, h => Head 4 4 h
  | broken, h => h = [0x9F]

def Form.closing : Form → List UInt8
  | counted => []
  | broken => [0xFF]

inductive Preamble (form : Form) (index amount timeout : UInt64) : List UInt8 → Prop
  | intro {h x y z : List UInt8} (opens : form.Opens h) (hx : Head 0 index.toNat x)
      (hy : Head 0 amount.toNat y) (hz : Head 0 timeout.toNat z) :
      Preamble form index amount timeout (h ++ (x ++ (y ++ z)))

inductive Tail (form : Form) (lock : Lock) : List UInt8 → Prop
  | intro {s : List UInt8} (hs : Head 2 32 s) : Tail form lock (s ++ (lock.bytes ++ form.closing))

variable {c c' : Cursor} {b : Body}

theorem length_lock (lock : Lock) : lock.bytes.length = 32 :=
  lock.length_bytes

theorem part_eq_ok_iff {α : Type} {p : Part} {r : Except Cbor.Fault α} {a : α} :
    part p r = .ok a ↔ r = .ok a :=
  mapError_eq_ok_iff

theorem decodeLock_eq_ok_iff {lock : Lock} :
    decodeLock c = .ok (lock, c') ↔ ∃ s, Head 2 32 s ∧ c.Passes (s ++ lock.bytes) c' := by
  simp only [decodeLock, bind_eq_ok_iff, Prod.exists, part_eq_ok_iff, Cbor.bytes_eq_ok_iff,
    mapError_eq_ok_iff, Octets.ofBytes_eq_ok_iff, pure_eq_ok_iff, Prod.mk.injEq]
  refine ⟨?_, ?_⟩
  · intro given
    obtain ⟨_, _, ⟨s, head, passes⟩, _, rfl, rfl, rfl⟩ := given
    rw [length_lock] at head
    exact ⟨s, head, passes⟩
  · intro given
    obtain ⟨s, head, passes⟩ := given
    rw [← length_lock lock] at head
    exact ⟨_, c', ⟨s, head, passes⟩, lock, rfl, rfl, rfl⟩

theorem decodeFields_eq_ok_iff :
    decodeFields c = .ok (b, c') ↔
      ∃ x y z s, Head 0 b.index.toNat x ∧ Head 0 b.amount.toNat y ∧ Head 0 b.timeout.toNat z ∧
        Head 2 32 s ∧ c.Passes (x ++ (y ++ (z ++ (s ++ b.lock.bytes)))) c' := by
  simp only [decodeFields, bind_eq_ok_iff, Prod.exists, part_eq_ok_iff, Cbor.word_eq_ok_iff,
    decodeLock_eq_ok_iff, pure_eq_ok_iff, Prod.mk.injEq]
  refine ⟨?_, ?_⟩
  · intro given
    obtain ⟨_, _, ⟨x, hx, px⟩, _, _, ⟨y, hy, py⟩, _, _, ⟨z, hz, pz⟩, _, _, ⟨s, hs, ps⟩, rfl,
      rfl⟩ := given
    exact ⟨x, y, z, s, hx, hy, hz, hs, px.trans (py.trans (pz.trans ps))⟩
  · intro given
    obtain ⟨x, y, z, s, hx, hy, hz, hs, passes⟩ := given
    obtain ⟨_, px, passes⟩ := Cursor.Passes.append_iff.mp passes
    obtain ⟨_, py, passes⟩ := Cursor.Passes.append_iff.mp passes
    obtain ⟨_, pz, ps⟩ := Cursor.Passes.append_iff.mp passes
    exact ⟨_, _, ⟨x, hx, px⟩, _, _, ⟨y, hy, py⟩, _, _, ⟨z, hz, pz⟩, _, _, ⟨s, hs, ps⟩, rfl, rfl⟩

theorem decodeClose_eq_ok_iff : decodeClose c = .ok c' ↔ c.Passes [0xFF] c' := by
  simp only [decodeClose, bind_eq_ok_iff, part_eq_ok_iff]
  refine ⟨?_, ?_⟩
  · intro given
    obtain ⟨found, seen, h⟩ := given
    split at h
    · rename_i last
      subst last
      obtain ⟨rest, ahead⟩ := Cbor.peek_eq_breakOff_iff.mp seen
      cases h
      exact ⟨by simp [ahead], rfl⟩
    · cases h
  · intro given
    obtain ⟨ahead, position⟩ := given
    refine ⟨.breakOff, Cbor.peek_eq_breakOff_iff.mpr ⟨_, ahead⟩, ?_⟩
    obtain ⟨position', rest'⟩ := c'
    obtain rfl : position' = c.position + 1 := position
    simp [ahead, pure_eq_ok_iff]

theorem decodeFrom_eq_ok_iff :
    decodeFrom c = .ok (b, c') ↔
      ∃ form p t, Preamble form b.index b.amount b.timeout p ∧ Tail form b.lock t ∧
        c.Passes (p ++ t) c' := by
  simp only [decodeFrom, bind_eq_ok_iff, Prod.exists, part_eq_ok_iff]
  refine ⟨?_, ?_⟩
  · intro given
    obtain ⟨_ | n, next, opened, h⟩ := given
    · simp only [bind_eq_ok_iff, Prod.exists, pure_eq_ok_iff, Prod.mk.injEq, decodeFields_eq_ok_iff,
        decodeClose_eq_ok_iff] at h
      obtain ⟨_, _, ⟨x, y, z, s, hx, hy, hz, hs, fields⟩, _, closed, rfl, rfl⟩ := h
      have opened := Cbor.array_eq_ok_none_iff.mp opened
      refine ⟨.broken, _, _, .intro (h := [0x9F]) rfl hx hy hz, .intro hs, ?_⟩
      simpa [Form.closing] using opened.trans (fields.trans closed)
    · dsimp only at h
      split at h
      · cases h
      · rename_i four
        obtain rfl := not_not.mp four
        obtain ⟨x, y, z, s, hx, hy, hz, hs, fields⟩ := decodeFields_eq_ok_iff.mp h
        obtain ⟨h, head, opened⟩ := Cbor.array_eq_ok_some_iff.mp opened
        refine ⟨.counted, _, _, .intro head hx hy hz, .intro hs, ?_⟩
        simpa [Form.closing] using opened.trans fields
  · intro given
    obtain ⟨form, _, _, @⟨h, x, y, z, opens, hx, hy, hz⟩, @⟨s, hs⟩, passes⟩ := given
    have passes :
        c.Passes (h ++ ((x ++ (y ++ (z ++ (s ++ b.lock.bytes)))) ++ form.closing)) c' := by
      simpa only [List.append_assoc] using passes
    obtain ⟨next, opened, passes⟩ := Cursor.Passes.append_iff.mp passes
    obtain ⟨last, fields, closed⟩ := Cursor.Passes.append_iff.mp passes
    have fields := decodeFields_eq_ok_iff.mpr ⟨_, _, _, _, hx, hy, hz, hs, fields⟩
    cases form with
    | counted =>
        obtain rfl := Cursor.Passes.nil_iff.mp closed
        exact ⟨some 4, next, Cbor.array_eq_ok_some_iff.mpr ⟨_, opens, opened⟩, fields⟩
    | broken =>
        obtain rfl : _ = [0x9F] := opens
        refine ⟨none, next, Cbor.array_eq_ok_none_iff.mpr opened, ?_⟩
        simp only [bind_eq_ok_iff, Prod.exists, pure_eq_ok_iff, Prod.mk.injEq]
        exact ⟨b, last, fields, c', decodeClose_eq_ok_iff.mpr closed, rfl, rfl⟩

theorem decode_eq_ok_iff {bytes : List UInt8} :
    decode bytes = .ok b ↔
      ∃ form p t, Preamble form b.index b.amount b.timeout p ∧ Tail form b.lock t ∧
        bytes = p ++ t := by
  simp only [decode, bind_eq_ok_iff, Prod.exists, decodeFrom_eq_ok_iff]
  refine ⟨?_, ?_⟩
  · intro given
    obtain ⟨_, c, ⟨form, p, t, hp, ht, passes⟩, h⟩ := given
    split at h
    · rename_i ended
      cases h
      refine ⟨form, p, t, hp, ht, ?_⟩
      have whole := passes.1
      rw [ended, List.append_nil] at whole
      exact whole
    · cases h
  · intro given
    obtain ⟨form, p, t, hp, ht, rfl⟩ := given
    refine ⟨b, ⟨(p ++ t).length, []⟩, ⟨form, p, t, hp, ht, ?_⟩, rfl⟩
    exact ⟨by simp [Cursor.start], by simp [Cursor.start]⟩

/-! Whole bodies. -/

/-- The header of an array of four items, in every width. -/
def fourHeaders : List (List UInt8) :=
  [[0x84], [0x98, 4], [0x99, 0, 4], [0x9A, 0, 0, 0, 4], [0x9B, 0, 0, 0, 0, 0, 0, 0, 4]]

theorem head_four_iff {h : List UInt8} : Head 4 4 h ↔ h ∈ fourHeaders := by
  refine ⟨?_, ?_⟩
  · intro head
    cases head with
    | inline _ => decide
    | wide k known _ => interval_cases k <;> decide
  · intro listed
    simp only [fourHeaders, List.mem_cons, List.not_mem_nil, or_false] at listed
    obtain rfl | rfl | rfl | rfl | rfl := listed
    · exact .inline (by decide)
    · exact .wide 0 (by decide) (by decide)
    · exact .wide 1 (by decide) (by decide)
    · exact .wide 2 (by decide) (by decide)
    · exact .wide 3 (by decide) (by decide)

/-- The octets write the body. Numbers and lengths may be wider than they need to be. -/
inductive Written (b : Body) : List UInt8 → Prop
  | counted {h x y z s : List UInt8} (opens : h ∈ fourHeaders) (index : Head 0 b.index.toNat x)
      (amount : Head 0 b.amount.toNat y) (timeout : Head 0 b.timeout.toNat z) (lock : Head 2 32 s) :
      Written b (h ++ x ++ y ++ z ++ s ++ b.lock.bytes)
  | broken {x y z s : List UInt8} (index : Head 0 b.index.toNat x)
      (amount : Head 0 b.amount.toNat y) (timeout : Head 0 b.timeout.toNat z) (lock : Head 2 32 s) :
      Written b ([0x9F] ++ x ++ y ++ z ++ s ++ b.lock.bytes ++ [0xFF])

variable {bytes : List UInt8}

theorem written_iff : b.Written bytes ↔
    ∃ form p t, Preamble form b.index b.amount b.timeout p ∧ Tail form b.lock t ∧
      bytes = p ++ t := by
  refine ⟨?_, ?_⟩
  · intro given
    cases given with
    | counted opens index amount timeout lock =>
        exact ⟨.counted, _, _, .intro (head_four_iff.mpr opens) index amount timeout, .intro lock,
          by simp [Form.closing]⟩
    | broken index amount timeout lock =>
        exact ⟨.broken, _, _, .intro (h := [0x9F]) rfl index amount timeout, .intro lock,
          by simp [Form.closing]⟩
  · intro given
    obtain ⟨form, _, _, @⟨h, x, y, z, opens, hx, hy, hz⟩, @⟨s, hs⟩, rfl⟩ := given
    cases form with
    | counted =>
        have written := Written.counted (head_four_iff.mp opens) hx hy hz hs
        simpa [Form.closing] using written
    | broken =>
        obtain rfl : h = [0x9F] := opens
        have written := Written.broken hx hy hz hs
        simpa [Form.closing] using written

/-- Any octets but those that write a body are refused as a malformed one. -/
theorem decode_accepts_written (bytes : List UInt8) :
    (∀ b : Body, decode bytes = .ok b ↔ b.Written bytes) ∧
    ((¬ ∃ b : Body, b.Written bytes) ↔
      ∃ e, (decode bytes).mapError TellerError.malformedBody = .error e ∧
        e.kind = .malformedChequeBody) := by
  have accepts (b : Body) : decode bytes = .ok b ↔ b.Written bytes :=
    decode_eq_ok_iff.trans written_iff.symm
  refine ⟨accepts, ?_⟩
  simp only [← accepts, mapError_eq_error_iff]
  cases decode bytes with
  | ok b => simp
  | error cause => simp [TellerError.kind]

end ChequeTeller.Cheque.Body
