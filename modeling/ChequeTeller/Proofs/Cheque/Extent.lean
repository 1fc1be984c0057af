import ChequeTeller.Proofs.Cbor.Truncation
import ChequeTeller.Proofs.Cheque.Encoding

/-!
How far a body extends. Octets that are read as a body tell where it ends: without the last of them
reading finds the end of the input in the part that is cut, and with more after them it counts those
that are too many. So no body is the front of another one.
-/

namespace ChequeTeller.Cheque.Body

open Steps
open Cbor (Cursor Head ProperFront)

/-- The parts of a body, each with its octets. -/
abbrev Layout := List (Part × List UInt8)

namespace Layout

def octets (layout : Layout) : List UInt8 :=
  layout.flatMap (·.2)

/-- The first part that is not complete in the first `held` octets. -/
def firstCut : Layout → Nat → Option Part
  | [], _ => none
  | (p, octets) :: later, held =>
    if held < octets.length then some p else firstCut later (held - octets.length)

theorem octets_cons (m : Part × List UInt8) (later : Layout) :
    octets (m :: later) = m.2 ++ octets later :=
  rfl

theorem octets_append (front back : Layout) :
    (front ++ back).octets = front.octets ++ back.octets :=
  List.flatMap_append

theorem firstCut_append_of_some {front : Layout} (back : Layout) {held : Nat} {p : Part}
    (cut : front.firstCut held = some p) : firstCut (front ++ back) held = some p := by
  induction front generalizing held with
  | nil => cases cut
  | cons m front ih =>
      simp only [List.cons_append, firstCut] at cut ⊢
      split
      · rwa [if_pos ‹_›] at cut
      · rw [if_neg ‹_›] at cut
        exact ih cut

theorem firstCut_append_add (front back : Layout) (held : Nat) :
    firstCut (front ++ back) (front.octets.length + held) = back.firstCut held := by
  induction front with
  | nil => simp [octets]
  | cons m front ih =>
      have long : ¬ m.2.length + ((octets front).length + held) < m.2.length := by omega
      simp only [List.cons_append, firstCut, octets_cons, List.length_append, Nat.add_assoc]
      rw [if_neg long, Nat.add_sub_cancel_left]
      exact ih

end Layout

/-- The parts that the octets of a body fall into; numbers and lengths in any width. -/
inductive Laid (b : Body) : Layout → Prop
  | counted {h x y z s : List UInt8} (opens : h ∈ fourHeaders) (index : Head 0 b.index.toNat x)
      (amount : Head 0 b.amount.toNat y) (timeout : Head 0 b.timeout.toNat z) (lock : Head 2 32 s) :
      Laid b [(.array, h), (.index, x), (.amount, y), (.timeout, z), (.lock, s ++ b.lock.bytes)]
  | broken {x y z s : List UInt8} (index : Head 0 b.index.toNat x)
      (amount : Head 0 b.amount.toNat y) (timeout : Head 0 b.timeout.toNat z) (lock : Head 2 32 s) :
      Laid b [(.array, [0x9F]), (.index, x), (.amount, y), (.timeout, z),
        (.lock, s ++ b.lock.bytes), (.close, [0xFF])]

theorem written_iff_laid {b : Body} {bytes : List UInt8} :
    b.Written bytes ↔ ∃ layout, Laid b layout ∧ layout.octets = bytes := by
  refine ⟨?_, ?_⟩
  · rintro (⟨opens, index, amount, timeout, lock⟩ | ⟨index, amount, timeout, lock⟩)
    · exact ⟨_, .counted opens index amount timeout lock, by simp [Layout.octets]⟩
    · exact ⟨_, .broken index amount timeout lock, by simp [Layout.octets]⟩
  · rintro ⟨_, ⟨opens, index, amount, timeout, lock⟩ | ⟨index, amount, timeout, lock⟩, rfl⟩
    · simpa [Layout.octets] using Written.counted opens index amount timeout lock
    · simpa [Layout.octets] using Written.broken index amount timeout lock

/-! Readers by the parts that they read. -/

variable {α β : Type}

/-- The reader takes exactly these parts for a value, and finds the end of the input in the first
one that is not complete. -/
structure Reads (read : Cursor → Except BodyError (α × Cursor)) (layout : Layout) (a : α) :
    Prop where
  whole : ∀ {c c'}, c.Passes layout.octets c' → read c = .ok (a, c')
  cut : ∀ {c}, ProperFront c.rest layout.octets →
    ∃ p, layout.firstCut c.rest.length = some p ∧ read c = .error (.unreadable p .endOfInput)

theorem Reads.one {p : Part} {octets : List UInt8} {a : α}
    {read : Cursor → Except Cbor.Fault (α × Cursor)}
    (whole : ∀ {c c'}, c.Passes octets c' → read c = .ok (a, c'))
    (cut : ∀ {c}, ProperFront c.rest octets → read c = .error .endOfInput) :
    Reads (fun c => part p (read c)) [(p, octets)] a := by
  have single : Layout.octets [(p, octets)] = octets := List.append_nil _
  refine ⟨?_, ?_⟩
  · intro c c' passes
    rw [single] at passes
    exact part_eq_ok_iff.mpr (whole passes)
  · intro c front
    rw [single] at front
    refine ⟨p, if_pos front.length_lt, ?_⟩
    rw [cut front]
    rfl

theorem Reads.pure (a : α) : Reads (fun c => .ok (a, c)) [] a := by
  refine ⟨?_, ?_⟩
  · intro c c' passes
    rw [Cursor.Passes.nil_iff.mp passes]
  · intro c front
    exact absurd front ProperFront.not_nil

/-- What is cut is cut in the parts of the first reader, or else in those of the second one. -/
theorem Reads.bind {read : Cursor → Except BodyError (α × Cursor)} {front back : Layout} {a : α}
    {next : α × Cursor → Except BodyError (β × Cursor)} {b : β} (first : Reads read front a)
    (later : Reads (fun c => next (a, c)) back b) :
    Reads (fun c => read c >>= next) (front ++ back) b := by
  refine ⟨?_, ?_⟩
  · intro c c'' passes
    rw [Layout.octets_append] at passes
    obtain ⟨c', before, after⟩ := Cursor.Passes.append_iff.mp passes
    exact bind_eq_ok_iff.mpr ⟨_, first.whole before, later.whole after⟩
  · intro c cut
    rw [Layout.octets_append] at cut
    rcases ProperFront.append_iff.mp cut with cut | ⟨held, ahead, cut⟩
    · obtain ⟨p, here, failed⟩ := first.cut cut
      exact ⟨p, Layout.firstCut_append_of_some back here,
        bind_eq_error_iff.mpr (.inl failed)⟩
    · have passed : c.Passes front.octets ⟨c.position + front.octets.length, held⟩ := ⟨ahead, rfl⟩
      obtain ⟨p, here, failed⟩ := later.cut (c := ⟨_, held⟩) cut
      refine ⟨p, ?_, bind_eq_error_iff.mpr (.inr ⟨_, first.whole passed, failed⟩)⟩
      rw [ahead, List.length_append, Layout.firstCut_append_add]
      exact here

theorem reads_word {p : Part} {n : UInt64} {octets : List UInt8} (head : Head 0 n.toNat octets) :
    Reads (fun c => part p (Cbor.word c)) [(p, octets)] n :=
  .one (fun passes => Cbor.word_eq_ok_iff.mpr ⟨octets, head, passes⟩) (Cbor.word_cut head)

theorem reads_lock {s : List UInt8} (lock : Lock) (head : Head 2 32 s) :
    Reads decodeLock [(.lock, s ++ lock.bytes)] lock := by
  rw [← length_lock lock] at head
  have string : Reads (fun c => part .lock (Cbor.bytes c)) [(.lock, s ++ lock.bytes)] lock.bytes :=
    .one (fun passes => Cbor.bytes_eq_ok_iff.mpr ⟨s, head, passes⟩) (Cbor.bytes_cut head)
  unfold decodeLock
  apply string.bind
  simp only [Octets.ofBytes_eq_ok_iff.mpr (Eq.refl lock.bytes)]
  exact .pure lock

theorem reads_fields {b : Body} {x y z s : List UInt8} (index : Head 0 b.index.toNat x)
    (amount : Head 0 b.amount.toNat y) (timeout : Head 0 b.timeout.toNat z) (lock : Head 2 32 s) :
    Reads decodeFields
      [(.index, x), (.amount, y), (.timeout, z), (.lock, s ++ b.lock.bytes)] b := by
  unfold decodeFields
  apply (reads_word index).bind
  apply (reads_word amount).bind
  apply (reads_word timeout).bind
  apply (reads_lock b.lock lock).bind
  exact .pure b

theorem reads_close (b : Body) :
    Reads (fun c => decodeClose c >>= fun c => pure (b, c)) [(.close, [0xFF])] b := by
  refine ⟨?_, ?_⟩
  · intro c c' passes
    exact bind_eq_ok_iff.mpr ⟨c', decodeClose_eq_ok_iff.mpr passes, rfl⟩
  · intro c cut
    obtain ended | ⟨_, _, cut⟩ := ProperFront.cons_iff.mp cut
    · refine ⟨.close, by rw [ended]; rfl, ?_⟩
      simp only [decodeClose, Cbor.peek, ended]
      rfl
    · exact absurd cut ProperFront.not_nil

theorem Laid.reads {b : Body} {layout : Layout} (laid : Laid b layout) :
    Reads decodeFrom layout b := by
  unfold decodeFrom
  cases laid with
  | counted opens index amount timeout lock =>
      have head := head_four_iff.mpr opens
      have array : Reads (fun c => part .array (Cbor.array c)) [(.array, _)] (some 4) :=
        .one (fun passes => Cbor.array_eq_ok_some_iff.mpr ⟨_, head, passes⟩) (Cbor.array_cut head)
      apply array.bind
      exact reads_fields index amount timeout lock
  | broken index amount timeout lock =>
      have array : Reads (fun c => part .array (Cbor.array c)) [(.array, [0x9F])] none := by
        refine .one Cbor.array_eq_ok_none_iff.mpr ?_
        intro c cut
        obtain ended | ⟨_, _, cut⟩ := ProperFront.cons_iff.mp cut
        · exact Cbor.array_eq_endOfInput ended
        · exact absurd cut ProperFront.not_nil
      apply array.bind
      apply (reads_fields index amount timeout lock).bind
      exact reads_close b

/-! Whole inputs. -/

variable {b : Body} {bytes front back : List UInt8} {layout : Layout}

theorem message_unreadable_endOfInput (p : Part) :
    BodyError.message (.unreadable p .endOfInput) = p.name ++ ": end of input bytes" := by
  change p.name ++ ": " ++ "end of input bytes" = _
  rw [String.append_assoc]
  congr 1

theorem decode_of_properFront (laid : Laid b layout) (cut : ProperFront front layout.octets) :
    ∃ p, layout.firstCut front.length = some p ∧
      decode front = .error (.unreadable p .endOfInput) := by
  obtain ⟨p, here, failed⟩ := laid.reads.cut (c := Cursor.start front) cut
  exact ⟨p, here, bind_eq_error_iff.mpr (.inl failed)⟩

theorem decode_append (laid : Laid b layout) (more : back ≠ []) :
    decode (layout.octets ++ back) = .error (.trailing back.length) := by
  have passed : (Cursor.start (layout.octets ++ back)).Passes layout.octets
      ⟨layout.octets.length, back⟩ := ⟨rfl, by simp [Cursor.start]⟩
  rw [decode, laid.reads.whole passed]
  exact if_neg more

/-- Where reading a body ends there are as many octets left as the input has from there on. -/
theorem position_le_length {c : Cursor} (read : decodeFrom (Cursor.start bytes) = .ok (b, c)) :
    c.position ≤ bytes.length ∧ c.rest = bytes.drop c.position := by
  obtain ⟨form, p, t, -, -, whole, position⟩ := decodeFrom_eq_ok_iff.mp read
  simp only [Cursor.start, Nat.zero_add] at whole position
  rw [position, whole]
  exact ⟨(List.prefix_append _ _).length_le, List.drop_left.symm⟩

theorem part_ne_trailing {p : Part} {r : Except Cbor.Fault α} {count : Nat} :
    part p r ≠ .error (.trailing count) := by
  intro h
  obtain ⟨_, -, h⟩ := mapError_eq_error_iff.mp h
  cases h

theorem decodeLock_ne_trailing {c : Cursor} {count : Nat} :
    decodeLock c ≠ .error (.trailing count) := by
  intro h
  simp only [decodeLock, bind_eq_error_iff, part_ne_trailing, mapError_eq_error_iff, reduceCtorEq,
    and_false, exists_false, false_or] at h
  obtain ⟨_, _, _, _, h⟩ := h
  cases h

theorem decodeFields_ne_trailing {c : Cursor} {count : Nat} :
    decodeFields c ≠ .error (.trailing count) := by
  intro h
  simp only [decodeFields, bind_eq_error_iff, part_ne_trailing, decodeLock_ne_trailing,
    false_or] at h
  obtain ⟨_, _, _, _, _, _, _, _, h⟩ := h
  cases h

theorem decodeClose_ne_trailing {c : Cursor} {count : Nat} :
    decodeClose c ≠ .error (.trailing count) := by
  intro h
  simp only [decodeClose, bind_eq_error_iff, part_ne_trailing, false_or] at h
  obtain ⟨_, _, h⟩ := h
  split at h <;> cases h

theorem decodeFrom_ne_trailing {c : Cursor} {count : Nat} :
    decodeFrom c ≠ .error (.trailing count) := by
  intro h
  simp only [decodeFrom, bind_eq_error_iff, part_ne_trailing, false_or] at h
  obtain ⟨⟨_ | n, _⟩, _, h⟩ := h
  · simp only [bind_eq_error_iff, decodeClose_ne_trailing, decodeFields_ne_trailing,
      false_or] at h
    obtain ⟨_, _, _, _, h⟩ := h
    cases h
  · dsimp only at h
    split at h
    · cases h
    · exact decodeFields_ne_trailing h

/-- Octets are counted as too many only after a whole body. -/
theorem decode_eq_trailing_iff {count : Nat} :
    decode bytes = .error (.trailing count) ↔
      ∃ b front back, decode front = .ok b ∧ back ≠ [] ∧ front ++ back = bytes ∧
        back.length = count := by
  refine ⟨?_, ?_⟩
  · intro h
    rcases bind_eq_error_iff.mp h with h | ⟨⟨b, c⟩, read, h⟩
    · exact absurd h decodeFrom_ne_trailing
    · dsimp only at h
      split at h
      · cases h
      · rename_i more
        cases h
        obtain ⟨form, p, t, hp, ht, whole, -⟩ := decodeFrom_eq_ok_iff.mp read
        exact ⟨b, p ++ t, c.rest, decode_eq_ok_iff.mpr ⟨form, p, t, hp, ht, rfl⟩, more,
          whole.symm, rfl⟩
  · rintro ⟨b, front, back, decoded, more, rfl, rfl⟩
    obtain ⟨layout, laid, rfl⟩ := written_iff_laid.mp (decode_eq_ok_iff_written.mp decoded)
    exact decode_append laid more

/-- A body that is cut anywhere ends too soon in the first part that is not complete, and one that
anything follows is refused for just as many octets. What is left to count never starts after the
end of the input, and no body is the front of another one. -/
theorem decode_tells_extent :
    (∀ bytes (b : Body), decode bytes = .ok b →
      (∃ layout, Laid b layout ∧ layout.octets = bytes) ∧
      (∀ layout front, Laid b layout → layout.octets = bytes → ProperFront front bytes →
        ∃ p, layout.firstCut front.length = some p ∧
          decode front = .error (.unreadable p .endOfInput) ∧
          BodyError.message (.unreadable p .endOfInput) = p.name ++ ": end of input bytes") ∧
      ∀ back, back ≠ [] → decode (bytes ++ back) = .error (.trailing back.length) ∧
        BodyError.message (.trailing back.length) =
          Text.Decimal.numeral back.length ++ " trailing bytes") ∧
    (∀ bytes count, decode bytes = .error (.trailing count) ↔
      ∃ b front back, decode front = .ok b ∧ back ≠ [] ∧ front ++ back = bytes ∧
        back.length = count) ∧
    (∀ bytes (b : Body) c, decodeFrom (Cursor.start bytes) = .ok (b, c) →
      c.position ≤ bytes.length ∧ c.rest.length = bytes.length - c.position) ∧
    ∀ bytes bytes' (b b' : Body), decode bytes = .ok b → decode bytes' = .ok b' →
      bytes <+: bytes' → bytes = bytes' := by
  refine ⟨?_, fun _ _ => decode_eq_trailing_iff, ?_, ?_⟩
  · intro bytes b decoded
    have spells := written_iff_laid.mp (decode_eq_ok_iff_written.mp decoded)
    refine ⟨spells, ?_, ?_⟩
    · rintro layout front laid rfl cut
      obtain ⟨p, here, failed⟩ := decode_of_properFront laid cut
      exact ⟨p, here, failed, message_unreadable_endOfInput p⟩
    · intro back more
      obtain ⟨layout, laid, rfl⟩ := spells
      exact ⟨decode_append laid more, rfl⟩
  · intro bytes b c read
    obtain ⟨within, rest⟩ := position_le_length read
    exact ⟨within, by rw [rest, List.length_drop]⟩
  · rintro bytes _ b b' decoded decoded' ⟨back, rfl⟩
    by_cases none : back = []
    · rw [none, List.append_nil]
    · rw [decode_eq_trailing_iff.mpr ⟨b, bytes, back, decoded, none, rfl, rfl⟩] at decoded'
      cases decoded'

/-- A body of indefinite length with the largest amount. -/
def wideBody : Body :=
  ⟨0, 0xFFFFFFFFFFFFFFFF, 0xFFFF, ⟨List.replicate 32 0x9F, rfl⟩⟩

/-- The octets of `wideBody`, most numbers in more of them than they need. -/
def wideLayout : Layout :=
  [(.array, [0x9F]), (.index, [0x18, 0]), (.amount, 0x1B :: List.replicate 8 0xFF),
    (.timeout, [0x1A, 0, 0, 0xFF, 0xFF]), (.lock, [0x59, 0, 32] ++ List.replicate 32 0x9F),
    (.close, [0xFF])]

theorem laid_wideLayout : Laid wideBody wideLayout :=
  .broken (.wide 0 (by decide) (by decide)) (.wide 3 (by decide) (by decide))
    (.wide 2 (by decide) (by decide)) (.wide 1 (by decide) (by decide))

/-- After 52 octets only the break is missing, after 51 the last octet of the lock as well. -/
theorem wideBody_cut_at_end :
    decode wideLayout.octets = .ok wideBody ∧
      decode (wideLayout.octets.take 52) = .error (.unreadable .close .endOfInput) ∧
      decode (wideLayout.octets.take 51) = .error (.unreadable .lock .endOfInput) ∧
      decode (wideLayout.octets ++ [0xFF, 0xFF]) = .error (.trailing 2) := by
  have decoded : decode wideLayout.octets = .ok wideBody := by rfl
  obtain ⟨-, cut, extended⟩ := decode_tells_extent.1 wideLayout.octets wideBody decoded
  refine ⟨decoded, ?_, ?_, (extended [0xFF, 0xFF] (by decide)).1⟩
  · obtain ⟨p, here, failed, -⟩ :=
      cut wideLayout (wideLayout.octets.take 52) laid_wideLayout rfl ⟨[0xFF], by decide, by rfl⟩
    cases here
    exact failed
  · obtain ⟨p, here, failed, -⟩ :=
      cut wideLayout (wideLayout.octets.take 51) laid_wideLayout rfl
        ⟨[0x9F, 0xFF], by decide, by rfl⟩
    cases here
    exact failed

end ChequeTeller.Cheque.Body
