import ChequeTeller.Proofs.Cheque.Frame

/-!
Frames as partitions of octets. Each part of a frame lies where its offsets from the two ends say,
the parts are all of the octets, and putting a frame together is undone by taking it apart. That
the text of a frame is hexadecimal and long enough is all that reading it asks for.
-/

namespace ChequeTeller.Cheque

open Steps Text

/-- The octets from `start` on to before `stop`, if there are as many. -/
def slice? (bytes : List UInt8) (start stop : Nat) : Option (List UInt8) :=
  if start ≤ stop ∧ stop ≤ bytes.length then some ((bytes.take stop).drop start) else none

theorem slice?_of_append {front middle back bytes : List UInt8} {start stop : Nat}
    (whole : front ++ middle ++ back = bytes) (before : front.length = start)
    (upto : start + middle.length = stop) : slice? bytes start stop = some middle := by
  subst whole before upto
  have inside : front.length ≤ front.length + middle.length ∧
      front.length + middle.length ≤ (front ++ middle ++ back).length := by
    simp only [List.length_append]
    omega
  rw [slice?, if_pos inside, ← List.length_append, List.take_left, List.drop_left]

namespace Frame

/-- The parts of the frame lie in the octets one after the other, the body from the second octet on
to the 67 octets after it, and they are all of the octets. -/
structure Divides (f : Frame) (bytes : List UInt8) : Prop where
  long : overhead ≤ bytes.length
  whole : [f.opening] ++ f.body ++ [f.header.1, f.header.2] ++ f.signature.bytes ++ [f.closing] =
    bytes
  length_body : f.body.length = bytes.length - overhead
  length_signature : f.signature.bytes.length = 64
  opening : bytes[0]? = some f.opening
  body : slice? bytes 1 (bytes.length - 67) = some f.body
  header : slice? bytes (bytes.length - 67) (bytes.length - 65) = some [f.header.1, f.header.2]
  signature : slice? bytes (bytes.length - 65) (bytes.length - 1) = some f.signature.bytes
  closing : bytes[bytes.length - 1]? = some f.closing

theorem toBytes_eq (f : Frame) : f.toBytes =
    [f.opening] ++ f.body ++ [f.header.1, f.header.2] ++ f.signature.bytes ++ [f.closing] := by
  simp [toBytes]

theorem divides_toBytes (f : Frame) : f.Divides f.toBytes := by
  have length : f.toBytes.length = f.body.length + 68 := length_toBytes f
  have signed := f.signature.length_bytes
  have whole := toBytes_eq f
  refine
    { long := by rw [length]; exact Nat.le_add_left _ _
      whole := whole.symm
      length_body := by rw [length]; rfl
      length_signature := signed
      opening := rfl
      body := ?_
      header := ?_
      signature := ?_
      closing := ?_ }
  · have parts : [f.opening] ++ f.body ++
        ([f.header.1, f.header.2] ++ f.signature.bytes ++ [f.closing]) = f.toBytes := by
      simp [whole]
    exact slice?_of_append parts rfl (by omega)
  · have parts : ([f.opening] ++ f.body) ++ [f.header.1, f.header.2] ++
        (f.signature.bytes ++ [f.closing]) = f.toBytes := by
      simp [whole]
    exact slice?_of_append parts (by simp; omega) (by simp; omega)
  · exact slice?_of_append whole.symm (by simp; omega) (by omega)
  · have last : f.toBytes.length - 1 =
        ([f.opening] ++ f.body ++ [f.header.1, f.header.2] ++ f.signature.bytes).length := by
      simp
      omega
    rw [last, whole]
    exact List.getElem?_concat_length

theorem exists_ofBytes_eq_ok_iff {bytes : List UInt8} :
    (∃ f, ofBytes bytes = .ok f) ↔ overhead ≤ bytes.length := by
  simp only [ofBytes_eq_ok_iff]
  refine ⟨?_, exists_toBytes_eq⟩
  rintro ⟨f, rfl⟩
  rw [length_toBytes]
  exact Nat.le_add_left _ _

theorem ofHex_eq_ok_iff {text : String} {f : Frame} :
    ofHex text = .ok f ↔ Hex.decode text = .ok f.toBytes := by
  unfold ofHex
  cases Hex.decode text with
  | error fault => exact ⟨nofun, nofun⟩
  | ok bytes => exact ofBytes_eq_ok_iff.trans (by simp [eq_comm])

/-- A frame takes at least twice 68 digits. -/
theorem exists_ofHex_eq_ok_iff {text : String} :
    (∃ f, ofHex text = .ok f) ↔
      text.length % 2 = 0 ∧ (∀ c ∈ text.toList, Hex.IsDigit c) ∧ 136 ≤ text.length := by
  simp only [ofHex_eq_ok_iff]
  refine ⟨?_, ?_⟩
  · rintro ⟨f, read⟩
    obtain ⟨even, digits⟩ := Hex.exists_decode_eq_ok_iff.mp ⟨_, read⟩
    have length := Hex.length_of_decode read
    rw [length_toBytes, overhead] at length
    exact ⟨even, digits, by omega⟩
  · rintro ⟨even, digits, long⟩
    obtain ⟨bytes, read⟩ := Hex.exists_decode_eq_ok_iff.mpr ⟨even, digits⟩
    have length := Hex.length_of_decode read
    have long : overhead ≤ bytes.length := by
      rw [overhead]
      omega
    obtain ⟨f, rfl⟩ := exists_toBytes_eq long
    exact ⟨f, read⟩

theorem toHex_of_ofHex {text : String} {f : Frame} (read : ofHex text = .ok f) :
    f.toHex = text.toLower :=
  (Hex.decode_eq_ok_iff.mp (ofHex_eq_ok_iff.mp read)).symm

theorem eq_assemble_iff {f : Frame} :
    f = assemble f.body f.signature ↔
      f.opening = 0x9F ∧ f.header = (0x58, 0x40) ∧ f.closing = 0xFF := by
  obtain ⟨opening, body, header, signature, closing⟩ := f
  simp [assemble]

/-- Every frame divides the octets that it is read from or put together to, reading takes all texts
of enough digits in pairs, and a frame that is put together is taken apart into what it was made
of. -/
theorem divides_and_assembles :
    (∀ text, (∃ f, ofHex text = .ok f) ↔
      text.length % 2 = 0 ∧ (∀ c ∈ text.toList, Hex.IsDigit c) ∧ 136 ≤ text.length) ∧
    (∀ text f, ofHex text = .ok f →
      Hex.decode text = .ok f.toBytes ∧ f.Divides f.toBytes ∧ f.toHex = text.toLower) ∧
    (∀ bytes, (∃ f, ofBytes bytes = .ok f) ↔ overhead ≤ bytes.length) ∧
    (∀ bytes f, ofBytes bytes = .ok f → f.toBytes = bytes ∧ f.Divides bytes) ∧
    (∀ body signature, (assemble body signature).Divides (assemble body signature).toBytes ∧
      ofHex (assemble body signature).toHex = .ok (assemble body signature) ∧
      (assemble body signature).body = body ∧ (assemble body signature).signature = signature ∧
      ∀ tag, (assemble body signature).unpack tag = ⟨tag.bytes ++ body, signature, body⟩) ∧
    ∀ f : Frame, f = assemble f.body f.signature ↔
      f.opening = 0x9F ∧ f.header = (0x58, 0x40) ∧ f.closing = 0xFF := by
  refine ⟨fun _ => exists_ofHex_eq_ok_iff, ?_, fun _ => exists_ofBytes_eq_ok_iff, ?_, ?_,
    fun _ => eq_assemble_iff⟩
  · intro text f read
    exact ⟨ofHex_eq_ok_iff.mp read, divides_toBytes f, toHex_of_ofHex read⟩
  · intro bytes f read
    obtain rfl := ofBytes_eq_ok_iff.mp read
    exact ⟨rfl, divides_toBytes f⟩
  · intro body signature
    exact ⟨divides_toBytes _, ofHex_toHex _, rfl, rfl, fun _ => rfl⟩

end Frame

end ChequeTeller.Cheque
