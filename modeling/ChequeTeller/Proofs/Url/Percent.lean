import ChequeTeller.Proofs.Text.Utf8
import ChequeTeller.Url.Percent
import Mathlib.Data.List.Flatten

/-!
Percent-encoded text. Where the percent sign itself is encoded, a text stands for the octets that
it was made from, and of the characters that a part of a URL must not hold none is left in it.
-/

namespace ChequeTeller.Url.Percent

open Text (octets)

/-! The octets of encoded text. -/

def digitOctet (n : Nat) : UInt8 :=
  UInt8.ofNat (upperDigit n).toNat

/-- The octets that an octet is written with. -/
def triple (b : UInt8) : List UInt8 :=
  [0x25, digitOctet (b.toNat / 16), digitOctet (b.toNat % 16)]

theorem octets_encodeByte (b : UInt8) : octets (encodeByte b) = triple b := by
  have ascii : ∀ n < 16, (upperDigit n).toNat < 0x80 := by decide
  have small := b.toNat_lt
  simp only [octets, encodeByte, List.flatMap_cons, List.flatMap_nil, List.append_nil]
  rw [Text.utf8EncodeChar_of_ascii (ascii _ (by omega)),
    Text.utf8EncodeChar_of_ascii (ascii _ (by omega))]
  rfl

theorem octets_flatMap_encodeByte (bs : List UInt8) :
    octets (bs.flatMap encodeByte) = bs.flatMap triple := by
  rw [octets, List.flatMap_assoc]
  exact List.flatMap_congr fun b _ => octets_encodeByte b

/-! Decoding from the front. -/

theorem decode_cons_of_ne {b : UInt8} (other : b ≠ 0x25) (rest : List UInt8) :
    decode (b :: rest) = b :: decode rest := by
  match rest with
  | [] | [_] => rfl
  | _ :: _ :: _ => rw [decode, if_neg other]

theorem decode_append_of_ne {bs : List UInt8} (other : ∀ b ∈ bs, b ≠ 0x25) (rest : List UInt8) :
    decode (bs ++ rest) = bs ++ decode rest := by
  induction bs with
  | nil => rfl
  | cons b bs ih =>
      obtain ⟨here, later⟩ := List.forall_mem_cons.mp other
      rw [List.cons_append, decode_cons_of_ne here, ih later, List.cons_append]

theorem digitValue?_digitOctet :
    ∀ n < 16, Text.Hex.digitValue? (digitOctet n) = some (UInt8.ofNat n) := by
  decide

theorem decode_triple_append (b : UInt8) (rest : List UInt8) :
    decode (triple b ++ rest) = b :: decode rest := by
  have small := b.toNat_lt
  have value : UInt8.ofNat (b.toNat / 16) * 16 + UInt8.ofNat (b.toNat % 16) = b := by
    refine UInt8.toNat_inj.mp ?_
    simp only [UInt8.toNat_add, UInt8.toNat_mul, UInt8.toNat_ofNat', UInt8.reduceToNat]
    omega
  simp only [triple, List.cons_append, List.nil_append, decode, if_true,
    digitValue?_digitOctet _ (show b.toNat / 16 < 16 by omega),
    digitValue?_digitOctet _ (show b.toNat % 16 < 16 by omega), value]

theorem decode_flatMap_triple_append (bs rest : List UInt8) :
    decode (bs.flatMap triple ++ rest) = bs ++ decode rest := by
  induction bs with
  | nil => rfl
  | cons b bs ih =>
      rw [List.flatMap_cons, List.append_assoc, decode_triple_append, ih, List.cons_append]

/-! Texts. -/

section

variable {encoded : Char → Bool}

theorem ne_percent_of_mem_utf8EncodeChar {c : Char} (other : c ≠ '%') :
    ∀ b ∈ String.utf8EncodeChar c, b ≠ 0x25 := by
  obtain low | high := Nat.lt_or_ge c.toNat 0x80
  · rw [Text.utf8EncodeChar_of_ascii low]
    rintro _ (_ | ⟨_, ⟨⟩⟩) same
    have number := congrArg UInt8.toNat same
    rw [UInt8.toNat_ofNat_of_lt' (Nat.lt_trans low (by decide))] at number
    exact other (Char.toNat_inj.mp number)
  · intro b mem same
    have bound := Text.le_of_mem_utf8EncodeChar high b mem
    rw [same] at bound
    exact absurd bound (by decide)

theorem decode_encodeChar_append (percent : encoded '%' = true) (c : Char) (rest : List UInt8) :
    decode (octets (encodeChar encoded c) ++ rest) = String.utf8EncodeChar c ++ decode rest := by
  rw [encodeChar]
  split
  · rw [octets_flatMap_encodeByte, decode_flatMap_triple_append]
  · rename_i kept
    have other : c ≠ '%' := by
      rintro rfl
      exact kept percent
    rw [octets, List.flatMap_cons, List.flatMap_nil, List.append_nil,
      decode_append_of_ne (ne_percent_of_mem_utf8EncodeChar other)]

theorem decodeText_encode (percent : encoded '%' = true) (cs : List Char) :
    decodeText (encode encoded cs) = octets cs := by
  rw [decodeText, encode, Text.utf8_ofList]
  induction cs with
  | nil => rfl
  | cons c cs ih =>
      rw [List.flatMap_cons, Text.octets_append, decode_encodeChar_append percent, ih,
        Text.octets_cons]

theorem encode_injective (percent : encoded '%' = true) :
    Function.Injective (encode encoded) := by
  intro cs ds same
  refine Text.octets_injective ?_
  rw [← decodeText_encode percent, same, decodeText_encode percent]

/-- A character that is encoded is not in the encoded text, if it is not one of those that encode
others. -/
theorem not_mem_encode {c : Char} (taken : encoded c = true) (notPercent : c ≠ '%')
    (notDigit : ∀ n < 16, c ≠ upperDigit n) (cs : List Char) :
    c ∉ (encode encoded cs).toList := by
  rw [encode, String.toList_ofList]
  intro mem
  obtain ⟨d, -, written⟩ := List.mem_flatMap.mp mem
  rw [encodeChar] at written
  split at written
  · obtain ⟨b, -, written⟩ := List.mem_flatMap.mp written
    have small := b.toNat_lt
    simp only [encodeByte, List.mem_cons, List.not_mem_nil, or_false] at written
    obtain percent | high | low := written
    · exact notPercent percent
    · exact notDigit _ (by omega) high
    · exact notDigit _ (by omega) low
  · rename_i kept
    obtain rfl := List.mem_singleton.mp written
    exact kept taken

end

end ChequeTeller.Url.Percent
