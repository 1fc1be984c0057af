import ChequeTeller.Octets.Json
import ChequeTeller.Proofs.Json.Rendering
import ChequeTeller.Proofs.Octets
import ChequeTeller.Proofs.Text.HexFaults

/-!
Octet values as text. One law holds for the values of every role, each with its own width, and for
tags, which have any: all texts of that many digits are read, and of any other text the first of
three flaws is named. Values of fixed width are written as strings in JSON and read back from them.
-/

namespace ChequeTeller

open Steps Text

/-- So many octets make a value; any number does where no width is given. -/
def FitsWidth (width? : Option Nat) (n : Nat) : Prop :=
  ∀ w, width? = some w → n = w

/-- Values of that width are read from their digits and written as them, and a text that is read as
none has an odd number of octets, else an octet that is no digit, else too many or too few. -/
structure HexText {α : Type} (width? : Option Nat) (read : String → Except OctetsError α)
    (write : α → String) : Prop where
  accepts : ∀ s, (∃ a, read s = .ok a) ↔
    (∀ c ∈ s.toList, Hex.IsDigit c) ∧ ∃ n, s.length = 2 * n ∧ FitsWidth width? n
  writes : ∀ s a, read s = .ok a → write a = s.toLower
  readsBack : ∀ a, read (write a) = .ok a
  equal : ∀ s t a b, read s = .ok a → read t = .ok b → (a = b ↔ s.toLower = t.toLower)
  oddLength : ∀ s, read s = .error (.hex .oddLength) ↔ (utf8 s).length % 2 = 1
  badDigit : ∀ s b position, read s = .error (.hex (.badDigit b position)) ↔
    (utf8 s).length % 2 = 0 ∧ Hex.FirstNonDigit (utf8 s) b position
  wrongLength : ∀ s expected actual, read s = .error (.length expected actual) ↔
    (∀ c ∈ s.toList, Hex.IsDigit c) ∧ (utf8 s).length = 2 * actual ∧ width? = some expected ∧
      actual ≠ expected

/-- Octets make a value if there are as many as the width says, and are that value's octets. -/
structure MakesOctets {α : Type} (width? : Option Nat) (make : List UInt8 → Except OctetsError α)
    (view : α → List UInt8) : Prop where
  ok_iff : ∀ bytes a, make bytes = .ok a ↔ view a = bytes
  error_iff : ∀ bytes e, make bytes = .error e ↔
    ∃ w, width? = some w ∧ bytes.length ≠ w ∧ e = .length w bytes.length

namespace MakesOctets

variable {α : Type} {width? : Option Nat} {make : List UInt8 → Except OctetsError α}
  {view : α → List UInt8}

theorem exists_ok_iff (makes : MakesOctets width? make view) {bytes : List UInt8} :
    (∃ a, make bytes = .ok a) ↔ FitsWidth width? bytes.length := by
  cases made : make bytes with
  | ok a =>
      refine iff_of_true ⟨a, rfl⟩ ?_
      intro w width
      by_contra other
      have failed := (makes.error_iff bytes _).mpr ⟨w, width, other, rfl⟩
      rw [made] at failed
      cases failed
  | error e =>
      refine iff_of_false nofun ?_
      intro fits
      obtain ⟨w, width, other, -⟩ := (makes.error_iff bytes e).mp made
      exact other (fits w width)

theorem hexText (makes : MakesOctets width? make view) {read : String → Except OctetsError α}
    (reads : ∀ s, read s = (Hex.decode s).mapError .hex >>= make) :
    HexText width? read (Hex.encode ∘ view) := by
  have ok_iff (s : String) (a : α) : read s = .ok a ↔ s.toLower = Hex.encode (view a) := by
    simp only [reads, bind_eq_ok_iff, mapError_eq_ok_iff, makes.ok_iff, exists_eq_right',
      Hex.decode_eq_ok_iff]
  have hex_iff (s : String) (fault : Hex.Fault) :
      read s = .error (.hex fault) ↔ Hex.decode s = .error fault := by
    simp [reads, bind_eq_error_iff, mapError_eq_error_iff, makes.error_iff]
  refine
    { accepts := ?_
      writes := fun s a h => ((ok_iff s a).mp h).symm
      readsBack := fun a => (ok_iff _ a).mpr (Hex.toLower_encode _)
      equal := ?_
      oddLength := fun s => (hex_iff s _).trans Hex.decode_eq_oddLength_iff
      badDigit := fun s b position => (hex_iff s _).trans Hex.decode_eq_badDigit_iff
      wrongLength := ?_ }
  · intro s
    have read_iff : (∃ a, read s = .ok a) ↔
        ∃ bytes, Hex.decode s = .ok bytes ∧ FitsWidth width? bytes.length := by
      simp only [reads, bind_eq_ok_iff, mapError_eq_ok_iff, ← makes.exists_ok_iff,
        ← exists_and_left]
      exact exists_comm
    rw [read_iff]
    refine ⟨?_, ?_⟩
    · rintro ⟨bytes, decoded, fits⟩
      obtain ⟨digits, length⟩ := Hex.exists_decode_of_length_iff.mp ⟨bytes, decoded, rfl⟩
      exact ⟨digits, _, length, fits⟩
    · rintro ⟨digits, n, length, fits⟩
      obtain ⟨bytes, decoded, rfl⟩ := Hex.exists_decode_of_length_iff.mpr ⟨digits, length⟩
      exact ⟨bytes, decoded, fits⟩
  · intro s t a b hs ht
    refine ⟨?_, ?_⟩
    · rintro rfl
      rw [(ok_iff s a).mp hs, (ok_iff t a).mp ht]
    · intro same
      have read := (ok_iff t a).mpr (same ▸ (ok_iff s a).mp hs)
      rw [ht] at read
      exact (Except.ok.inj read).symm
  · intro s expected actual
    rw [reads, bind_eq_error_iff]
    refine ⟨?_, ?_⟩
    · rintro (undecoded | ⟨bytes, decoded, failed⟩)
      · obtain ⟨_, _, same⟩ := mapError_eq_error_iff.mp undecoded
        cases same
      · obtain ⟨w, width, other, same⟩ := (makes.error_iff _ _).mp failed
        cases same
        obtain ⟨digits, length⟩ :=
          Hex.exists_decode_of_length_iff.mp ⟨bytes, mapError_eq_ok_iff.mp decoded, rfl⟩
        exact ⟨digits, (Hex.length_utf8_of_digits digits).trans length, width, other⟩
    · rintro ⟨digits, length, width, other⟩
      rw [Hex.length_utf8_of_digits digits] at length
      obtain ⟨bytes, decoded, rfl⟩ := Hex.exists_decode_of_length_iff.mpr ⟨digits, length⟩
      exact .inr ⟨bytes, mapError_eq_ok_iff.mpr decoded,
        (makes.error_iff _ _).mpr ⟨expected, width, other, rfl⟩⟩

end MakesOctets

namespace Octets

theorem makesOctets (role : Role) :
    MakesOctets (some role.width) (ofBytes : List UInt8 → Except OctetsError (Octets role))
      Octets.bytes where
  ok_iff _ _ := ofBytes_eq_ok_iff
  error_iff bytes e := by
    unfold ofBytes
    by_cases fits : bytes.length = role.width
    · rw [dif_pos fits]
      refine iff_of_false nofun ?_
      rintro ⟨w, width, other, -⟩
      exact other (fits.trans (Option.some.inj width))
    · rw [dif_neg fits]
      simp [fits, eq_comm]

theorem hexText (role : Role) :
    HexText (some role.width) (ofHex : String → Except OctetsError (Octets role)) toHex := by
  refine (makesOctets role).hexText ?_
  intro s
  unfold ofHex
  cases Hex.decode s <;> rfl

variable {role : Role}

theorem exists_ofHex_eq_ok_iff {s : String} :
    (∃ o, (ofHex s : Except OctetsError (Octets role)) = .ok o) ↔
      s.length = 2 * role.width ∧ ∀ c ∈ s.toList, Hex.IsDigit c := by
  rw [(hexText role).accepts, and_comm]
  simp [FitsWidth]

/-- The JSON text of a value is that of its digits between quotes, and is read as the value. -/
theorem ofJson_toJson (o : Octets role) :
    Json.parse (utf8 o.toJson.render) = .ok o.toJson ∧ ofJson o.toJson = .ok o := by
  refine ⟨Json.readText_utf8_render _ (.string _), ?_⟩
  rw [toJson, ofJson, ofHex_toHex, mapError_ok]

end Octets

namespace Tag

theorem makesOctets :
    MakesOctets none (fun bytes => .ok ⟨bytes⟩ : List UInt8 → Except OctetsError Tag)
      Tag.bytes where
  ok_iff bytes tag := by simp [Tag.ext_iff, eq_comm]
  error_iff _ _ := iff_of_false nofun nofun

theorem hexText : HexText none ofHex toHex := by
  refine makesOctets.hexText ?_
  intro s
  unfold ofHex
  cases Hex.decode s <;> rfl

end Tag

/-- One law says how octet values of every role and tags are read from text and written as it. Any
octets of the right width make a value, which its own text in JSON gives back. -/
theorem octets_and_tags_obey_hexText :
    (∀ role, HexText (some role.width) (Octets.ofHex : String → Except OctetsError (Octets role))
      Octets.toHex) ∧
    HexText none Tag.ofHex Tag.toHex ∧
    (∀ (role : Role) (bytes : List UInt8), bytes.length = role.width →
      ∃ o : Octets role, o.bytes = bytes ∧ Octets.ofBytes bytes = .ok o ∧
        Octets.ofHex o.toHex = .ok o ∧ Json.parse (utf8 o.toJson.render) = .ok o.toJson ∧
        Octets.ofJson o.toJson = .ok o) ∧
    ∀ expected actual, (OctetsError.length expected actual).message =
      "expected " ++ Decimal.numeral expected ++ " bytes, got " ++ Decimal.numeral actual := by
  refine ⟨Octets.hexText, Tag.hexText, ?_, fun _ _ => rfl⟩
  intro role bytes length
  exact ⟨⟨bytes, length⟩, rfl, Octets.ofBytes_eq_ok_iff.mpr rfl, Octets.ofHex_toHex _,
    Octets.ofJson_toJson _⟩

end ChequeTeller
