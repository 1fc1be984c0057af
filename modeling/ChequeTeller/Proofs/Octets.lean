import ChequeTeller.Octets
import ChequeTeller.Proofs.Text.Hex

/-!
Octet values and tags from octets and from text: any octets of the right width make a value, and
any text that is a value's own in letters of either case is read as it.
-/

namespace ChequeTeller

open Text

namespace Octets

variable {role : Role} {text : String} {o : Octets role}

theorem ofBytes_eq_ok_iff {bytes : List UInt8} :
    (ofBytes bytes : Except OctetsError (Octets role)) = .ok o ↔ o.bytes = bytes := by
  unfold ofBytes
  refine ⟨?_, ?_⟩
  · intro h
    split at h
    · cases h
      rfl
    · cases h
  · intro given
    obtain rfl := given
    rw [dif_pos o.length_bytes]

theorem ofHex_eq_ok_iff :
    (ofHex text : Except OctetsError (Octets role)) = .ok o ↔ text.toLower = o.toHex := by
  rw [toHex, ← Hex.decode_eq_ok_iff]
  unfold ofHex
  cases Hex.decode text with
  | error fault => exact ⟨nofun, nofun⟩
  | ok bytes => exact ofBytes_eq_ok_iff.trans (by simp [eq_comm])

@[simp]
theorem ofHex_toHex (o : Octets role) :
    (ofHex o.toHex : Except OctetsError (Octets role)) = .ok o :=
  ofHex_eq_ok_iff.mpr (Hex.toLower_encode o.bytes)

end Octets

namespace Tag

theorem ofHex_eq_ok_iff {text : String} {tag : Tag} :
    ofHex text = .ok tag ↔ text.toLower = tag.toHex := by
  rw [toHex, ← Hex.decode_eq_ok_iff]
  unfold ofHex
  cases Hex.decode text with
  | error fault => exact ⟨nofun, nofun⟩
  | ok bytes => simp [Tag.ext_iff]

@[simp]
theorem ofHex_toHex (tag : Tag) : ofHex tag.toHex = .ok tag :=
  ofHex_eq_ok_iff.mpr (Hex.toLower_encode tag.bytes)

end Tag

end ChequeTeller
