import ChequeTeller.Json.Document
import ChequeTeller.Json.Printer
import ChequeTeller.Proofs.Text.Utf8

/-!
Strings read back. What is written for a character between the quotes, as it stands or escaped, is
read as pieces that have the octets of the character; so a written string is read as its text, up
to the closing quote and no further.
-/

namespace ChequeTeller.Json

open Text

namespace Document

/-- Octets between the quotes that stand for themselves. -/
def StandsAlone (b : UInt8) : Prop :=
  b ≠ 0x22 ∧ b ≠ 0x5C ∧ 0x20 ≤ b

theorem pieces_of_standsAlone {front : List UInt8} (alone : ∀ b ∈ front, StandsAlone b)
    (bs : List UInt8) :
    pieces .plain (front ++ bs) =
      (pieces .plain bs).map fun (ps, rest) => (front.map .octet ++ ps, rest) := by
  induction front with
  | nil => simp
  | cons b front ih =>
      obtain ⟨⟨quote, backslash, shown⟩, later⟩ := List.forall_mem_cons.mp alone
      have shown : ¬ b < 0x20 := UInt8.not_lt.mpr shown
      rw [List.cons_append, pieces, if_neg quote, if_neg backslash, if_neg shown, ih later,
        Option.map_map]
      rfl

theorem pieceBytes_octets (front : List UInt8) (ps : List Piece) :
    pieceBytes (front.map .octet ++ ps) = (pieceBytes ps).map (front ++ ·) := by
  induction front with
  | nil => simp
  | cons b front ih =>
      rw [List.map_cons, List.cons_append, pieceBytes, ih, Option.map_map]
      rfl

theorem pieceBytes_control {n : Nat} (h : n < 0x20) (ps : List Piece) :
    pieceBytes (.unit n :: ps) =
      (pieceBytes ps).map (String.utf8EncodeChar (Char.ofNat n) ++ ·) := by
  have not_high : Utf16.isHigh n = false := by simp [Utf16.isHigh]; omega
  have not_low : Utf16.isLow n = false := by simp [Utf16.isLow]; omega
  rw [pieceBytes.eq_def]
  simp only [not_high, not_low, Bool.false_eq_true, if_false]

theorem pieces_control {n : Nat} (h : n < 0x20) (bs : List UInt8) :
    pieces .plain
        (octets ['\\', 'u', '0', '0', hexDigit (n / 16), hexDigit (n % 16)] ++ bs) =
      (pieces .plain bs).map fun (ps, rest) => (.unit n :: ps, rest) := by
  interval_cases n <;> rfl

theorem standsAlone_of_mem {c : Char} (quote : c ≠ '\x22') (backslash : c ≠ '\\')
    (shown : ¬ c.toNat < 0x20) : ∀ b ∈ String.utf8EncodeChar c, StandsAlone b := by
  intro b hb
  simp only [StandsAlone, ne_eq, ← UInt8.toNat_inj, UInt8.le_iff_toNat_le, UInt8.reduceToNat]
  by_cases ascii : c.toNat < 0x80
  · rw [utf8EncodeChar_of_ascii ascii, List.mem_singleton] at hb
    have octet : b.toNat = c.toNat := by
      rw [hb, UInt8.toNat_ofNat_of_lt' (Nat.lt_trans ascii (by decide))]
    rw [octet]
    refine ⟨?_, ?_, Nat.not_lt.mp shown⟩
    · exact fun same => quote (Char.toNat_inj.mp same)
    · exact fun same => backslash (Char.toNat_inj.mp same)
  · have large := UInt8.le_iff_toNat_le.mp (le_of_mem_utf8EncodeChar (Nat.not_lt.mp ascii) b hb)
    simp only [UInt8.reduceToNat] at large
    omega

/-- What is written for a character is read as pieces of it. -/
theorem exists_pieces_escapeChar (c : Char) :
    ∃ front : List Piece,
      (∀ bs, pieces .plain (octets (escapeChar c) ++ bs) =
        (pieces .plain bs).map fun (ps, rest) => (front ++ ps, rest)) ∧
      ∀ ps, pieceBytes (front ++ ps) = (pieceBytes ps).map (String.utf8EncodeChar c ++ ·) := by
  unfold escapeChar
  split_ifs with quote backslash backspace tab newline feed return_ control
  · exact ⟨[.octet 0x22], fun _ => rfl, fun _ => by subst quote; rfl⟩
  · exact ⟨[.octet 0x5C], fun _ => rfl, fun _ => by subst backslash; rfl⟩
  · exact ⟨[.octet 0x08], fun _ => rfl, fun _ => by subst backspace; rfl⟩
  · exact ⟨[.octet 0x09], fun _ => rfl, fun _ => by subst tab; rfl⟩
  · exact ⟨[.octet 0x0A], fun _ => rfl, fun _ => by subst newline; rfl⟩
  · exact ⟨[.octet 0x0C], fun _ => rfl, fun _ => by subst feed; rfl⟩
  · exact ⟨[.octet 0x0D], fun _ => rfl, fun _ => by subst return_; rfl⟩
  · refine ⟨[.unit c.toNat], pieces_control control, fun ps => ?_⟩
    rw [List.singleton_append, pieceBytes_control control, Char.ofNat_toNat]
  · refine ⟨(String.utf8EncodeChar c).map .octet, fun bs => ?_, pieceBytes_octets _⟩
    rw [octets_cons, octets, List.flatMap_nil, List.append_nil]
    exact pieces_of_standsAlone (standsAlone_of_mem quote backslash control) bs

theorem exists_pieces_printString (s : String) (rest : List UInt8) :
    ∃ ps, pieces .plain (octets (s.toList.flatMap escapeChar) ++ 0x22 :: rest) = some (ps, rest) ∧
      pieceText ps = some s := by
  have chars (cs : List Char) :
      ∃ ps, pieces .plain (octets (cs.flatMap escapeChar) ++ 0x22 :: rest) = some (ps, rest) ∧
        pieceBytes ps = some (octets cs) := by
    induction cs with
    | nil => exact ⟨[], rfl, rfl⟩
    | cons c cs ih =>
        obtain ⟨front, read, spelled⟩ := exists_pieces_escapeChar c
        obtain ⟨ps, later, bytes⟩ := ih
        refine ⟨front ++ ps, ?_, ?_⟩
        · rw [List.flatMap_cons, octets_append, List.append_assoc, read, later, Option.map_some]
        · rw [spelled, bytes, Option.map_some, octets_cons]
  obtain ⟨ps, read, bytes⟩ := chars s.toList
  exact ⟨ps, read, by rw [pieceText, bytes, Option.bind_some]; exact ofUtf8?_utf8 s⟩

end Document

end ChequeTeller.Json
