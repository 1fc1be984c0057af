import ChequeTeller.Proofs.Text.Lenient
import ChequeTeller.Text.Utf16

/-!
What any octets spell, by the mark at their front: UTF-16 in one of its two orders, or UTF-8, which
needs no mark. As for UTF-8, the reading of UTF-16 is told by the units of characters, and U+FFFD
stands for what is none of them. A charset that is named elsewhere is left apart.
-/

namespace ChequeTeller.Text

namespace Utf16

/-- The octets spell the characters, two octets a unit. A character has one unit, its own code, or
two that carry ten bits each, of which the first is from 0xD800 on and the second from 0xDC00 on. -/
inductive Spells (unit : UInt8 → UInt8 → Nat) : List UInt8 → List Char → Prop
  | nil : Spells unit [] []
  | one {a b : UInt8} {c : Char} {bs : List UInt8} {cs : List Char} (code : unit a b = c.toNat)
      (rest : Spells unit bs cs) : Spells unit (a :: b :: bs) (c :: cs)
  | two {a b a' b' : UInt8} {c : Char} {bs : List UInt8} {cs : List Char}
      (large : 0x10000 ≤ c.toNat)
      (upper : unit a b = 0xD800 + (c.toNat - 0x10000) / 0x400)
      (lower : unit a' b' = 0xDC00 + (c.toNat - 0x10000) % 0x400)
      (rest : Spells unit bs cs) : Spells unit (a :: b :: a' :: b' :: bs) (c :: cs)
  /-- A second unit without a first one. -/
  | second {a b : UInt8} {bs : List UInt8} {cs : List Char}
      (stray : 0xDC00 ≤ unit a b ∧ unit a b ≤ 0xDFFF) (rest : Spells unit bs cs) :
      Spells unit (a :: b :: bs) ('\uFFFD' :: cs)
  /-- A first unit, and the next one is no second. -/
  | first {a b a' b' : UInt8} {bs : List UInt8} {cs : List Char}
      (stray : 0xD800 ≤ unit a b ∧ unit a b ≤ 0xDBFF)
      (alone : ¬ (0xDC00 ≤ unit a' b' ∧ unit a' b' ≤ 0xDFFF))
      (rest : Spells unit (a' :: b' :: bs) cs) :
      Spells unit (a :: b :: a' :: b' :: bs) ('\uFFFD' :: cs)
  /-- A first unit at the end, with what there is of a second one. -/
  | cut {a b : UInt8} (stray : 0xD800 ≤ unit a b ∧ unit a b ≤ 0xDBFF) (left : Option UInt8) :
      Spells unit (a :: b :: left.toList) ['\uFFFD']
  | half (a : UInt8) : Spells unit [a] ['\uFFFD']

theorem isHigh_iff {n : Nat} : isHigh n = true ↔ 0xD800 ≤ n ∧ n ≤ 0xDBFF := by
  simp [isHigh]

theorem isLow_iff {n : Nat} : isLow n = true ↔ 0xDC00 ≤ n ∧ n ≤ 0xDFFF := by
  simp [isLow]

/-! What the first of some units is read as. -/

theorem chars_of_one {n : Nat} (inside : n < 0xD800 ∨ 0xDFFF < n) (us : List (Option Nat)) :
    chars (some n :: us) = Char.ofNat n :: chars us := by
  have high : isHigh n = false := by
    rw [Bool.eq_false_iff, ne_eq, isHigh_iff]
    omega
  have low : isLow n = false := by
    rw [Bool.eq_false_iff, ne_eq, isLow_iff]
    omega
  match us with
  | [] => simp [chars, high, low]
  | none :: us => simp [chars, high, low]
  | some m :: us => simp [chars, high, low]

theorem chars_of_second {n : Nat} (stray : 0xDC00 ≤ n ∧ n ≤ 0xDFFF) (us : List (Option Nat)) :
    chars (some n :: us) = '\uFFFD' :: chars us := by
  have high : isHigh n = false := by
    rw [Bool.eq_false_iff, ne_eq, isHigh_iff]
    omega
  have low : isLow n = true := isLow_iff.mpr stray
  match us with
  | [] => simp [chars, low]
  | none :: us => simp [chars, high, low]
  | some m :: us => simp [chars, high, low]

theorem chars_of_first {n m : Nat} (stray : 0xD800 ≤ n ∧ n ≤ 0xDBFF)
    (alone : ¬ (0xDC00 ≤ m ∧ m ≤ 0xDFFF)) (us : List (Option Nat)) :
    chars (some n :: some m :: us) = '\uFFFD' :: chars (some m :: us) := by
  have high : isHigh n = true := isHigh_iff.mpr stray
  have low : isLow m = false := by
    rwa [Bool.eq_false_iff, ne_eq, isLow_iff]
  rw [chars, if_neg (by simp [low]), if_pos (by simp [high])]

/-- The code of a character of two units is put together from them. -/
theorem chars_of_two {c : Char} (large : 0x10000 ≤ c.toNat) (us : List (Option Nat)) :
    chars (some (0xD800 + (c.toNat - 0x10000) / 0x400) ::
      some (0xDC00 + (c.toNat - 0x10000) % 0x400) :: us) = c :: chars us := by
  have valid : c.toNat < 0xD800 ∨ 0xDFFF < c.toNat ∧ c.toNat < 0x110000 := c.valid
  have same : Char.ofNat c.toNat = c := Char.ofNat_toNat c
  generalize c.toNat = v at *
  have high : isHigh (0xD800 + (v - 0x10000) / 0x400) = true := isHigh_iff.mpr (by omega)
  have low : isLow (0xDC00 + (v - 0x10000) % 0x400) = true := isLow_iff.mpr (by omega)
  have code : 0x10000 + (0xD800 + (v - 0x10000) / 0x400 - 0xD800) * 0x400 +
      (0xDC00 + (v - 0x10000) % 0x400 - 0xDC00) = v := by omega
  rw [chars, if_pos ⟨high, low⟩, join, code, same]

theorem Spells.eq_chars {unit : UInt8 → UInt8 → Nat} {bs : List UInt8} {cs : List Char}
    (h : Spells unit bs cs) : cs = chars (units unit bs) := by
  induction h with
  | nil => rfl
  | @one a b c bs cs code rest ih =>
      have valid : c.toNat < 0xD800 ∨ 0xDFFF < c.toNat ∧ c.toNat < 0x110000 := c.valid
      rw [units, code, chars_of_one (by omega), Char.ofNat_toNat, ← ih]
  | two large upper lower rest ih => rw [units, units, upper, lower, chars_of_two large, ← ih]
  | second stray rest ih => rw [units, chars_of_second stray, ← ih]
  | first stray alone rest ih => rw [units, units, chars_of_first stray alone, ← units, ← ih]
  | cut stray left =>
      have high := isHigh_iff.mpr stray
      cases left <;> simp [units, chars, high]
  | half a => rfl

theorem exists_spells {unit : UInt8 → UInt8 → Nat} (bound : ∀ a b, unit a b < 0x10000)
    (bs : List UInt8) : ∃ cs, Spells unit bs cs := by
  induction h : bs.length using Nat.strong_induction_on generalizing bs with
  | _ n ih =>
      subst h
      match bs with
      | [] => exact ⟨_, .nil⟩
      | [a] => exact ⟨_, .half a⟩
      | a :: b :: bs =>
          have small := bound a b
          obtain ⟨cs, rest⟩ := ih bs.length (by simp only [List.length_cons]; omega) bs rfl
          -- The unit is a second one, a first one, or a character by itself.
          by_cases second : 0xDC00 ≤ unit a b ∧ unit a b ≤ 0xDFFF
          · exact ⟨_, .second second rest⟩
          by_cases first : 0xD800 ≤ unit a b ∧ unit a b ≤ 0xDBFF
          · match bs with
            | [] => exact ⟨_, .cut first none⟩
            | [a'] => exact ⟨_, .cut first (some a')⟩
            | a' :: b' :: bs =>
                by_cases second' : 0xDC00 ≤ unit a' b' ∧ unit a' b' ≤ 0xDFFF
                · obtain ⟨cs, rest⟩ :=
                    ih bs.length (by simp only [List.length_cons]; omega) bs rfl
                  have code : (join (unit a b) (unit a' b')).toNat = _ :=
                    Utf8.val_ofNat (by omega)
                  exact ⟨_, .two (c := join (unit a b) (unit a' b')) (by omega) (by omega)
                    (by omega) rest⟩
                · exact ⟨_, .first first second' rest⟩
          · have code : (Char.ofNat (unit a b)).toNat = unit a b := Utf8.val_ofNat (by omega)
            exact ⟨_, .one code.symm rest⟩

theorem spells_iff {unit : UInt8 → UInt8 → Nat} (bound : ∀ a b, unit a b < 0x10000)
    {bs : List UInt8} {cs : List Char} : Spells unit bs cs ↔ cs = chars (units unit bs) := by
  refine ⟨Spells.eq_chars, ?_⟩
  intro read
  obtain ⟨cs', spells⟩ := exists_spells bound bs
  rwa [read, ← spells.eq_chars]

end Utf16

/-- U+FEFF as the front of a text has it, in UTF-8 and in the two orders of UTF-16. -/
def marks : List (List UInt8) := [[0xEF, 0xBB, 0xBF], [0xFE, 0xFF], [0xFF, 0xFE]]

/-- The octets spell the text, a mark apart. -/
inductive Spells : List UInt8 → String → Prop
  | utf8 {bs : List UInt8} {cs : List Char} (rest : Utf8.Spells bs cs) :
      Spells (0xEF :: 0xBB :: 0xBF :: bs) (String.ofList cs)
  | bigEndian {bs : List UInt8} {cs : List Char}
      (rest : Utf16.Spells (fun a b => a.toNat * 0x100 + b.toNat) bs cs) :
      Spells (0xFE :: 0xFF :: bs) (String.ofList cs)
  | littleEndian {bs : List UInt8} {cs : List Char}
      (rest : Utf16.Spells (fun a b => b.toNat * 0x100 + a.toNat) bs cs) :
      Spells (0xFF :: 0xFE :: bs) (String.ofList cs)
  | unmarked {bs : List UInt8} {cs : List Char} (plain : ∀ mark ∈ marks, ¬ mark <+: bs)
      (rest : Utf8.Spells bs cs) : Spells bs (String.ofList cs)

theorem unit_lt (a b : UInt8) : a.toNat * 0x100 + b.toNat < 0x10000 := by
  have := a.toNat_lt
  have := b.toNat_lt
  omega

theorem plain_iff {bs : List UInt8} : (∀ mark ∈ marks, ¬ mark <+: bs) ↔
    (∀ rest, bs ≠ 0xEF :: 0xBB :: 0xBF :: rest) ∧ (∀ rest, bs ≠ 0xFE :: 0xFF :: rest) ∧
      ∀ rest, bs ≠ 0xFF :: 0xFE :: rest := by
  simp only [marks, List.forall_mem_cons, List.not_mem_nil, IsEmpty.forall_iff, implies_true,
    and_true, List.IsPrefix, not_exists, List.cons_append, List.nil_append, ne_eq, eq_comm]

theorem Spells.eq_ofMarked {bs : List UInt8} {text : String} (h : Spells bs text) :
    text = ofMarked bs := by
  cases h with
  | utf8 rest => rw [rest.eq_units]; rfl
  | bigEndian rest => rw [rest.eq_chars]; rfl
  | littleEndian rest => rw [rest.eq_chars]; rfl
  | unmarked plain rest =>
      obtain ⟨utf8, big, little⟩ := plain_iff.mp plain
      rw [rest.eq_units, ofMarked]
      · rfl
      · exact utf8
      · exact big
      · exact little

/-- The text of any octets is the one that they spell. -/
theorem spells_iff {bs : List UInt8} {text : String} : Spells bs text ↔ text = ofMarked bs := by
  refine ⟨Spells.eq_ofMarked, ?_⟩
  intro read
  rw [read]
  unfold ofMarked
  split
  · exact .utf8 (Utf8.spells_iff.mpr rfl)
  · exact .bigEndian ((Utf16.spells_iff unit_lt).mpr rfl)
  · exact .littleEndian ((Utf16.spells_iff fun a b => unit_lt b a).mpr rfl)
  · next utf8 big little =>
      exact .unmarked (plain_iff.mpr ⟨utf8, big, little⟩) (Utf8.spells_iff.mpr rfl)

theorem plain_utf8 {s : String} (h : s.toList.head? ≠ some '\uFEFF') :
    ∀ mark ∈ marks, ¬ mark <+: utf8 s := by
  have start : Utf8.units none (utf8 s) = s.toList.map some := Utf8.units_octets s.toList
  have marked (bs : List UInt8) :
      Utf8.units none (0xEF :: 0xBB :: 0xBF :: bs) = some '\uFEFF' :: Utf8.units none bs :=
    Utf8.units_utf8EncodeChar '\uFEFF' bs
  rw [plain_iff]
  refine ⟨?_, ?_, ?_⟩ <;> intro bs same <;> rw [same] at start
  · rw [marked] at start
    cases chars : s.toList with
    | nil => simp [chars] at start
    | cons c cs =>
        rw [chars, List.map_cons] at start
        obtain ⟨first, -⟩ := List.cons.inj start
        rw [chars, List.head?_cons, first] at h
        exact h rfl
  · cases chars : s.toList <;> simp [chars, Utf8.units, Utf8.lead] at start
  · cases chars : s.toList <;> simp [chars, Utf8.units, Utf8.lead] at start

/-- The octets of a text spell it, unless it starts like a mark. -/
theorem spells_utf8 {s : String} (h : s.toList.head? ≠ some '\uFEFF') : Spells (utf8 s) s := by
  have rest : Utf8.Spells (utf8 s) s.toList := Utf8.spells_octets s.toList
  have spells := Spells.unmarked (plain_utf8 h) rest
  rwa [String.ofList_toList] at spells

end ChequeTeller.Text
