import ChequeTeller.Json.Reading
import ChequeTeller.Proofs.Json.Numbers
import ChequeTeller.Proofs.Json.Strings

/-!
Values read back. The text of a value whose numbers are integers of 64 bits is read as the document
of that value, and an integer is read from its numeral only. Values with other numbers, and texts
with blanks between the parts of a value, are left apart.
-/

namespace ChequeTeller.Json

open Document Text

/-- All numbers in the value are integers of 64 bits. -/
inductive Integral : Json → Prop
  | null : Integral .null
  | bool (b : Bool) : Integral (.bool b)
  | number {n : Int} (sized : IsWordSized n) : Integral (.number (.integer n))
  | string (s : String) : Integral (.string s)
  | array {items : List Json} (inner : ∀ item ∈ items, Integral item) : Integral (.array items)
  | object {members : List (String × Json)} (inner : ∀ m ∈ members, Integral m.2) :
      Integral (.object members)

/-- Whatever follows it, the text of the value is read as its document, up to its end. The fuel
counts characters: none is spent without one of the text being passed. -/
def ReadsBack (j : Json) : Prop :=
  ∀ fuel rest, (print j).length ≤ fuel → NumberEnds rest →
    readValue (fuel + 1) (octets (print j) ++ rest) = (j.toDocument, rest)

theorem skipBlanks_cons {b : UInt8} (h : Document.isBlank b = false) (bs : List UInt8) :
    skipBlanks (b :: bs) = b :: bs := by
  rw [skipBlanks, List.dropWhile_cons_of_neg (h ▸ Bool.false_ne_true)]

/-! What begins a number, or ends it. -/

theorem numberEnds_nil : NumberEnds [] := ⟨nofun, nofun, nofun, nofun⟩

theorem numberEnds_cons {b : UInt8} (digit : isDigit b = false) (point : b ≠ 0x2E)
    (exponent : b ≠ 0x65 ∧ b ≠ 0x45) (bs : List UInt8) : NumberEnds (b :: bs) where
  noDigit := by rintro _ ⟨⟩; exact digit
  noPoint := by simpa using point
  noExponent := by simpa using exponent

/-- A digit or a minus sign. -/
def BeginsNumber (b : UInt8) : Prop :=
  isDigit b = true ∨ b = 0x2D

theorem exists_octets_printNumber (n : Int) :
    ∃ b bs, BeginsNumber b ∧ octets (printNumber (.integer n)) = b :: bs := by
  cases n with
  | ofNat k =>
      obtain ⟨b, bs, same, digit⟩ := exists_octets_toDigits k
      exact ⟨b, bs, .inl digit, same⟩
  | negSucc k => exact ⟨0x2D, _, .inr rfl, rfl⟩

theorem readValue_of_beginsNumber {b : UInt8} (begins : BeginsNumber b) (fuel : Nat)
    (bs : List UInt8) :
    readValue (fuel + 1) (b :: bs) =
      match numeral? (b :: bs) with
      | some (n, rest) => (.number n.number?, rest)
      | none => (.broken, []) := by
  obtain digit | rfl := begins
  · obtain ⟨low, high⟩ := isDigit_iff.mp digit
    rw [← UInt8.ofNat_toNat (x := b)]
    generalize b.toNat = n at *
    interval_cases n <;> rfl
  · rfl

/-! Scalars. -/

theorem readsBack_null : ReadsBack .null := fun _ _ _ _ => rfl

theorem readsBack_bool (b : Bool) : ReadsBack (.bool b) := by
  intro fuel rest _ _
  cases b <;> rfl

theorem readsBack_number {n : Int} (sized : IsWordSized n) : ReadsBack (.number (.integer n)) := by
  intro fuel rest _ ends
  obtain ⟨m, read, integer⟩ := numeral?_integer_iff.mpr ⟨sized, ends, rfl⟩
  obtain ⟨b, bs, begins, same⟩ := exists_octets_printNumber n
  rw [same, List.cons_append] at read
  rw [print, same, List.cons_append, readValue_of_beginsNumber begins, read]
  simp only [integer]
  rfl

theorem octets_printString (s : String) (rest : List UInt8) :
    octets (printString s) ++ rest =
      0x22 :: (octets (s.toList.flatMap escapeChar) ++ 0x22 :: rest) := by
  rw [printString, octets_cons, octets_append, List.append_assoc, List.append_assoc]
  rfl

theorem readsBack_string (s : String) : ReadsBack (.string s) := by
  intro fuel rest _ _
  obtain ⟨ps, read, spelled⟩ := exists_pieces_printString s rest
  have quoted (bs : List UInt8) : readValue (fuel + 1) (0x22 :: bs) = readScalar 0x22 bs := rfl
  rw [print, octets_printString, quoted, readScalar, if_pos rfl, read]
  simp only [spelled]
  rfl

/-! Arrays and objects. -/

/-- No blank and no closing bracket begins the text of a value. -/
theorem exists_octets_print {j : Json} (h : Integral j) :
    ∃ b bs, octets (print j) = b :: bs ∧ Document.isBlank b = false ∧ b ≠ 0x5D := by
  cases h with
  | null => exact ⟨_, _, rfl, rfl, by decide⟩
  | bool b => cases b <;> exact ⟨_, _, rfl, rfl, by decide⟩
  | string s => exact ⟨_, _, rfl, rfl, by decide⟩
  | array _ => exact ⟨_, _, rfl, rfl, by decide⟩
  | object _ => exact ⟨_, _, rfl, rfl, by decide⟩
  | @number n _ =>
      obtain ⟨b, bs, begins, same⟩ := exists_octets_printNumber n
      refine ⟨b, bs, same, ?_⟩
      obtain digit | rfl := begins
      · obtain ⟨low, high⟩ := isDigit_iff.mp digit
        rw [← UInt8.ofNat_toNat (x := b)]
        generalize b.toNat = n at *
        interval_cases n <;> decide
      · decide

section

variable {fuel : Nat} {bytes after rest : List UInt8}

theorem readItems_of_last {item : Document}
    (read : readValue fuel bytes = (item, 0x5D :: rest)) :
    readItems (fuel + 1) bytes = ([item], true, rest) := by
  rw [readItems, read]
  rfl

theorem readItems_of_comma {item : Document} {items : List Document}
    (read : readValue fuel bytes = (item, 0x2C :: after))
    (later : readItems fuel after = (items, true, rest)) :
    readItems (fuel + 1) bytes = (item :: items, true, rest) := by
  have comma : skipBlanks (0x2C :: after) = 0x2C :: after := skipBlanks_cons rfl after
  rw [readItems, read]
  simp only [comma, later]

theorem readItems_print {item : Json} {items : List Json}
    (back : ∀ j ∈ item :: items, ReadsBack j)
    (bound : (print item ++ printMoreItems items).length ≤ fuel) :
    readItems (fuel + 1) (octets (print item ++ printMoreItems items) ++ rest) =
      (itemDocuments (item :: items), true, rest) := by
  -- The comma or bracket after an item pays for the step from the items to the item.
  induction items generalizing item fuel with
  | nil =>
      rw [printMoreItems, List.length_append, List.length_singleton] at bound
      obtain ⟨fuel, rfl⟩ := Nat.exists_eq_add_of_le' (show 1 ≤ fuel by omega)
      have read := back item List.mem_cons_self fuel (0x5D :: rest) (by omega)
        (numberEnds_cons rfl (by decide) (by decide) rest)
      rw [octets_append, List.append_assoc]
      exact readItems_of_last read
  | cons next items ih =>
      rw [printMoreItems, List.length_append, List.length_cons] at bound
      obtain ⟨fuel, rfl⟩ := Nat.exists_eq_add_of_le' (show 1 ≤ fuel by omega)
      obtain ⟨first, others⟩ := List.forall_mem_cons.mp back
      have later : readItems (fuel + 1) (octets (print next ++ printMoreItems items) ++ rest) =
          (itemDocuments (next :: items), true, rest) := ih others (by omega)
      have read := first fuel
        (0x2C :: (octets (print next ++ printMoreItems items) ++ rest)) (by omega)
        (numberEnds_cons rfl (by decide) (by decide) _)
      rw [octets_append, List.append_assoc]
      exact readItems_of_comma read later

theorem readMembers_of_last {value : Document} (name : String)
    (read : readValue fuel bytes = (value, 0x7D :: rest)) :
    readMembers (fuel + 1) (octets (printString name) ++ 0x3A :: bytes) =
      ([(some name, value)], true, rest) := by
  obtain ⟨ps, named, spelled⟩ := exists_pieces_printString name (0x3A :: bytes)
  have quote (bs : List UInt8) : skipBlanks (0x22 :: bs) = 0x22 :: bs := skipBlanks_cons rfl bs
  have colon : skipBlanks (0x3A :: bytes) = 0x3A :: bytes := skipBlanks_cons rfl bytes
  have brace : skipBlanks (0x7D :: rest) = 0x7D :: rest := skipBlanks_cons rfl rest
  rw [octets_printString, readMembers]
  simp only [quote, named, colon, spelled, read, brace]

theorem readMembers_of_comma {value : Document} {members : List (Option String × Document)}
    (name : String) (read : readValue fuel bytes = (value, 0x2C :: after))
    (later : readMembers fuel after = (members, true, rest)) :
    readMembers (fuel + 1) (octets (printString name) ++ 0x3A :: bytes) =
      ((some name, value) :: members, true, rest) := by
  obtain ⟨ps, named, spelled⟩ := exists_pieces_printString name (0x3A :: bytes)
  have quote (bs : List UInt8) : skipBlanks (0x22 :: bs) = 0x22 :: bs := skipBlanks_cons rfl bs
  have colon : skipBlanks (0x3A :: bytes) = 0x3A :: bytes := skipBlanks_cons rfl bytes
  have comma : skipBlanks (0x2C :: after) = 0x2C :: after := skipBlanks_cons rfl after
  rw [octets_printString, readMembers]
  simp only [quote, named, colon, spelled, read, comma, later]

theorem octets_printMembers (name : String) (value : Json) (members : List (String × Json))
    (rest : List UInt8) :
    octets (printMembers ((name, value) :: members)) ++ rest =
      octets (printString name) ++ 0x3A ::
        (octets (print value) ++ (octets (printMoreMembers members) ++ rest)) := by
  rw [printMembers, octets_append, octets_cons, octets_append, List.append_assoc, List.append_assoc,
    List.append_assoc]
  rfl

theorem readMembers_print {name : String} {value : Json} {members : List (String × Json)}
    (back : ∀ m ∈ (name, value) :: members, ReadsBack m.2)
    (bound : (printMembers ((name, value) :: members)).length ≤ fuel) :
    readMembers (fuel + 1) (octets (printMembers ((name, value) :: members)) ++ rest) =
      (memberDocuments ((name, value) :: members), true, rest) := by
  induction members generalizing name value fuel with
  | nil =>
      simp only [printMembers, printMoreMembers, List.length_append, List.length_cons] at bound
      obtain ⟨fuel, rfl⟩ := Nat.exists_eq_add_of_le' (show 1 ≤ fuel by omega)
      have first : ReadsBack value := back (name, value) List.mem_cons_self
      have read := first fuel (0x7D :: rest) (by omega)
        (numberEnds_cons rfl (by decide) (by decide) rest)
      rw [octets_printMembers]
      exact readMembers_of_last name read
  | cons next members ih =>
      simp only [printMembers, printMoreMembers, List.length_append, List.length_cons] at bound
      obtain ⟨fuel, rfl⟩ := Nat.exists_eq_add_of_le' (show 1 ≤ fuel by omega)
      obtain ⟨first, others⟩ := List.forall_mem_cons.mp back
      have later : readMembers (fuel + 1) (octets (printMembers (next :: members)) ++ rest) =
          (memberDocuments (next :: members), true, rest) := by
        refine ih others ?_
        simp only [printMembers, List.length_append, List.length_cons]
        omega
      have first : ReadsBack value := first
      have read := first fuel (0x2C :: (octets (printMembers (next :: members)) ++ rest)) (by omega)
        (numberEnds_cons rfl (by decide) (by decide) _)
      rw [octets_printMembers]
      exact readMembers_of_comma name read later

end

/-- An array that begins with no closing bracket is read item by item. -/
theorem readValue_array {b : UInt8} (blank : Document.isBlank b = false) (opens : b ≠ 0x5D)
    (fuel : Nat) (bs : List UInt8) :
    readValue (fuel + 1) (0x5B :: b :: bs) =
      let (items, closed, rest) := readItems fuel (b :: bs)
      (.array items closed, rest) := by
  have bracket : skipBlanks (0x5B :: b :: bs) = 0x5B :: b :: bs := skipBlanks_cons rfl _
  rw [readValue]
  simp only [bracket, if_true, skipBlanks_cons blank]
  split
  · next closes => exact absurd (List.cons.inj closes).1 opens
  · rfl

theorem readValue_object (fuel : Nat) (bs : List UInt8) :
    readValue (fuel + 1) (0x7B :: 0x22 :: bs) =
      let (members, closed, rest) := readMembers fuel (0x22 :: bs)
      (.object members closed, rest) := rfl

theorem readsBack {j : Json} (h : Integral j) : ReadsBack j := by
  induction h with
  | null => exact readsBack_null
  | bool b => exact readsBack_bool b
  | number sized => exact readsBack_number sized
  | string s => exact readsBack_string s
  | @array items inner ih =>
      intro fuel rest bound _
      cases items with
      | nil => rfl
      | cons item items =>
          obtain ⟨b, bs, same, blank, opens⟩ := exists_octets_print (inner item List.mem_cons_self)
          rw [print, printItems, List.length_cons] at bound
          obtain ⟨fuel, rfl⟩ := Nat.exists_eq_add_of_le' (show 1 ≤ fuel by omega)
          have read : readItems (fuel + 1) (octets (print item ++ printMoreItems items) ++ rest) =
              (itemDocuments (item :: items), true, rest) := readItems_print ih (by omega)
          rw [print, printItems, octets_cons, List.append_assoc]
          rw [octets_append, same, List.append_assoc, List.cons_append] at read ⊢
          refine (readValue_array blank opens (fuel + 1) _).trans ?_
          rw [read]
          rfl
  | @object members inner ih =>
      intro fuel rest bound _
      cases members with
      | nil => rfl
      | cons m members =>
          obtain ⟨name, value⟩ := m
          rw [print, List.length_cons] at bound
          obtain ⟨fuel, rfl⟩ := Nat.exists_eq_add_of_le' (show 1 ≤ fuel by omega)
          have read : readMembers (fuel + 1)
              (octets (printMembers ((name, value) :: members)) ++ rest) =
                (memberDocuments ((name, value) :: members), true, rest) :=
            readMembers_print ih (by omega)
          rw [print, octets_cons, List.append_assoc]
          rw [octets_printMembers, octets_printString] at read ⊢
          refine (readValue_object (fuel + 1) _).trans ?_
          rw [read]
          rfl

theorem readFirst_utf8_render {j : Json} (h : Integral j) :
    readFirst (utf8 j.render) = (j.toDocument, []) := by
  have longer := length_le_octets (print j)
  have read := readsBack h (2 * (octets (print j)).length + 1) [] (by omega) numberEnds_nil
  rw [List.append_nil] at read
  rw [render, utf8_ofList]
  exact read

/-- Reading the text of a value is reading its document. -/
theorem readText_utf8_render {α : Type} (read : Document → Reading α) {j : Json} (h : Integral j) :
    readText read (utf8 j.render) = read j.toDocument := by
  rw [readText, readFirst_utf8_render h]
  change (read j.toDocument >>= fun value => pure value) = _
  exact bind_pure _

/-! Integers in any text. -/

theorem readScalar_integer {b : UInt8} {bs rest : List UInt8} {n : Int}
    (read : readScalar b bs = (.number (some (.integer n)), rest)) :
    ∃ m, numeral? (b :: bs) = some (m, rest) ∧ m.number? = some (.integer n) := by
  have no_word {tail : List UInt8} {d : Document} (other : d ≠ .number (some (.integer n))) :
      readWord tail d bs ≠ (.number (some (.integer n)), rest) := by
    unfold readWord
    split
    · exact fun same => other (Prod.mk.inj same).1
    · nofun
  unfold readScalar at read
  split at read
  · split at read <;> cases read
  split at read
  · exact absurd read (no_word nofun)
  split at read
  · exact absurd read (no_word nofun)
  split at read
  · exact absurd read (no_word nofun)
  split at read
  · next m after numeral =>
      obtain ⟨number, rfl⟩ := Prod.mk.inj read
      exact ⟨m, numeral, Document.number.inj number⟩
  · cases read

theorem readValue_integer {fuel : Nat} {bytes rest : List UInt8} {n : Int}
    (read : readValue (fuel + 1) bytes = (.number (some (.integer n)), rest)) :
    ∃ m, numeral? (skipBlanks bytes) = some (m, rest) ∧ m.number? = some (.integer n) := by
  rw [readValue] at read
  split at read
  · cases read
  · next b bs same =>
      rw [same]
      split at read
      · split at read
        · cases read
        · cases read
      · split at read
        · split at read
          · cases read
          · cases read
        · exact readScalar_integer read

theorem readValue_blanks {blanks : List UInt8} (blank : ∀ b ∈ blanks, Document.isBlank b = true)
    (fuel : Nat) (bytes : List UInt8) :
    readValue (fuel + 1) (blanks ++ bytes) = readValue (fuel + 1) bytes := by
  have skipped : skipBlanks (blanks ++ bytes) = skipBlanks bytes :=
    List.dropWhile_append_of_pos blank
  rw [readValue, readValue, skipped]

/-- An integer is read where its numeral is written, after blanks if there are any, and nowhere
else. -/
theorem readFirst_integer_iff {bytes rest : List UInt8} {n : Int} :
    readFirst bytes = (.number (some (.integer n)), rest) ↔
      IsWordSized n ∧ NumberEnds rest ∧ ∃ blanks, (∀ b ∈ blanks, Document.isBlank b = true) ∧
        bytes = blanks ++ octets (print (.number (.integer n))) ++ rest := by
  refine ⟨?_, ?_⟩
  · intro read
    obtain ⟨sized, ends, split⟩ := numeral?_integer_iff.mp (readValue_integer read)
    refine ⟨sized, ends, bytes.takeWhile Document.isBlank,
      List.all_eq_true.mp List.all_takeWhile, ?_⟩
    rw [print, List.append_assoc, ← split, skipBlanks, List.takeWhile_append_dropWhile]
  · rintro ⟨sized, ends, blanks, blank, rfl⟩
    have longer := length_le_octets (print (.number (.integer n)))
    rw [readFirst, List.append_assoc, readValue_blanks blank]
    refine readsBack (.number sized) _ rest ?_ ends
    simp only [List.length_append]
    omega

end ChequeTeller.Json
