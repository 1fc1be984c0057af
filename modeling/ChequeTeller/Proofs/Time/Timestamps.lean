import ChequeTeller.Proofs.Text.Order
import ChequeTeller.Proofs.Time.Chronology
import ChequeTeller.Proofs.Time.DateText

/-!
Date texts as timestamps after RFC 3339, which gives years four digits, and their order. A date text
is a timestamp up to the year 9999, and that far the texts sort as the dates do. Later years begin
with a plus sign, which sorts before the digits, and are compared from their first digit on, however
many digits they have.
-/

namespace ChequeTeller.Time

open Text.Decimal

/-- A date and time in UTC to the millisecond, `d` for a digit. -/
def timestampForm : String := "dddd-dd-ddTdd:dd:dd.000Z"

def Fits (mark c : Char) : Prop :=
  if mark = 'd' then c.isDigit = true else c = mark

instance : DecidableRel Fits := fun mark c =>
  inferInstanceAs (Decidable (if mark = 'd' then c.isDigit = true else c = mark))

/-- The text has the form that RFC 3339 gives a date and time in UTC. -/
def IsTimestamp (text : String) : Prop :=
  List.Forall₂ Fits timestampForm.toList text.toList

instance (text : String) : Decidable (IsTimestamp text) :=
  inferInstanceAs (Decidable (List.Forall₂ Fits timestampForm.toList text.toList))

theorem IsTimestamp.length {text : String} (h : IsTimestamp text) : text.length = 24 := by
  rw [← String.length_toList, ← List.Forall₂.length_eq h]
  rfl

/-- The texts sort, octet by octet, as the seconds do. -/
def SortByTime (text text' : String) (s s' : Nat) : Prop :=
  (Text.utf8 text < Text.utf8 text' ↔ s < s') ∧ (Text.utf8 text' < Text.utf8 text ↔ s' < s)

theorem SortByTime.symm {text text' : String} {s s' : Nat} (h : SortByTime text text' s s') :
    SortByTime text' text s' s :=
  ⟨h.2, h.1⟩

/-- The texts of two years, the earlier one first, sort as the years do: the later year has four
digits, or both have more and the earlier one is at most as many first digits of the later one. -/
def InStep (year year' : Nat) : Prop :=
  year' < 10000 ∨ 10000 ≤ year ∧
    year ≤ year' / 10 ^ ((numeral year').length - (numeral year).length)

namespace Instant

/-! The characters of a date text. -/

/-- What follows the year in the text of a date. -/
def afterYear (c : Civil) : List Char :=
  '-' :: ((padded 2 c.month).toList ++ '-' :: ((padded 2 c.day).toList ++
    'T' :: ((padded 2 c.hour).toList ++ ':' :: ((padded 2 c.minute).toList ++
    ':' :: ((padded 2 c.second).toList ++ ".000Z".toList)))))

theorem toList_civilText (c : Civil) :
    (civilText c).toList = (yearText c.year).toList ++ afterYear c := by
  have dash : "-".toList = ['-'] := rfl
  have tee : "T".toList = ['T'] := rfl
  have colon : ":".toList = [':'] := rfl
  simp only [civilText, afterYear, String.toList_append, dash, tee, colon, List.append_assoc,
    List.cons_append, List.nil_append]

theorem yearText_early {year : Nat} (early : year < 10000) : yearText year = padded 4 year :=
  if_pos early

theorem toList_yearText_late {year : Nat} (late : 10000 ≤ year) :
    (yearText year).toList = '+' :: (numeral year).toList := by
  rw [yearText, if_neg (Nat.not_lt.mpr late), String.toList_append]
  rfl

theorem fits_digits {ds : List Char} (digits : ∀ c ∈ ds, c.isDigit = true) :
    List.Forall₂ Fits (List.replicate ds.length 'd') ds := by
  induction ds with
  | nil => exact .nil
  | cons d ds ih =>
      obtain ⟨digit, digits⟩ := List.forall_mem_cons.mp digits
      exact .cons digit (ih digits)

theorem fits_padded {width n : Nat} (some_digit : 0 < width) (fits : n < 10 ^ width) :
    List.Forall₂ Fits (List.replicate width 'd') (padded width n).toList := by
  have spells := spells_padded some_digit fits
  have digits := fits_digits spells.digits
  rwa [String.length_toList, spells.length] at digits

/-- Two digits are enough for every field but the year. -/
theorem fields_lt_hundred {c : Civil} (valid : c.Valid) :
    c.month < 10 ^ 2 ∧ c.day < 10 ^ 2 ∧ c.hour < 10 ^ 2 ∧ c.minute < 10 ^ 2 ∧
      c.second < 10 ^ 2 := by
  obtain ⟨month, day, hour, minute, second⟩ := valid
  have days := Civil.daysInMonth_le c.year c.month
  omega

theorem isTimestamp_civilText_iff {c : Civil} (valid : c.Valid) :
    IsTimestamp (civilText c) ↔ c.year < 10000 := by
  unfold IsTimestamp
  rw [toList_civilText]
  refine ⟨?_, ?_⟩
  · intro stamped
    by_contra late
    rw [toList_yearText_late (Nat.not_lt.mp late)] at stamped
    have plus : Fits 'd' '+' := (List.forall₂_cons.mp stamped).1
    exact absurd plus (by decide)
  · intro early
    obtain ⟨month, day, hour, minute, second⟩ := fields_lt_hundred valid
    have two {n : Nat} (fits : n < 10 ^ 2) := fits_padded (by decide : 0 < 2) fits
    rw [yearText_early early]
    exact List.rel_append (fits_padded (by decide : 0 < 4) early)
      (.cons rfl (List.rel_append (two month)
      (.cons rfl (List.rel_append (two day)
      (.cons rfl (List.rel_append (two hour)
      (.cons rfl (List.rel_append (two minute)
      (.cons rfl (List.rel_append (two second)
      (.cons rfl (.cons rfl (.cons rfl (.cons rfl (.cons rfl .nil)))))))))))))))

/-! The order of date texts. -/

theorem ascii_of_spells {text : String} {width n : Nat} (spells : Spells text width n) :
    ∀ d ∈ text.toList, d.toNat < 0x80 := by
  intro d hd
  have range := isDigit_iff.mp (spells.digits d hd)
  omega

theorem ascii_of_names {text : String} {c : Civil} (names : Names text c) :
    ∀ d ∈ text.toList, d.toNat < 0x80 := by
  obtain ⟨year, month, day, hour, minute, second⟩ := names
  have years {text : String} {year : Nat} (spells : SpellsYear text year) :
      ∀ d ∈ text.toList, d.toNat < 0x80 := by
    cases spells with
    | four spells => exact ascii_of_spells spells
    | more spells =>
        rw [String.toList_append, List.forall_mem_append]
        exact ⟨by simp, ascii_of_spells spells⟩
  simp only [String.toList_append, List.forall_mem_append]
  exact ⟨⟨⟨⟨⟨⟨⟨⟨⟨⟨⟨years year, by simp⟩, ascii_of_spells month⟩, by simp⟩, ascii_of_spells day⟩,
    by simp⟩, ascii_of_spells hour⟩, by simp⟩, ascii_of_spells minute⟩, by simp⟩,
    ascii_of_spells second⟩, by simp⟩

theorem utf8_civilText_lt_iff {c c' : Civil} (valid : c.Valid) (valid' : c'.Valid) :
    Text.utf8 (civilText c) < Text.utf8 (civilText c') ↔
      (civilText c).toList < (civilText c').toList :=
  Text.octets_lt_iff (ascii_of_names (names_civilText valid))
    (ascii_of_names (names_civilText valid'))

theorem afterYear_lt_iff {c c' : Civil} (valid : c.Valid) (valid' : c'.Valid) :
    afterYear c < afterYear c' ↔ c.fields.tail < c'.fields.tail := by
  obtain ⟨month, day, hour, minute, second⟩ := fields_lt_hundred valid
  obtain ⟨month', day', hour', minute', second'⟩ := fields_lt_hundred valid'
  have two {n n' : Nat} {rest rest' : List Char} (fits : n < 10 ^ 2) (fits' : n' < 10 ^ 2) :
      (padded 2 n).toList ++ rest < (padded 2 n').toList ++ rest' ↔
        n < n' ∨ n = n' ∧ rest < rest' :=
    padded_append_lt_iff (by decide) fits fits'
  simp only [afterYear, List.cons_lt_cons_self, two month month', two day day', two hour hour',
    two minute minute', two second second']
  simp only [Civil.fields, List.tail_cons, List.cons_lt_cons_iff, List.lt_irrefl]

/-- A year with further digits sorts after a shorter one with the same first digits, since it has a
digit where the shorter one's month follows. -/
theorem afterYear_lt_digits {c : Civil} {ds rest : List Char} (some_digit : ds ≠ [])
    (digits : ∀ d ∈ ds, d.isDigit = true) : afterYear c < ds ++ rest := by
  obtain ⟨d, ds, rfl⟩ := List.exists_cons_of_ne_nil some_digit
  exact List.cons_lt_cons_iff.mpr (.inl (lt_digit (by decide) (digits d List.mem_cons_self)))

theorem earlyYear_not_lt_late {year year' : Nat} (early : year < 10000) (late : 10000 ≤ year')
    {rest rest' : List Char} :
    ¬ (yearText year).toList ++ rest < (yearText year').toList ++ rest' := by
  have spells := spells_padded (by decide : 0 < 4) early
  have some_digit : (padded 4 year).toList ≠ [] := by
    rw [← List.length_pos_iff, String.length_toList, spells.length]
    decide
  obtain ⟨d, ds, first⟩ := List.exists_cons_of_ne_nil some_digit
  have plus : '+' < d :=
    lt_digit (by decide) (spells.digits d (by rw [first]; exact List.mem_cons_self))
  rw [yearText_early early, toList_yearText_late late, first]
  exact List.lt_asymm (List.cons_lt_cons_iff.mpr (.inl plus))

theorem lateYear_lt_iff {year year' : Nat} {c c' : Civil}
    (dates : year < year' ∨ year = year' ∧ afterYear c < afterYear c') :
    (numeral year).toList ++ afterYear c < (numeral year').toList ++ afterYear c' ↔
      year ≤ year' / 10 ^ ((numeral year').length - (numeral year).length) := by
  have spells := spells_numeral year
  have spells' := spells_numeral year'
  have shorter : (numeral year).length ≤ (numeral year').length := length_numeral_mono (by omega)
  rw [← spells.length] at spells
  rw [← spells'.length] at spells'
  rw [spells.append_lt_iff spells' shorter, Nat.le_iff_lt_or_eq]
  refine or_congr_right (and_iff_left_of_imp ?_)
  -- With equal first digits the years are the same, or the later one goes on with a digit.
  intro tie
  rcases Nat.eq_or_lt_of_le shorter with same | longer
  · have none : (numeral year').toList.drop (numeral year).length = [] := by
      rw [same, ← String.length_toList, List.drop_length]
    rw [same, Nat.sub_self, Nat.pow_zero, Nat.div_one] at tie
    obtain less | ⟨-, rest⟩ := dates
    · exact absurd tie (Nat.ne_of_lt less)
    · rwa [none, List.nil_append]
  · refine afterYear_lt_digits ?_ fun d hd => spells'.digits d (List.mem_of_mem_drop hd)
    rw [← List.length_pos_iff, List.length_drop, String.length_toList]
    exact Nat.sub_pos_of_lt longer

theorem civilText_lt_iff {c c' : Civil} (valid : c.Valid) (valid' : c'.Valid)
    (earlier : c.fields < c'.fields) :
    (civilText c).toList < (civilText c').toList ↔ InStep c.year c'.year := by
  have dates : c.year < c'.year ∨ c.year = c'.year ∧ afterYear c < afterYear c' := by
    rw [afterYear_lt_iff valid valid']
    exact List.cons_lt_cons_iff.mp earlier
  rw [toList_civilText, toList_civilText, InStep]
  by_cases early' : c'.year < 10000
  · have early : c.year < 10000 := by omega
    rw [yearText_early early, yearText_early early',
      padded_append_lt_iff (by decide : 0 < 4) early early']
    exact iff_of_true dates (.inl early')
  · have late' := Nat.not_lt.mp early'
    by_cases early : c.year < 10000
    · exact iff_of_false (earlyYear_not_lt_late early late') (by omega)
    · have late := Nat.not_lt.mp early
      rw [toList_yearText_late late, toList_yearText_late late', List.cons_append, List.cons_append,
        List.cons_lt_cons_self, lateYear_lt_iff dates, or_iff_right early', and_iff_right late]

/-- The first date whose year has five digits. -/
def fiveDigitYears : Civil :=
  { year := 10000, month := 1, day := 1, hour := 0, minute := 0, second := 0 }

theorem valid_fiveDigitYears : fiveDigitYears.Valid :=
  { month := by decide, day := by decide, hour := by decide, minute := by decide,
    second := by decide }

theorem year_ofSeconds_lt_iff {s : Nat} :
    (Civil.ofSeconds s).year < 10000 ↔ s < fiveDigitYears.sinceEpoch := by
  have valid := Civil.valid_ofSeconds s
  have since := valid.fields_lt_iff valid_fiveDigitYears (Civil.le_year_ofSeconds s) (by decide)
  obtain ⟨⟨month, -⟩, ⟨day, -⟩, -⟩ := valid
  rw [Civil.sinceEpoch_ofSeconds] at since
  rw [← since]
  simp only [Civil.fields, fiveDigitYears, List.cons_lt_cons_iff, List.lt_irrefl, Nat.not_lt_zero,
    and_false, or_false]
  omega

theorem isTimestamp_ofSeconds_iff {s : Nat} :
    IsTimestamp (civilText (Civil.ofSeconds s)) ↔ s < fiveDigitYears.sinceEpoch :=
  (isTimestamp_civilText_iff (Civil.valid_ofSeconds s)).trans year_ofSeconds_lt_iff

theorem inStep_self (year : Nat) : InStep year year := by
  rw [InStep, Nat.sub_self, Nat.pow_zero, Nat.div_one]
  omega

theorem sortByTime_of_le {s s' : Nat} (ordered : s ≤ s') :
    SortByTime (civilText (Civil.ofSeconds s)) (civilText (Civil.ofSeconds s')) s s' ↔
      InStep (Civil.ofSeconds s).year (Civil.ofSeconds s').year := by
  have valid := Civil.valid_ofSeconds s
  have valid' := Civil.valid_ofSeconds s'
  rw [SortByTime, utf8_civilText_lt_iff valid valid', utf8_civilText_lt_iff valid' valid]
  rcases Nat.eq_or_lt_of_le ordered with rfl | earlier
  · have self := iff_of_false (List.lt_irrefl (civilText (Civil.ofSeconds s)).toList)
      (Nat.lt_irrefl s)
    exact iff_of_true ⟨self, self⟩ (inStep_self _)
  · have sorts := civilText_lt_iff valid valid' (Civil.fields_ofSeconds_lt_iff.mpr earlier)
    refine ⟨fun sorted => sorts.mp (sorted.1.mpr earlier), ?_⟩
    intro inStep
    have less := sorts.mpr inStep
    exact ⟨iff_of_true less earlier, iff_of_false (List.lt_asymm less) (Nat.lt_asymm earlier)⟩

/-- Two date texts sort by time exactly if the earlier and the later year are in step. -/
theorem sortByTime_iff {s s' : Nat} :
    SortByTime (civilText (Civil.ofSeconds s)) (civilText (Civil.ofSeconds s')) s s' ↔
      InStep (Civil.ofSeconds (min s s')).year (Civil.ofSeconds (max s s')).year := by
  rcases Nat.le_total s s' with ordered | ordered
  · rw [Nat.min_eq_left ordered, Nat.max_eq_right ordered]
    exact sortByTime_of_le ordered
  · rw [Nat.min_eq_right ordered, Nat.max_eq_left ordered]
    exact Iff.trans ⟨SortByTime.symm, SortByTime.symm⟩ (sortByTime_of_le ordered)

end Instant

end ChequeTeller.Time
