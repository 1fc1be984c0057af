import ChequeTeller.Proofs.Text.Decimal
import ChequeTeller.Proofs.Time.Calendar
import ChequeTeller.Time.Instant

/-!
Date texts: how a text names a date and a time of day, that it names at most one, and that the text
of a second since 1970 names its date.
-/

namespace ChequeTeller.Time

open Text.Decimal

/-- Years have four digits, or a plus sign and more digits, the first of which is not a zero. -/
inductive SpellsYear : String → Nat → Prop
  | four {text : String} {year : Nat} (spells : Spells text 4 year) : SpellsYear text year
  | more {digits : String} {width year : Nat} (spells : Spells digits width year)
      (long : 4 < width) (whole : digits.toList.head? ≠ some '0') : SpellsYear ("+" ++ digits) year

/-- The text is `year-month-dayThour:minute:second.000Z`. -/
inductive Names : String → Civil → Prop
  | mk {c : Civil} {year month day hour minute second : String}
      (spellsYear : SpellsYear year c.year) (spellsMonth : Spells month 2 c.month)
      (spellsDay : Spells day 2 c.day) (spellsHour : Spells hour 2 c.hour)
      (spellsMinute : Spells minute 2 c.minute) (spellsSecond : Spells second 2 c.second) :
      Names (year ++ "-" ++ month ++ "-" ++ day ++ "T" ++ hour ++ ":" ++ minute ++ ":" ++ second ++
        ".000Z") c

theorem SpellsYear.unique {text text' : String} {year year' : Nat} (h : SpellsYear text year)
    (h' : SpellsYear text' year') (same : text = text') : year = year' := by
  have unsigned {digits : String} {year : Nat} : ¬ Spells ("+" ++ digits) 4 year :=
    fun signed => absurd (signed.digits '+' (by simp)) (by decide)
  cases h with
  | four spells =>
      cases h' with
      | four spells' => exact (spells.append_inj spells' (congrArg ("" ++ ·) same)).2
      | more => exact absurd (same ▸ spells) unsigned
  | more spells =>
      cases h' with
      | four spells' => exact absurd (same ▸ spells') unsigned
      | more spells' =>
          rw [← spells.value, String.append_right_inj _ |>.mp same, spells'.value]

/-- The fields are found from the end of the text, where each but the year has two digits. -/
theorem Names.unique {text text' : String} {c c' : Civil} (h : Names text c) (h' : Names text' c')
    (same : text = text') : c = c' := by
  obtain ⟨year, month, day, hour, minute, second⟩ := h
  obtain ⟨year', month', day', hour', minute', second'⟩ := h'
  obtain ⟨same, seconds⟩ := second.append_inj second' (String.append_left_inj _ |>.mp same)
  obtain ⟨same, minutes⟩ := minute.append_inj minute' (String.append_left_inj _ |>.mp same)
  obtain ⟨same, hours⟩ := hour.append_inj hour' (String.append_left_inj _ |>.mp same)
  obtain ⟨same, days⟩ := day.append_inj day' (String.append_left_inj _ |>.mp same)
  obtain ⟨same, months⟩ := month.append_inj month' (String.append_left_inj _ |>.mp same)
  have years := year.unique year' (String.append_left_inj _ |>.mp same)
  cases c with
  | mk =>
      cases c' with
      | mk => rw [Civil.mk.injEq]; exact ⟨years, months, days, hours, minutes, seconds⟩

namespace Instant

theorem spellsYear_yearText (year : Nat) : SpellsYear (yearText year) year := by
  unfold yearText
  by_cases short : year < 10000
  · rw [if_pos short]
    exact .four (spells_padded (by decide) short)
  · rw [if_neg short]
    refine .more (spells_numeral year) ?_ ?_
    · have long := Nat.length_toDigits_le_iff (n := year) (by decide : 1 < 10) (by decide : 0 < 4)
      omega
    · rw [numeral, String.toList_ofList]
      exact head?_toDigits (by omega)

theorem names_civilText {c : Civil} (valid : c.Valid) : Names (civilText c) c := by
  obtain ⟨month, day, hour, minute, second⟩ := valid
  have days := Civil.daysInMonth_le c.year c.month
  exact .mk (spellsYear_yearText c.year) (spells_padded (by decide) (by omega))
    (spells_padded (by decide) (by omega)) (spells_padded (by decide) (by omega))
    (spells_padded (by decide) (by omega)) (spells_padded (by decide) (by omega))

/-- The text of a second's date names that date and no other. -/
theorem names_iff_eq_ofSeconds {s : Nat} {c : Civil} :
    Names (civilText (Civil.ofSeconds s)) c ↔ c = Civil.ofSeconds s := by
  have named := names_civilText (Civil.valid_ofSeconds s)
  refine ⟨fun names => names.unique named rfl, ?_⟩
  rintro rfl
  exact named

theorem civilText_ofSeconds_inj {s s' : Nat}
    (same : civilText (Civil.ofSeconds s) = civilText (Civil.ofSeconds s')) :
    s = s' := by
  have date : Civil.ofSeconds s = Civil.ofSeconds s' :=
    names_iff_eq_ofSeconds.mp (same ▸ names_iff_eq_ofSeconds.mpr rfl)
  rw [← Civil.sinceEpoch_ofSeconds s, date, Civil.sinceEpoch_ofSeconds]

/-- The last date and time of day, to the second. -/
def lastDate : Civil :=
  { year := 262142, month := 12, day := 31, hour := 23, minute := 59, second := 59 }

theorem sinceEpoch_lastDate : lastDate.sinceEpoch = Instant.lastDated := by
  have valid : lastDate.Valid :=
    { month := by decide, day := by decide, hour := by decide, minute := by decide,
      second := by decide }
  rw [← Civil.toSeconds_eq_sinceEpoch valid (by decide)]
  rfl

end Instant

end ChequeTeller.Time
