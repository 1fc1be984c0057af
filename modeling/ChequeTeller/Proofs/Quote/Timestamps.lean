import ChequeTeller.Proofs.Quote.Expiry
import ChequeTeller.Proofs.Time.Timestamps

/-!
The expiries in quotes as timestamps after RFC 3339. They are that for all invoices that expire before
the year 10000, and that far they sort by time. An invoice may expire later than that and still be
quoted: which of the texts sort by time then is said in full.
-/

namespace ChequeTeller.Quote

open Time Instant

/-- The expiry in a quote is a timestamp exactly if it lies before the year 10000. Two expiries sort
by time exactly if the earlier and the later year are in step, as those of any two timestamps are. -/
theorem expiry_isTimestamp_iff {i : Invoice} {estimate : Estimate} {height : UInt64} {terms : Terms}
    {q : Quote} (assembled : assemble i estimate height terms = .ok q) :
    (IsTimestamp q.expiry ↔ i.expirySecond < fiveDigitYears.sinceEpoch) ∧
    (IsTimestamp q.expiry → q.expiry.length = 24) ∧
    (∃ c, Names q.expiry c ∧ c.Valid ∧ c.sinceEpoch = i.expirySecond) ∧
    ∀ i' estimate' height' terms' q', assemble i' estimate' height' terms' = .ok q' →
      (IsTimestamp q.expiry → IsTimestamp q'.expiry →
        SortByTime q.expiry q'.expiry i.expirySecond i'.expirySecond) ∧
      (SortByTime q.expiry q'.expiry i.expirySecond i'.expirySecond ↔
        InStep (Civil.ofSeconds (min i.expirySecond i'.expirySecond)).year
          (Civil.ofSeconds (max i.expirySecond i'.expirySecond)).year) := by
  obtain ⟨-, text⟩ := expiry_of_assemble assembled
  rw [← text]
  refine ⟨isTimestamp_ofSeconds_iff, IsTimestamp.length,
    ⟨_, names_iff_eq_ofSeconds.mpr rfl, Civil.valid_ofSeconds _, Civil.sinceEpoch_ofSeconds _⟩, ?_⟩
  intro i' _ _ _ q' assembled'
  obtain ⟨-, text'⟩ := expiry_of_assemble assembled'
  rw [← text']
  refine ⟨?_, sortByTime_iff⟩
  intro stamped stamped'
  rw [isTimestamp_ofSeconds_iff] at stamped stamped'
  exact sortByTime_iff.mpr (.inl (year_ofSeconds_lt_iff.mpr (Nat.max_lt.mpr ⟨stamped, stamped'⟩)))

/-- An invoice that expires an hour after it was made. -/
def hourInvoice (made : UInt64) : Invoice where
  destination := ⟨List.replicate 33 2, rfl⟩
  paymentHash := ⟨List.replicate 32 0xCD, rfl⟩
  amountMsat := 100000
  timestamp := ⟨made⟩
  expirySecs := 3600

def freeRoute : Estimate where
  route := { totalFeesMsat := some 0, totalTimeLock := 800144 }
  routingFeeMsat := 0

/-- The quote for such an invoice, along such a route. -/
def hourQuote (expiry : String) : Quote where
  amount := 100000
  recipient := ⟨List.replicate 33 2, rfl⟩
  paymentHash := ⟨List.replicate 32 0xCD, rfl⟩
  routingFee := 0
  expiry
  estimatedTimeoutSecs := 86400

theorem lastTimestamp_sorts :
    let early := hourQuote "2023-11-14T23:13:20.000Z"
    let last := hourQuote "9999-12-31T23:59:59.000Z"
    assemble (hourInvoice 1700000000) freeRoute 800000 {} = .ok early ∧
    assemble (hourInvoice 253402297199) freeRoute 800000 {} = .ok last ∧
    IsTimestamp early.expiry ∧ IsTimestamp last.expiry ∧
    SortByTime early.expiry last.expiry (hourInvoice 1700000000).expirySecond
      (hourInvoice 253402297199).expirySecond := by
  intro early last
  have quoted : assemble (hourInvoice 1700000000) freeRoute 800000 {} = .ok early := rfl
  have quoted' : assemble (hourInvoice 253402297199) freeRoute 800000 {} = .ok last := rfl
  have stamped : IsTimestamp early.expiry := by decide
  have stamped' : IsTimestamp last.expiry := by decide
  obtain ⟨-, -, -, sorts⟩ := expiry_isTimestamp_iff quoted
  exact ⟨quoted, quoted', stamped, stamped', (sorts _ _ _ _ _ quoted').1 stamped stamped'⟩

/-- A second after the last timestamp the expiry has a plus sign and five digits for the year, and
sorts before it. So does the first expiry with six digits, before the last one with five. -/
theorem expiry_of_long_year_sorts_early :
    let last := hourQuote "9999-12-31T23:59:59.000Z"
    let next := hourQuote "+10000-01-01T00:00:00.000Z"
    let five := hourQuote "+99999-12-31T23:59:59.000Z"
    let six := hourQuote "+100000-01-01T00:00:00.000Z"
    assemble (hourInvoice 253402297199) freeRoute 800000 {} = .ok last ∧
    assemble (hourInvoice 253402297200) freeRoute 800000 {} = .ok next ∧
    ¬ IsTimestamp next.expiry ∧ next.expiry.length = 26 ∧
    Text.utf8 next.expiry < Text.utf8 last.expiry ∧
    ¬ SortByTime last.expiry next.expiry (hourInvoice 253402297199).expirySecond
      (hourInvoice 253402297200).expirySecond ∧
    assemble (hourInvoice 3093527977199) freeRoute 800000 {} = .ok five ∧
    assemble (hourInvoice 3093527977200) freeRoute 800000 {} = .ok six ∧
    ¬ SortByTime five.expiry six.expiry (hourInvoice 3093527977199).expirySecond
      (hourInvoice 3093527977200).expirySecond := by
  intro last next five six
  have before : Text.utf8 next.expiry < Text.utf8 last.expiry := by decide
  have before' : Text.utf8 six.expiry < Text.utf8 five.expiry := by decide
  refine ⟨rfl, rfl, by decide, by decide, before, ?_, rfl, rfl, ?_⟩
  · intro sorts
    exact absurd (sorts.2.mp before) (by decide)
  · intro sorts
    exact absurd (sorts.2.mp before') (by decide)

end ChequeTeller.Quote
