import ChequeTeller.Proofs.Quote.Stages
import ChequeTeller.Proofs.Time.DateText

/-!
The expiry of an invoice in the quote for it. Added up without a bound, the invoice's time and the
seconds until it expires are a second since 1970, and the quote names that second's date, unless a
64-bit word cannot hold it or the dates end before it.
-/

namespace ChequeTeller

open Steps Time

namespace Invoice

/-- The second since 1970 at which the invoice expires, whether or not it fits. -/
def expirySecond (i : Invoice) : Nat :=
  i.timestamp.seconds.toNat + i.expirySecs.toNat

theorem expiresAt_of_lt {i : Invoice} (fits : i.expirySecond < UInt64.size) :
    ∃ t, i.expiresAt = .ok t ∧ t.seconds.toNat = i.expirySecond := by
  refine ⟨⟨i.timestamp.seconds + i.expirySecs⟩, ?_, ?_⟩
  · rw [expiresAt, Instant.later?, ← expirySecond, if_pos fits]
  · rw [UInt64.toNat_add]
    exact Nat.mod_eq_of_lt fits

theorem expiryText_eq (i : Invoice) :
    i.expiryText =
      if UInt64.size ≤ i.expirySecond then .error .expiryOverflow
      else if Instant.lastDated < i.expirySecond then .error .expiryOutOfRange
      else .ok (Instant.civilText (Civil.ofSeconds i.expirySecond)) := by
  by_cases fits : i.expirySecond < UInt64.size
  · obtain ⟨t, expires, second⟩ := expiresAt_of_lt fits
    rw [if_neg (Nat.not_le.mpr fits), expiryText, expires, ← second]
    by_cases dated : t.seconds.toNat ≤ Instant.lastDated
    · have text : t.dateText? = some (Instant.civilText (Civil.ofSeconds t.seconds.toNat)) :=
        if_pos dated
      rw [if_neg (Nat.not_lt.mpr dated)]
      simp only [bind, Except.bind, text]
      rfl
    · have none : t.dateText? = none := if_neg dated
      rw [if_pos (Nat.not_le.mp dated)]
      simp only [bind, Except.bind, none]
  · have overflows : i.expiresAt = .error .expiryOverflow := by
      rw [expiresAt, Instant.later?, ← expirySecond, if_neg fits]
    rw [if_pos (Nat.not_lt.mp fits), expiryText, overflows]
    rfl

theorem expiryText_eq_overflow_iff {i : Invoice} :
    i.expiryText = .error .expiryOverflow ↔ UInt64.size ≤ i.expirySecond := by
  rw [expiryText_eq]
  split_ifs with overflows late
  · exact iff_of_true rfl overflows
  · exact iff_of_false nofun overflows
  · exact iff_of_false nofun overflows

theorem expiryText_eq_outOfRange_iff {i : Invoice} :
    i.expiryText = .error .expiryOutOfRange ↔
      i.expirySecond < UInt64.size ∧ Instant.lastDated < i.expirySecond := by
  rw [expiryText_eq]
  split_ifs with overflows late
  · exact iff_of_false nofun fun ⟨fits, _⟩ => Nat.not_lt.mpr overflows fits
  · exact iff_of_true rfl ⟨Nat.not_le.mp overflows, late⟩
  · exact iff_of_false nofun fun ⟨_, later⟩ => late later

theorem expiryText_eq_ok_iff {i : Invoice} {text : String} :
    i.expiryText = .ok text ↔ i.expirySecond ≤ Instant.lastDated ∧
      Instant.civilText (Civil.ofSeconds i.expirySecond) = text := by
  have fits : Instant.lastDated < UInt64.size := by decide
  rw [expiryText_eq]
  split_ifs with overflows late
  · exact iff_of_false nofun fun ⟨dated, _⟩ => by omega
  · exact iff_of_false nofun fun ⟨dated, _⟩ => Nat.not_lt.mpr dated late
  · rw [Except.ok.injEq, and_iff_right (Nat.not_lt.mp late)]

end Invoice

namespace Quote

variable {i : Invoice} {estimate : Estimate} {height : UInt64} {terms : Terms}

theorem assemble_eq_malformed_iff {cause : InvoiceError} :
    assemble i estimate height terms = .error (.malformedInvoice cause) ↔
      i.expiryText = .error cause := by
  rw [assemble_eq_error_iff]
  refine ⟨?_, fun undated => ⟨cause, undated, rfl⟩⟩
  rintro ⟨_, undated, same⟩
  cases same
  exact undated

theorem expiry_of_assemble {q : Quote} (assembled : assemble i estimate height terms = .ok q) :
    i.expirySecond ≤ Instant.lastDated ∧
      Instant.civilText (Civil.ofSeconds i.expirySecond) = q.expiry := by
  simp only [assemble, bind_eq_ok_iff, mapError_eq_ok_iff, pure_eq_ok_iff] at assembled
  obtain ⟨text, dated, rfl⟩ := assembled
  exact Invoice.expiryText_eq_ok_iff.mp dated

theorem exists_assemble_eq_ok (dated : i.expirySecond ≤ Instant.lastDated) :
    ∃ q, assemble i estimate height terms = .ok q := by
  rw [assemble, Invoice.expiryText_eq_ok_iff.mpr ⟨dated, rfl⟩]
  exact ⟨_, rfl⟩

/-- The expiry in a quote names one date, which is the invoice's time and its seconds until it
expires after the start of 1970. There is no quote if that is past the last 64-bit second, or else
past the last date. -/
theorem expiry_denotes_second (i : Invoice) (estimate : Estimate) (height : UInt64)
    (terms : Terms) :
    let outcome := assemble i estimate height terms
    (outcome = .error (.malformedInvoice .expiryOverflow) ↔ 2 ^ 64 ≤ i.expirySecond) ∧
    (outcome = .error (.malformedInvoice .expiryOutOfRange) ↔
      i.expirySecond < 2 ^ 64 ∧ Instant.lastDate.sinceEpoch < i.expirySecond) ∧
    InvoiceError.expiryOverflow.message = "expiry overflows" ∧
    InvoiceError.expiryOutOfRange.message = "expiry out of range" ∧
    (i.expirySecond < 2 ^ 64 → i.expirySecond ≤ Instant.lastDate.sinceEpoch →
      ∃ q c, outcome = .ok q ∧ (∀ c', Names q.expiry c' ↔ c' = c) ∧ c.Valid ∧
        c.sinceEpoch = i.expirySecond) ∧
    ∀ q i' estimate' height' terms' q', outcome = .ok q →
      assemble i' estimate' height' terms' = .ok q' →
      (q.expiry = q'.expiry ↔ i.expirySecond = i'.expirySecond) := by
  rw [Instant.sinceEpoch_lastDate]
  refine ⟨assemble_eq_malformed_iff.trans Invoice.expiryText_eq_overflow_iff,
    assemble_eq_malformed_iff.trans Invoice.expiryText_eq_outOfRange_iff, rfl, rfl, ?_, ?_⟩
  · intro _ dated
    obtain ⟨q, assembled⟩ : ∃ q, assemble i estimate height terms = .ok q :=
      exists_assemble_eq_ok dated
    obtain ⟨-, text⟩ := expiry_of_assemble assembled
    refine ⟨q, Civil.ofSeconds i.expirySecond, assembled, ?_, Civil.valid_ofSeconds _,
      Civil.sinceEpoch_ofSeconds _⟩
    rw [← text]
    exact fun _ => Instant.names_iff_eq_ofSeconds
  · intro q i' _ _ _ q' assembled assembled'
    obtain ⟨-, text⟩ := expiry_of_assemble assembled
    obtain ⟨-, text'⟩ := expiry_of_assemble assembled'
    rw [← text, ← text']
    refine ⟨Instant.civilText_ofSeconds_inj, ?_⟩
    intro same
    rw [same]

end Quote

end ChequeTeller
