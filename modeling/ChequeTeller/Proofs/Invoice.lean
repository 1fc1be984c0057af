import ChequeTeller.Invoice
import ChequeTeller.Proofs.Octets.Text
import ChequeTeller.Proofs.Text.Decimal

/-!
Which decoded payment requests make an invoice. Each of five fields must be well formed, and the
invoice holds the octets and the numbers that they spell and no others. Of any other request the
first field that is not well formed is named. When an invoice expires is left apart.
-/

namespace ChequeTeller.Invoice

open Lightning Steps Text

/-! The fields of a decoded request. -/

inductive Field
  | destination
  | paymentHash
  | integer (field : IntegerField)
  deriving DecidableEq

namespace Field

/-- The fields as they are looked at, one after the other. -/
def inOrder : List Field :=
  [destination, paymentHash, integer .numMsat, integer .timestamp, integer .expiry]

def name : Field → String
  | destination => "destination"
  | paymentHash => "payment_hash"
  | integer field => field.name

def text (d : DecodedRequest) : Field → String
  | destination => d.destination
  | paymentHash => d.paymentHash
  | integer .numMsat => d.numMsat
  | integer .timestamp => d.timestamp
  | integer .expiry => d.expiry

theorem mem_inOrder (f : Field) : f ∈ inOrder := by
  rcases f with _ | _ | field
  · decide
  · decide
  · cases field <;> decide

end Field

/-- One digit or more whose value is `n`, any leading zeros among them, after at most one plus
sign. -/
def SpellsNumber (text : String) (n : Nat) : Prop :=
  ∃ digits width, (text = digits ∨ text = "+" ++ digits) ∧ 0 < width ∧
    Decimal.Spells digits width n

/-- Octets are spelled by twice as many digits, and numbers must fit in 64 bits. -/
def WellFormed (d : DecodedRequest) : Field → Prop
  | .destination => d.destination.length = 66 ∧ ∀ c ∈ d.destination.toList, Hex.IsDigit c
  | .paymentHash => d.paymentHash.length = 64 ∧ ∀ c ∈ d.paymentHash.toList, Hex.IsDigit c
  | .integer field => ∃ n < 2 ^ 64, SpellsNumber (Field.text d (.integer field)) n

/-- What is said of a field that is not well formed. -/
inductive Flaw (d : DecodedRequest) : Field → InvoiceError → Prop
  | destination {cause : OctetsError}
      (read : (Octets.ofHex d.destination : Except OctetsError NodeId) = .error cause) :
      Flaw d .destination (.badDestination cause)
  | paymentHash {cause : OctetsError}
      (read : (Octets.ofHex d.paymentHash : Except OctetsError PaymentHash) = .error cause) :
      Flaw d .paymentHash (.badPaymentHash cause)
  | integer {field : IntegerField} (bad : ¬ WellFormed d (.integer field)) :
      Flaw d (.integer field) (.notInteger field (Field.text d (.integer field)))

/-- The invoice holds what the fields of the request spell. -/
structure Tells (d : DecodedRequest) (i : Invoice) : Prop where
  destination : d.destination.toLower = i.destination.toHex
  paymentHash : d.paymentHash.toLower = i.paymentHash.toHex
  amountMsat : SpellsNumber d.numMsat i.amountMsat.toNat
  timestamp : SpellsNumber d.timestamp i.timestamp.seconds.toNat
  expirySecs : SpellsNumber d.expiry i.expirySecs.toNat

variable {d : DecodedRequest} {e : InvoiceError}

theorem readInteger_eq_ok_iff {field : IntegerField} {text : String} {n : UInt64} :
    readInteger field text = .ok n ↔ SpellsNumber text n.toNat := by
  rw [SpellsNumber, ← Decimal.word64?_eq_some_iff, readInteger]
  cases Decimal.word64? text <;> simp

theorem ofDecoded_eq_ok_iff {i : Invoice} : ofDecoded d = .ok i ↔ Tells d i := by
  simp only [ofDecoded, bind_eq_ok_iff, pure_eq_ok_iff, mapError_eq_ok_iff, Octets.ofHex_eq_ok_iff,
    readInteger_eq_ok_iff]
  refine ⟨?_, ?_⟩
  · rintro ⟨_, destination, _, paymentHash, _, amountMsat, _, timestamp, _, expirySecs, rfl⟩
    exact ⟨destination, paymentHash, amountMsat, timestamp, expirySecs⟩
  · rintro ⟨destination, paymentHash, amountMsat, timestamp, expirySecs⟩
    exact ⟨_, destination, _, paymentHash, _, amountMsat, _, timestamp, _, expirySecs, rfl⟩

/-! Reading one field. -/

/-- The step succeeds if the field is well formed, and else tells its flaw. -/
structure ReadsField {α : Type} (d : DecodedRequest) (f : Field) (x : Except InvoiceError α) :
    Prop where
  ok_iff : (∃ a, x = .ok a) ↔ WellFormed d f
  error_iff : ∀ e, x = .error e ↔ Flaw d f e

theorem readsField_destination (d : DecodedRequest) : ReadsField d .destination
    ((Octets.ofHex d.destination : Except OctetsError NodeId).mapError .badDestination) where
  ok_iff := by
    simp only [mapError_eq_ok_iff]
    exact Octets.exists_ofHex_eq_ok_iff
  error_iff e := by
    rw [mapError_eq_error_iff]
    refine ⟨?_, ?_⟩
    · rintro ⟨cause, read, rfl⟩
      exact .destination read
    · rintro ⟨read⟩
      exact ⟨_, read, rfl⟩

theorem readsField_paymentHash (d : DecodedRequest) : ReadsField d .paymentHash
    ((Octets.ofHex d.paymentHash : Except OctetsError PaymentHash).mapError .badPaymentHash) where
  ok_iff := by
    simp only [mapError_eq_ok_iff]
    exact Octets.exists_ofHex_eq_ok_iff
  error_iff e := by
    rw [mapError_eq_error_iff]
    refine ⟨?_, ?_⟩
    · rintro ⟨cause, read, rfl⟩
      exact .paymentHash read
    · intro flaw
      cases flaw with
      | paymentHash read => exact ⟨_, read, rfl⟩

theorem exists_readInteger_eq_ok_iff (d : DecodedRequest) (field : IntegerField) :
    (∃ n, readInteger field (Field.text d (.integer field)) = .ok n) ↔
      WellFormed d (.integer field) := by
  simp only [readInteger_eq_ok_iff]
  refine ⟨?_, ?_⟩
  · rintro ⟨n, spells⟩
    exact ⟨n.toNat, n.toNat_lt, spells⟩
  · rintro ⟨n, fits, spells⟩
    exact ⟨UInt64.ofNat n, by rwa [UInt64.toNat_ofNat_of_lt' fits]⟩

theorem readInteger_eq_error_iff {field : IntegerField} {text : String} :
    readInteger field text = .error e ↔
      (¬ ∃ n, readInteger field text = .ok n) ∧ e = .notInteger field text := by
  unfold readInteger
  cases Decimal.word64? text <;> simp [eq_comm]

theorem readsField_integer (d : DecodedRequest) (field : IntegerField) :
    ReadsField d (.integer field) (readInteger field (Field.text d (.integer field))) where
  ok_iff := exists_readInteger_eq_ok_iff d field
  error_iff e := by
    rw [readInteger_eq_error_iff, exists_readInteger_eq_ok_iff]
    refine ⟨?_, ?_⟩
    · rintro ⟨bad, rfl⟩
      exact .integer bad
    · intro flaw
      cases flaw with
      | integer bad => exact ⟨bad, rfl⟩

/-! All fields, one after the other. -/

/-- All fields before one with that flaw are well formed. -/
def NamesFirst (d : DecodedRequest) (e : InvoiceError) : List Field → Prop
  | [] => False
  | f :: fs => Flaw d f e ∨ WellFormed d f ∧ NamesFirst d e fs

theorem namesFirst_iff {fs : List Field} :
    NamesFirst d e fs ↔ ∃ before f after, fs = before ++ f :: after ∧
      (∀ g ∈ before, WellFormed d g) ∧ Flaw d f e := by
  refine ⟨?_, ?_⟩
  · intro names
    induction fs with
    | nil => cases names
    | cons f fs ih =>
        obtain flaw | ⟨formed, names⟩ := names
        · exact ⟨[], f, fs, rfl, nofun, flaw⟩
        · obtain ⟨before, g, after, rfl, good, flaw⟩ := ih names
          exact ⟨f :: before, g, after, rfl, List.forall_mem_cons.mpr ⟨formed, good⟩, flaw⟩
  · rintro ⟨before, f, after, rfl, good, flaw⟩
    induction before with
    | nil => exact .inl flaw
    | cons g before ih =>
        obtain ⟨formed, good⟩ := List.forall_mem_cons.mp good
        exact .inr ⟨formed, ih good⟩

theorem ReadsField.bind_eq_error_iff {α β : Type} {f : Field} {fs : List Field}
    {x : Except InvoiceError α} {rest : α → Except InvoiceError β} (reads : ReadsField d f x)
    (later : ∀ a, rest a = .error e ↔ NamesFirst d e fs) :
    (x >>= rest) = .error e ↔ NamesFirst d e (f :: fs) := by
  simp only [Steps.bind_eq_error_iff, later, reads.error_iff, exists_and_right, reads.ok_iff,
    NamesFirst]

theorem ofDecoded_eq_error_iff : ofDecoded d = .error e ↔ NamesFirst d e Field.inOrder := by
  unfold ofDecoded
  refine (readsField_destination d).bind_eq_error_iff fun _ => ?_
  refine (readsField_paymentHash d).bind_eq_error_iff fun _ => ?_
  refine (readsField_integer d .numMsat).bind_eq_error_iff fun _ => ?_
  refine (readsField_integer d .timestamp).bind_eq_error_iff fun _ => ?_
  refine (readsField_integer d .expiry).bind_eq_error_iff fun _ => ?_
  exact iff_of_false nofun id

theorem ReadsField.exists_bind_eq_ok_iff {α β : Type} {f : Field} {fs : List Field}
    {x : Except InvoiceError α} {rest : α → Except InvoiceError β} (reads : ReadsField d f x)
    (later : ∀ a, (∃ b, rest a = .ok b) ↔ ∀ g ∈ fs, WellFormed d g) :
    (∃ b, (x >>= rest) = .ok b) ↔ ∀ g ∈ f :: fs, WellFormed d g := by
  rw [List.forall_mem_cons, ← reads.ok_iff]
  simp only [bind_eq_ok_iff]
  refine ⟨?_, ?_⟩
  · rintro ⟨b, a, read, made⟩
    exact ⟨⟨a, read⟩, (later a).mp ⟨b, made⟩⟩
  · rintro ⟨⟨a, read⟩, formed⟩
    obtain ⟨b, made⟩ := (later a).mpr formed
    exact ⟨b, a, read, made⟩

theorem exists_ofDecoded_eq_ok_iff : (∃ i, ofDecoded d = .ok i) ↔ ∀ f, WellFormed d f := by
  have all : (∀ f, WellFormed d f) ↔ ∀ f ∈ Field.inOrder, WellFormed d f :=
    ⟨fun formed f _ => formed f, fun formed f => formed f f.mem_inOrder⟩
  rw [all]
  unfold ofDecoded
  refine (readsField_destination d).exists_bind_eq_ok_iff fun _ => ?_
  refine (readsField_paymentHash d).exists_bind_eq_ok_iff fun _ => ?_
  refine (readsField_integer d .numMsat).exists_bind_eq_ok_iff fun _ => ?_
  refine (readsField_integer d .timestamp).exists_bind_eq_ok_iff fun _ => ?_
  refine (readsField_integer d .expiry).exists_bind_eq_ok_iff fun _ => ?_
  exact iff_of_true ⟨_, rfl⟩ nofun

/-! The flaw that is named. -/

theorem ReadsField.not_wellFormed {α : Type} {f : Field} {x : Except InvoiceError α}
    (reads : ReadsField d f x) (flaw : Flaw d f e) : ¬ WellFormed d f := by
  intro formed
  obtain ⟨a, read⟩ := reads.ok_iff.mpr formed
  have failed := (reads.error_iff e).mpr flaw
  rw [read] at failed
  cases failed

theorem Flaw.not_wellFormed {f : Field} (flaw : Flaw d f e) : ¬ WellFormed d f :=
  match f with
  | .destination => (readsField_destination d).not_wellFormed flaw
  | .paymentHash => (readsField_paymentHash d).not_wellFormed flaw
  | .integer field => (readsField_integer d field).not_wellFormed flaw

theorem Flaw.message {f : Field} (flaw : Flaw d f e) :
    ∃ complaint, e.message = f.name ++ complaint := by
  cases flaw with
  | @destination cause | @paymentHash cause =>
      refine ⟨": " ++ cause.message, ?_⟩
      rw [← String.append_assoc]
      rfl
  | @integer field =>
      refine ⟨" is not an integer: " ++ Quoted.text (Field.text d (.integer field)), ?_⟩
      rw [← String.append_assoc]
      rfl

/-- A decoded request is an invoice if all of its fields are well formed, and the invoice holds
exactly what they spell. Else it is malformed, and the first field that is not well formed is
named. -/
theorem ofDecoded_reads_fields (d : DecodedRequest) :
    ((∃ i, ofDecoded d = .ok i) ↔ ∀ f, WellFormed d f) ∧
    (∀ i, ofDecoded d = .ok i ↔ Tells d i) ∧
    ∀ e, ofDecoded d = .error e ↔ ∃ before f after, Field.inOrder = before ++ f :: after ∧
      (∀ g ∈ before, WellFormed d g) ∧ ¬ WellFormed d f ∧ Flaw d f e ∧
      ∃ complaint, (TellerError.malformedInvoice e).message =
        "malformed invoice: " ++ (f.name ++ complaint) := by
  refine ⟨exists_ofDecoded_eq_ok_iff, fun _ => ofDecoded_eq_ok_iff, ?_⟩
  intro e
  rw [ofDecoded_eq_error_iff, namesFirst_iff]
  refine ⟨?_, ?_⟩
  · rintro ⟨before, f, after, order, formed, flaw⟩
    obtain ⟨complaint, told⟩ := flaw.message
    exact ⟨before, f, after, order, formed, flaw.not_wellFormed, flaw, complaint,
      congrArg ("malformed invoice: " ++ ·) told⟩
  · rintro ⟨before, f, after, order, formed, -, flaw, -⟩
    exact ⟨before, f, after, order, formed, flaw⟩

end ChequeTeller.Invoice
