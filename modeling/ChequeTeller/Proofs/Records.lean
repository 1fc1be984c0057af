import ChequeTeller.Invoice
import ChequeTeller.Lightning.Answers
import ChequeTeller.PayRequest
import ChequeTeller.Proofs.Json.Records
import ChequeTeller.Proofs.Json.Rendering
import ChequeTeller.Proofs.Json.Words
import ChequeTeller.Terms

/-!
The records that travel as JSON: what the node answers, pay requests and the terms. Each is read
back from its own text, and the words among their fields are read from integers and from strings
alike. Which flaw is met first in any other text is left apart.
-/

namespace ChequeTeller

open Json Json.Document Steps Text

/-! The values that the fields are written as. -/

theorem asString_string (s : String) : asString (toDocument (.string s)) = .ok s := rfl

theorem asBool_bool (b : Bool) : asBool (toDocument (.bool b)) = .ok b := rfl

theorem asNat_ofNat {n bound : Nat} (h : n < bound) :
    asNat bound (toDocument (.ofNat n)) = .ok n := by
  have fits : (0 : Int) ≤ n ∧ (n : Int) < bound := by omega
  rw [Json.ofNat, toDocument, asNat, if_pos fits, Int.toNat_natCast]

theorem asWord64_ofWord (n : UInt64) : asWord64 (toDocument (.ofWord n)) = .ok n := by
  rw [asWord64, ofWord, asNat_ofNat n.toNat_lt, Except.map, UInt64.ofNat_toNat]

theorem asWord32_ofNat (n : UInt32) : asWord32 (toDocument (.ofNat n.toNat)) = .ok n := by
  rw [asWord32, asNat_ofNat n.toNat_lt, Except.map, UInt32.ofNat_toNat]

theorem asWordOrSpelled_ofWord (depth : Nat) (n : UInt64) :
    asWordOrSpelled depth (toDocument (.ofWord n)) = .ok n :=
  (asFirst_eq_ok_iff (.inl rfl)).mpr .integer

theorem gives_numeral (n : UInt64) : Gives n (toDocument (Lightning.Route.numeral n)) :=
  .spelled (.inl rfl) Nat.length_toDigits_pos (Decimal.spells_numeral n.toNat)

theorem integral_ofNat {n : Nat} (h : n < 2 ^ 64) : Integral (.ofNat n) :=
  .number ⟨by omega, by omega⟩

theorem integral_ofWord (n : UInt64) : Integral (.ofWord n) :=
  integral_ofNat n.toNat_lt

/-! Records read from the values that they are written as. -/

theorem Lightning.DecodedRequest.ofDocument_toDocument (r : DecodedRequest) :
    ofDocument r.toJson.toDocument = .ok r := by
  refine (asFields_toDocument rfl ?_ ?_ _).trans ?_
  · simp only [List.forall_mem_cons]
    exact ⟨.of_read rfl (asString_string _), .of_read rfl (asString_string _),
      .of_read rfl (asString_string _), .of_read rfl (asString_string _),
      .of_read rfl (asString_string _), List.forall_mem_nil _⟩
  · simp
  · simp [bind_eq_ok_iff, Values.withDefault, List.lookup_cons, asString_string]

theorem Lightning.Route.ofDocument_toDocument (depth : Nat) (r : Route) :
    ofDocument depth r.toJson.toDocument = .ok r := by
  have fees : asOption (asSpelledOrWord (depth - 1))
      (toDocument (.ofOption numeral r.totalFeesMsat)) = .ok r.totalFeesMsat := by
    rw [asSpelledOrWord, asOption_asFirst_eq_ok_iff (.inr rfl)]
    cases r.totalFeesMsat with
    | none => rfl
    | some n => exact gives_numeral n
  have amount : asSpelledOrWord (depth - 1) (toDocument (numeral r.totalAmtMsat)) =
      .ok r.totalAmtMsat :=
    (asFirst_eq_ok_iff (.inr rfl)).mpr (gives_numeral _)
  have lock := asWordOrSpelled_ofWord (depth - 1) r.totalTimeLock
  refine (asFields_toDocument rfl ?_ ?_ _).trans ?_
  · simp only [List.forall_mem_cons]
    exact ⟨.of_read rfl fees, .of_read rfl amount, .of_read rfl lock, List.forall_mem_nil _⟩
  · simp
  · simp [bind_eq_ok_iff, Values.withDefault, List.lookup_cons, fees, amount, lock]

theorem Lightning.NodeInfo.ofDocument_toDocument (depth : Nat) (i : NodeInfo) :
    ofDocument depth i.toJson.toDocument = .ok i := by
  have height := asWordOrSpelled_ofWord (depth - 1) i.blockHeight
  refine (asFields_toDocument rfl ?_ ?_ _).trans ?_
  · simp only [List.forall_mem_cons]
    exact ⟨.of_read rfl height, List.forall_mem_nil _⟩
  · simp
  · simp [Values.required, height]

theorem PayRequest.ofDocument_toDocument (depth : Nat) (r : PayRequest) :
    ofDocument depth r.toJson.toDocument = .ok r := by
  obtain ⟨tag, key, addr, cheque, dest, msat⟩ := r
  have amount := asWordOrSpelled_ofWord (depth - 1) msat
  cases addr with
  | none =>
      refine (asFields_toDocument rfl ?_ ?_ _).trans ?_
      · simp only [List.cons_append, List.nil_append, List.forall_mem_cons]
        exact ⟨.of_read rfl (asString_string tag), .of_read rfl (asString_string key),
          .of_read rfl (asString_string cheque), .of_read rfl (asString_string dest),
          .of_read rfl amount, List.forall_mem_nil _⟩
      · simp
      · simp [bind_eq_ok_iff, Values.required, Values.withDefault, List.lookup_cons,
          asString_string, amount]
  | some addr =>
      have address : asOption asString (toDocument (.string addr)) = .ok (some addr) := rfl
      refine (asFields_toDocument rfl ?_ ?_ _).trans ?_
      · simp only [List.cons_append, List.nil_append, List.forall_mem_cons]
        exact ⟨.of_read rfl (asString_string tag), .of_read rfl (asString_string key),
          .of_read rfl address, .of_read rfl (asString_string cheque),
          .of_read rfl (asString_string dest), .of_read rfl amount, List.forall_mem_nil _⟩
      · simp
      · simp [bind_eq_ok_iff, Values.required, Values.withDefault, List.lookup_cons,
          asString_string, address, amount]

theorem Terms.ofDocument_toDocument (t : Terms) : ofDocument t.toJson.toDocument = .ok t := by
  refine (asFields_toDocument rfl ?_ ?_ _).trans ?_
  · simp only [List.forall_mem_cons]
    exact ⟨.of_read rfl (asWord64_ofWord _), .of_read rfl (asWord64_ofWord _),
      .of_read rfl (asWord32_ofNat _), .of_read rfl (asWord64_ofWord _),
      .of_read rfl (asWord64_ofWord _), .of_read rfl (asBool_bool _), List.forall_mem_nil _⟩
  · simp
  · simp [bind_eq_ok_iff, Values.withDefault, List.lookup_cons, asWord64_ofWord, asWord32_ofNat,
      asBool_bool]

/-! Records written with integers of 64 bits only. -/

theorem Lightning.DecodedRequest.integral_toJson (r : DecodedRequest) : Integral r.toJson := by
  refine .object ?_
  simp only [List.forall_mem_cons]
  exact ⟨.string _, .string _, .string _, .string _, .string _, List.forall_mem_nil _⟩

theorem Lightning.Route.integral_toJson (r : Route) : Integral r.toJson := by
  have fees : Integral (.ofOption numeral r.totalFeesMsat) := by
    cases r.totalFeesMsat with
    | none => exact .null
    | some n => exact .string _
  refine .object ?_
  simp only [List.forall_mem_cons]
  exact ⟨fees, .string _, integral_ofWord _, List.forall_mem_nil _⟩

theorem Lightning.NodeInfo.integral_toJson (i : NodeInfo) : Integral i.toJson := by
  refine .object ?_
  simp only [List.forall_mem_cons]
  exact ⟨integral_ofWord _, List.forall_mem_nil _⟩

theorem PayRequest.integral_toJson (r : PayRequest) : Integral r.toJson := by
  refine .object ?_
  cases r.paymentAddr with
  | none =>
      simp only [List.cons_append, List.nil_append, List.forall_mem_cons]
      exact ⟨.string _, .string _, .string _, .string _, integral_ofWord _, List.forall_mem_nil _⟩
  | some addr =>
      simp only [List.cons_append, List.nil_append, List.forall_mem_cons]
      exact ⟨.string _, .string _, .string _, .string _, .string _, integral_ofWord _,
        List.forall_mem_nil _⟩

theorem Terms.integral_toJson (t : Terms) : Integral t.toJson := by
  have delta : t.finalCltvDelta.toNat < 2 ^ 64 :=
    Nat.lt_trans t.finalCltvDelta.toNat_lt (by decide)
  refine .object ?_
  simp only [List.forall_mem_cons]
  exact ⟨integral_ofWord _, integral_ofWord _, integral_ofNat delta, integral_ofWord _,
    integral_ofWord _, .bool _, List.forall_mem_nil _⟩

/-! Fields that are read from integers and strings alike. -/

theorem Lightning.Route.fieldReads_totalFeesMsat (depth : Nat) :
    FieldReads (ofDocument depth) "total_fees_msat" (fun n r => { r with totalFeesMsat := n })
      GivesOption := by
  refine fieldReads_of_build (asOption (asSpelledOrWord (depth - 1))) rfl
    (fun _ _ => asOption_asFirst_eq_ok_iff (.inr rfl)) ?_
  intro early later v r fresh given v' r'
  simp only [bind_eq_ok_iff, pure_eq_ok_iff, Values.withDefault_middle fresh,
    Values.withDefault_around, ne_eq, String.reduceEq, not_false_eq_true] at given ⊢
  obtain ⟨_, _, amount, readAmount, lock, readLock, rfl⟩ := given
  simp [readAmount, readLock, eq_comm]

theorem Lightning.Route.fieldReads_totalAmtMsat (depth : Nat) :
    FieldReads (ofDocument depth) "total_amt_msat" (fun n r => { r with totalAmtMsat := n })
      Gives := by
  refine fieldReads_of_build (asSpelledOrWord (depth - 1)) rfl
    (fun _ _ => asFirst_eq_ok_iff (.inr rfl)) ?_
  intro early later v r fresh given v' r'
  simp only [bind_eq_ok_iff, pure_eq_ok_iff, Values.withDefault_middle fresh,
    Values.withDefault_around, ne_eq, String.reduceEq, not_false_eq_true] at given ⊢
  obtain ⟨fees, readFees, _, _, lock, readLock, rfl⟩ := given
  simp [readFees, readLock, eq_comm]

theorem Lightning.Route.fieldReads_totalTimeLock (depth : Nat) :
    FieldReads (ofDocument depth) "total_time_lock" (fun n r => { r with totalTimeLock := n })
      Gives := by
  refine fieldReads_of_build (asWordOrSpelled (depth - 1)) rfl
    (fun _ _ => asFirst_eq_ok_iff (.inl rfl)) ?_
  intro early later v r fresh given v' r'
  simp only [bind_eq_ok_iff, pure_eq_ok_iff, Values.withDefault_middle fresh,
    Values.withDefault_around, ne_eq, String.reduceEq, not_false_eq_true] at given ⊢
  obtain ⟨fees, readFees, amount, readAmount, _, _, rfl⟩ := given
  simp [readFees, readAmount, eq_comm]

theorem Lightning.NodeInfo.fieldReads_blockHeight (depth : Nat) :
    FieldReads (ofDocument depth) "block_height" (fun n i => { i with blockHeight := n })
      Gives := by
  refine fieldReads_of_build (asWordOrSpelled (depth - 1)) rfl
    (fun _ _ => asFirst_eq_ok_iff (.inl rfl)) ?_
  intro early later v r fresh given v' r'
  simp only [bind_eq_ok_iff, pure_eq_ok_iff, Values.required_middle fresh] at given ⊢
  simp [eq_comm]

theorem PayRequest.fieldReads_msat (depth : Nat) :
    FieldReads (ofDocument depth) "msat" (fun n r => { r with msat := n }) Gives := by
  refine fieldReads_of_build (asWordOrSpelled (depth - 1)) rfl
    (fun _ _ => asFirst_eq_ok_iff (.inl rfl)) ?_
  intro early later v r fresh given v' r'
  simp only [bind_eq_ok_iff, pure_eq_ok_iff, Values.required_middle fresh, Values.required_around,
    Values.withDefault_around, ne_eq, String.reduceEq, not_false_eq_true] at given ⊢
  obtain ⟨tag, readTag, key, readKey, addr, readAddr, cheque, readCheque, dest, readDest,
    _, _, rfl⟩ := given
  simp [readTag, readKey, readAddr, readCheque, readDest, eq_comm]

/-- Integers and strings give the words that an invoice reads from such strings. -/
theorem gives_string_iff {s : String} {n : UInt64} :
    Gives n (.string (some s)) ↔ Invoice.readInteger .numMsat s = .ok n := by
  have reads : Invoice.readInteger .numMsat s = .ok n ↔ Decimal.word64? s = some n := by
    rw [Invoice.readInteger]
    cases Decimal.word64? s <;> simp
  rw [reads, Decimal.word64?_eq_some_iff]
  refine ⟨?_, ?_⟩
  · rintro ⟨⟩
    exact ⟨_, _, ‹_›, ‹_›, ‹_›⟩
  · rintro ⟨digits, width, signed, some_digit, spells⟩
    exact .spelled signed some_digit spells

open Lightning in
/-- Every record is read back from its text. A field that takes integers and strings alike reads as
a word the integer that is written as the word's shortest numeral, and the strings that spell it
for an invoice too, and no other value; which of the two is tried first makes no difference. -/
theorem records_read_back (depth : Nat) :
    (∀ r : Route, readText (Route.ofDocument depth) (utf8 r.toJson.render) = .ok r) ∧
    (∀ i : NodeInfo, readText (NodeInfo.ofDocument depth) (utf8 i.toJson.render) = .ok i) ∧
    (∀ d : DecodedRequest, readText DecodedRequest.ofDocument (utf8 d.toJson.render) = .ok d) ∧
    (∀ r : PayRequest, readText (PayRequest.ofDocument depth) (utf8 r.toJson.render) = .ok r) ∧
    (∀ t : Terms, readText Terms.ofDocument (utf8 t.toJson.render) = .ok t) ∧
    FieldReads (Route.ofDocument depth) "total_fees_msat"
      (fun n r => { r with totalFeesMsat := n }) GivesOption ∧
    FieldReads (Route.ofDocument depth) "total_amt_msat"
      (fun n r => { r with totalAmtMsat := n }) Gives ∧
    FieldReads (Route.ofDocument depth) "total_time_lock"
      (fun n r => { r with totalTimeLock := n }) Gives ∧
    FieldReads (NodeInfo.ofDocument depth) "block_height"
      (fun n i => { i with blockHeight := n }) Gives ∧
    FieldReads (PayRequest.ofDocument depth) "msat" (fun n r => { r with msat := n }) Gives ∧
    asSpelledOrWord = asWordOrSpelled ∧
    (∀ s n, Gives n (.string (some s)) ↔ Invoice.readInteger .numMsat s = .ok n) ∧
    ∀ bytes rest (n : UInt64), readFirst bytes = (.number (some (.integer n.toNat)), rest) ↔
      NumberEnds rest ∧ ∃ blanks, (∀ b ∈ blanks, Document.isBlank b = true) ∧
        bytes = blanks ++ utf8 (Decimal.numeral n.toNat) ++ rest := by
  refine ⟨?_, ?_, ?_, ?_, ?_, Route.fieldReads_totalFeesMsat depth,
    Route.fieldReads_totalAmtMsat depth, Route.fieldReads_totalTimeLock depth,
    NodeInfo.fieldReads_blockHeight depth, PayRequest.fieldReads_msat depth, asSpelledOrWord_eq,
    fun _ _ => gives_string_iff, ?_⟩
  · intro r
    rw [readText_utf8_render _ r.integral_toJson, r.ofDocument_toDocument]
  · intro i
    rw [readText_utf8_render _ i.integral_toJson, i.ofDocument_toDocument]
  · intro d
    rw [readText_utf8_render _ d.integral_toJson, d.ofDocument_toDocument]
  · intro r
    rw [readText_utf8_render _ r.integral_toJson, r.ofDocument_toDocument]
  · intro t
    rw [readText_utf8_render _ t.integral_toJson, t.ofDocument_toDocument]
  · intro bytes rest n
    have fits := n.toNat_lt
    have sized : IsWordSized n.toNat := ⟨by omega, by omega⟩
    rw [readFirst_integer_iff, and_iff_right sized, Decimal.numeral, utf8_ofList]
    rfl

end ChequeTeller
