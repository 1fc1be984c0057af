import ChequeTeller.Proofs.Ledger.Claims
import ChequeTeller.Proofs.Steps
import ChequeTeller.Redemption

/-!
When a redemption is authorized. `Good` says it without the steps that find it out: the request
spells an order, the order's cheque is signed and can be read, it is in time, and it covers the
amount. A redemption is authorized exactly if its request is good and the ledger takes the index,
and every refusal comes before the node is asked. What the node makes of the payment is left apart.
-/

namespace ChequeTeller

open Lightning

/-- The order that the fields of a request spell. -/
structure PayRequest.Spells (r : PayRequest) (o : Order) : Prop where
  key : Octets.ofHex r.verificationKey = .ok o.channel.key
  tag : Tag.ofHex r.tag = .ok o.channel.tag
  dest : Octets.ofHex r.dest = .ok o.destination
  paymentAddr : r.paymentAddr.map Octets.ofHex = o.paymentAddr.map .ok
  cheque : Cheque.Frame.ofHex r.cheque = .ok o.frame
  msat : o.amountMsat = r.msat

/-- A request that nothing speaks against at the time `now` but what was redeemed before. It spells
the order `o`, and `b` is the body of its cheque. -/
structure Good (terms : Terms) (now : UInt64) (r : PayRequest) (o : Order) (b : Cheque.Body) :
    Prop where
  spells : r.Spells o
  signed : o.frame.signature.verifies (o.channel.tag.bytes ++ o.frame.body) o.channel.key = true
  body : Cheque.Body.decode o.frame.body = .ok b
  inTime : now.toNat + terms.chequeTimeoutMarginMs.toNat < b.timeout.toNat
  covered : terms.enforceChequeAmount = true → r.msat.toNat ≤ b.amount.toNat

open Steps

theorem mapM_readField_eq_ok_iff {role : Role} {field : RequestField} {text : Option String}
    {value : Option (Octets role)} :
    text.mapM (PayRequest.readField field) = .ok value ↔
      text.map Octets.ofHex = value.map .ok := by
  cases text with
  | none => cases value <;> simp [pure, Except.pure]
  | some s =>
      cases h : (Octets.ofHex s : Except OctetsError (Octets role)) with
      | error e =>
          cases value <;> simp [PayRequest.readField, h, Functor.map, Except.map]
      | ok a =>
          cases value <;> simp [PayRequest.readField, h, Functor.map, Except.map]

namespace PayRequest

theorem parse_eq_ok_iff {r : PayRequest} {o : Order} : r.parse = .ok o ↔ r.Spells o := by
  simp only [parse, bind_eq_ok_iff, readField, mapError_eq_ok_iff, pure_eq_ok_iff]
  refine ⟨?_, ?_⟩
  · intro given
    obtain ⟨key, hk, tag, ht, dest, hd, addr, ha, frame, hf, rfl⟩ := given
    exact ⟨hk, ht, hd, mapM_readField_eq_ok_iff.mp ha, hf, rfl⟩
  · intro given
    obtain ⟨hk, ht, hd, ha, hf, hm⟩ := given
    refine ⟨_, hk, _, ht, _, hd, _, mapM_readField_eq_ok_iff.mpr ha, _, hf, ?_⟩
    rw [← hm]

theorem Spells.unique {r : PayRequest} {o o' : Order} (h : r.Spells o) (h' : r.Spells o') :
    o = o' := by
  have parsed := parse_eq_ok_iff.mpr h
  rw [parse_eq_ok_iff.mpr h'] at parsed
  exact (Except.ok.inj parsed).symm

end PayRequest

theorem toNat_cappedSum (a b : UInt64) :
    (cappedSum a b).toNat = min (a.toNat + b.toNat) (UInt64.size - 1) := by
  unfold cappedSum
  split
  · rename_i h
    rw [UInt64.toNat_add, Nat.mod_eq_of_lt h]
    omega
  · rename_i h
    change UInt64.size - 1 = _
    omega

namespace Cheque.Body

/-- The capped sum is as good as the sum itself, for no timeout is past the largest word. -/
theorem checkTimeout_eq_ok_iff {b : Body} {now margin : UInt64} :
    b.checkTimeout now margin = .ok () ↔ now.toNat + margin.toNat < b.timeout.toNat := by
  have small := b.timeout.toNat_lt
  have late : b.timeout ≤ cappedSum now margin ↔ b.timeout.toNat ≤ now.toNat + margin.toNat := by
    rw [UInt64.le_iff_toNat_le, toNat_cappedSum, UInt64.size]
    omega
  unfold checkTimeout
  by_cases h : b.timeout.toNat ≤ now.toNat + margin.toNat
  · simp [late.mpr h, Nat.not_lt.mpr h]
  · simp [mt late.mp h, Nat.not_le.mp h]

theorem checkAmount_eq_ok_iff {b : Body} {requested : UInt64} :
    b.checkAmount requested = .ok () ↔ requested.toNat ≤ b.amount.toNat := by
  unfold checkAmount
  rw [← UInt64.le_iff_toNat_le]
  split <;> simp_all

end Cheque.Body

namespace Order

theorem check_eq_ok_iff {o : Order} {terms : Terms} {now : UInt64} {b : Cheque.Body} :
    o.check terms now = .ok b ↔
      o.frame.verifies o.channel.tag o.channel.key = true ∧
      Cheque.Body.decode o.frame.body = .ok b ∧
      b.checkTimeout now terms.chequeTimeoutMarginMs = .ok () ∧
      (terms.enforceChequeAmount = true → b.checkAmount o.amountMsat = .ok ()) := by
  unfold check
  by_cases signed : o.frame.verifies o.channel.tag o.channel.key = true
  · by_cases enforced : terms.enforceChequeAmount = true
    · simp only [signed, not_true_eq_false, if_false, bind_eq_ok_iff, mapError_eq_ok_iff, enforced,
        if_true, pure_eq_ok_iff, true_and, forall_const]
      refine ⟨?_, ?_⟩
      · intro given
        obtain ⟨body, hb, ⟨⟩, ht, ⟨⟩, ha, rfl⟩ := given
        exact ⟨hb, ht, ha⟩
      · intro given
        obtain ⟨hb, ht, ha⟩ := given
        exact ⟨b, hb, (), ht, (), ha, rfl⟩
    · simp only [signed, not_true_eq_false, if_false, bind_eq_ok_iff, mapError_eq_ok_iff, enforced,
        Bool.false_eq_true, pure_eq_ok_iff, true_and, false_implies, and_true]
      refine ⟨?_, ?_⟩
      · intro given
        obtain ⟨body, hb, ⟨⟩, ht, rfl⟩ := given
        exact ⟨hb, ht⟩
      · intro given
        obtain ⟨hb, ht⟩ := given
        exact ⟨b, hb, (), ht, rfl⟩
  · simp [signed, bind, Except.bind]

end Order

theorem authorize_eq_ok_iff {terms : Terms} {now : UInt64} {r : PayRequest} {l l' : Ledger}
    {p : Payment} :
    authorize terms now r l = .ok (p, l') ↔
      ∃ o b, Good terms now r o b ∧ l.claim o.channel b.index = .ok l' ∧
        p = o.payment b.lock terms := by
  simp only [authorize, Ledger.redeem, bind_eq_ok_iff, PayRequest.parse_eq_ok_iff,
    Order.check_eq_ok_iff, Cheque.Body.checkTimeout_eq_ok_iff, Cheque.Body.checkAmount_eq_ok_iff,
    mapError_eq_ok_iff, pure_eq_ok_iff, Prod.mk.injEq]
  refine ⟨?_, ?_⟩
  · intro given
    obtain ⟨o, spells, b, ⟨signed, body, inTime, covered⟩, l', claimed, rfl, rfl⟩ := given
    exact ⟨o, b, ⟨spells, signed, body, inTime, spells.msat ▸ covered⟩, claimed, rfl⟩
  · intro given
    obtain ⟨o, b, good, claimed, rfl⟩ := given
    exact ⟨o, good.spells, b,
      ⟨good.signed, good.body, good.inTime, good.spells.msat.symm ▸ good.covered⟩, l', claimed,
      rfl, rfl⟩

/-- Where only the ledger speaks against a request, it says why. -/
theorem authorize_of_replayed {terms : Terms} {now : UInt64} {r : PayRequest} {o : Order}
    {b : Cheque.Body} {l : Ledger} {highest : UInt64} (good : Good terms now r o b)
    (replayed : l.claim o.channel b.index = .error highest) :
    authorize terms now r l = .error (.replayed b.index highest) := by
  have parsed : r.parse = .ok o := PayRequest.parse_eq_ok_iff.mpr good.spells
  have checked : o.check terms now = .ok b :=
    Order.check_eq_ok_iff.mpr ⟨good.signed, good.body,
      Cheque.Body.checkTimeout_eq_ok_iff.mpr good.inTime,
      fun enforced => Cheque.Body.checkAmount_eq_ok_iff.mpr
        (good.spells.msat.symm ▸ good.covered enforced)⟩
  simp only [authorize, Ledger.redeem, bind_eq_error_iff, mapError_eq_error_iff]
  exact .inr ⟨o, parsed, .inr ⟨b, checked, .inl ⟨highest, replayed, rfl⟩⟩⟩

theorem Good.unique {terms : Terms} {now now' : UInt64} {r : PayRequest} {o o' : Order}
    {b b' : Cheque.Body} (h : Good terms now r o b) (h' : Good terms now' r o' b') :
    o = o' ∧ b = b' := by
  obtain rfl := h.spells.unique h'.spells
  have same := h.body
  rw [h'.body] at same
  exact ⟨rfl, (Except.ok.inj same).symm⟩

/-! Refusals: no error that keeps a redemption from being authorized is the node's. -/

theorem mapM_readField_refusal {role : Role} {field : RequestField} {text : Option String}
    {e : TellerError}
    (h : (text.mapM (PayRequest.readField field) : Except TellerError (Option (Octets role))) =
      .error e) :
    e.nodeFailure? = none := by
  cases text with
  | none => simp [pure, Except.pure] at h
  | some s =>
      cases read : (Octets.ofHex s : Except OctetsError (Octets role)) with
      | error cause =>
          simp [PayRequest.readField, read, Functor.map, Except.map] at h
          exact h ▸ rfl
      | ok a => simp [PayRequest.readField, read, Functor.map, Except.map] at h

theorem PayRequest.parse_refusal {r : PayRequest} {e : TellerError} (h : r.parse = .error e) :
    e.nodeFailure? = none := by
  simp only [parse, readField, bind_eq_error_iff, mapError_eq_error_iff] at h
  obtain ⟨_, _, rfl⟩ | ⟨_, _, ⟨_, _, rfl⟩ | ⟨_, _, ⟨_, _, rfl⟩ | ⟨_, _, h | ⟨_, _, h⟩⟩⟩⟩ := h
  · rfl
  · rfl
  · rfl
  · exact mapM_readField_refusal h
  · obtain ⟨_, _, rfl⟩ | ⟨_, _, h⟩ := h
    · rfl
    · cases h

theorem Cheque.Body.checkTimeout_refusal {b : Body} {now margin : UInt64} {e : TellerError}
    (h : b.checkTimeout now margin = .error e) : e.nodeFailure? = none := by
  unfold checkTimeout at h
  split at h
  · cases h
    rfl
  · cases h

theorem Cheque.Body.checkAmount_refusal {b : Body} {requested : UInt64} {e : TellerError}
    (h : b.checkAmount requested = .error e) : e.nodeFailure? = none := by
  unfold checkAmount at h
  split at h
  · cases h
  · cases h
    rfl

theorem Order.check_refusal {o : Order} {terms : Terms} {now : UInt64} {e : TellerError}
    (h : o.check terms now = .error e) : e.nodeFailure? = none := by
  unfold check at h
  by_cases signed : o.frame.verifies o.channel.tag o.channel.key = true
  · simp only [signed, not_true_eq_false, if_false, bind_eq_error_iff, mapError_eq_error_iff] at h
    obtain ⟨_, _, rfl⟩ | ⟨b, _, h | ⟨_, _, h⟩⟩ := h
    · rfl
    · exact Cheque.Body.checkTimeout_refusal h
    · split at h
      · obtain h | ⟨_, _, h⟩ := bind_eq_error_iff.mp h
        · exact Cheque.Body.checkAmount_refusal h
        · cases h
      · cases h
  · simp only [signed, bind, Except.bind] at h
    cases h
    rfl

theorem authorize_refusal {terms : Terms} {now : UInt64} {r : PayRequest} {l : Ledger}
    {e : TellerError} (h : authorize terms now r l = .error e) : e.nodeFailure? = none := by
  simp only [authorize, Ledger.redeem, bind_eq_error_iff, mapError_eq_error_iff] at h
  obtain h | ⟨o, _, h | ⟨b, _, ⟨_, _, rfl⟩ | ⟨_, _, h⟩⟩⟩ := h
  · exact PayRequest.parse_refusal h
  · exact Order.check_refusal h
  · rfl
  · cases h

/-! The node is asked only once the redemption is authorized. -/

variable {terms : Terms} {now : UInt64} {r : PayRequest} {l : Ledger}

theorem execute_run (p : Payment) :
    (execute p).run =
      .ask (.sendPayment p) fun answer => .done (answer.mapError (.node .sendPayment)) :=
  rfl

theorem redeem_of_error {e : TellerError} (h : authorize terms now r l = .error e) :
    redeem terms now r l = .done (.error e, l) := by
  simp only [redeem, h]

theorem redeem_of_ok {p : Payment} {l' : Ledger} (h : authorize terms now r l = .ok (p, l')) :
    redeem terms now r l =
      .ask (.sendPayment p) fun answer => .done (answer.mapError (.node .sendPayment), l') := by
  simp only [redeem, h, execute_run]
  rfl

end ChequeTeller
