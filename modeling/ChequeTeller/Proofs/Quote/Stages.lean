import ChequeTeller.Proofs.Lightning.Exchanges
import ChequeTeller.Proofs.Steps
import ChequeTeller.Quote

/-!
The stages of quoting, one by one: what each yields, by which exchanges, and what fees and time
locks come to in unbounded integers. A refused route query counts as one that found no route. When
an invoice has no expiry text is left apart.
-/

namespace ChequeTeller

open Lightning Steps

namespace Quote

/-- The routes that the outcome of a route query offers. -/
inductive Offers : Except Failure (List Route) → List Route → Prop
  | listed (routes : List Route) : Offers (.ok routes) routes
  | refused (context : String) (code : UInt16) (body : String) :
      Offers (.error (.status context code body)) []

/-- The first of the routes is `route`, and it states its fees. -/
structure Priced (routes : List Route) (route : Route) (fee : UInt64) : Prop where
  first : routes.head? = some route
  states : route.totalFeesMsat = some fee

/-- The quote is what these make of it, in unbounded integers. -/
structure Tells (terms : Terms) (i : Invoice) (route : Route) (fee : UInt64) (info : NodeInfo)
    (q : Quote) : Prop where
  amount : q.amount = i.amountMsat
  recipient : q.recipient = i.destination
  paymentHash : q.paymentHash = i.paymentHash
  routingFee : q.routingFee.toNat = fee.toNat + terms.adaptorFeeMsat.toNat
  expiry : i.expiryText = .ok q.expiry
  timeout : (q.estimatedTimeoutSecs.toNat : Int) =
    min ((UInt64.size : Int) - 1)
      (max 0 ((route.totalTimeLock.toNat : Int) - info.blockHeight.toNat) *
        terms.blockTimeSecs.toNat)

variable {request : String} {terms : Terms} {exchanges : List Exchange}

theorem decodeInvoice_yields_iff {r : Except TellerError Invoice} :
    (decodeInvoice request).run.Yields r exchanges ↔
      (∃ f, .error (.node .decodeRequest f) = r ∧
        exchanges = [⟨.decodeRequest request, .error f⟩]) ∨
      ∃ d, (Invoice.ofDecoded d).mapError .malformedInvoice = r ∧
        exchanges = [⟨.decodeRequest request, .ok d⟩] := by
  simp only [decodeInvoice, Dealing.yields_bind_iff, Dealing.yields_perform_iff,
    Dealing.yields_ofExcept_iff]
  refine ⟨?_, ?_⟩
  · intro given
    obtain ⟨e, ⟨outcome, failed, rfl⟩, rfl⟩ |
      ⟨d, _, _, ⟨outcome, answered, rfl⟩, ⟨rfl, rfl⟩, rfl⟩ := given
    · obtain ⟨f, rfl, rfl⟩ := mapError_eq_error_iff.mp failed.symm
      exact .inl ⟨f, rfl, rfl⟩
    · obtain rfl := mapError_eq_ok_iff.mp answered.symm
      exact .inr ⟨d, rfl, rfl⟩
  · intro given
    obtain ⟨f, rfl, rfl⟩ | ⟨d, rfl, rfl⟩ := given
    · exact .inl ⟨_, ⟨.error f, rfl, rfl⟩, rfl⟩
    · exact .inr ⟨d, _, [], ⟨.ok d, rfl, rfl⟩, ⟨rfl, rfl⟩, rfl⟩

theorem decodeInvoice_yields_ok_iff {i : Invoice} :
    (decodeInvoice request).run.Yields (.ok i) exchanges ↔
      ∃ d, Invoice.ofDecoded d = .ok i ∧ exchanges = [⟨.decodeRequest request, .ok d⟩] := by
  simp only [decodeInvoice_yields_iff, reduceCtorEq, false_and, exists_false, false_or,
    mapError_eq_ok_iff]

theorem decodeInvoice_yields_error_iff {e : TellerError} :
    (decodeInvoice request).run.Yields (.error e) exchanges ↔
      (∃ f, .node .decodeRequest f = e ∧ exchanges = [⟨.decodeRequest request, .error f⟩]) ∨
      ∃ d cause, Invoice.ofDecoded d = .error cause ∧ .malformedInvoice cause = e ∧
        exchanges = [⟨.decodeRequest request, .ok d⟩] := by
  simp only [decodeInvoice_yields_iff, Except.error.injEq, mapError_eq_error_iff,
    ← exists_and_right, and_assoc]

theorem routesOrNone_eq_ok_iff {outcome : Except Failure (List Route)} {routes : List Route} :
    Estimate.routesOrNone outcome = .ok routes ↔ Offers outcome routes := by
  refine ⟨?_, ?_⟩
  · intro given
    unfold Estimate.routesOrNone at given
    split at given
    · cases given
      exact .refused _ _ _
    · cases given
      exact .listed _
  · intro given
    cases given <;> rfl

theorem routesOrNone_eq_error_iff {outcome : Except Failure (List Route)} {f : Failure} :
    Estimate.routesOrNone outcome = .error f ↔
      outcome = .error f ∧ ∀ routes, ¬ Offers (.error f) routes := by
  refine ⟨?_, ?_⟩
  · intro given
    unfold Estimate.routesOrNone at given
    split at given
    · cases given
    · rename_i kept
      cases given
      refine ⟨rfl, ?_⟩
      intro routes offers
      cases offers
      exact kept _ _ _ rfl
  · intro given
    obtain ⟨rfl, failed⟩ := given
    cases f with
    | status context code body => exact absurd (.refused context code body) (failed [])
    | transport | decode | rejected => rfl

theorem queryRoutes_yields_iff {destination : NodeId} {amount : UInt64}
    {r : Except TellerError (List Route)} :
    (Estimate.queryRoutes destination amount).run.Yields r exchanges ↔
      ∃ outcome : Except Failure (List Route),
        r = (Estimate.routesOrNone outcome).mapError (.node .queryRoutes) ∧
          exchanges = [⟨.queryRoutes destination amount, outcome⟩] :=
  Dealing.yields_ask_iff

/-! The routes and the node's height. -/

theorem Priced.unique {routes : List Route} {route route' : Route} {fee fee' : UInt64}
    (h : Priced routes route fee) (h' : Priced routes route' fee') :
    route = route' ∧ fee = fee' := by
  obtain ⟨first, states⟩ := h
  obtain ⟨first', states'⟩ := h'
  obtain rfl : route = route' := Option.some.inj (first.symm.trans first')
  exact ⟨rfl, Option.some.inj (states.symm.trans states')⟩

theorem routingFee_eq_ok_iff {fee adaptor total : UInt64} :
    Estimate.routingFee fee adaptor = .ok total ↔
      total.toNat = fee.toNat + adaptor.toNat := by
  have small : total.toNat < UInt64.size := total.toNat_lt
  unfold Estimate.routingFee
  split
  · rename_i fits
    have summed : (fee + adaptor).toNat = fee.toNat + adaptor.toNat := by
      rw [UInt64.toNat_add, Nat.mod_eq_of_lt fits]
    simp only [Except.ok.injEq, ← UInt64.toNat_inj, summed, eq_comm]
  · simp only [reduceCtorEq, false_iff]
    omega

theorem routingFee_eq_error_iff {fee adaptor : UInt64} {e : TellerError} :
    Estimate.routingFee fee adaptor = .error e ↔
      UInt64.size ≤ fee.toNat + adaptor.toNat ∧ e = .feeOverflow fee adaptor := by
  unfold Estimate.routingFee
  split
  · rename_i fits
    simp only [reduceCtorEq, Nat.not_le.mpr fits, false_and]
  · rename_i overflows
    simp only [Except.error.injEq, Nat.not_lt.mp overflows, true_and, eq_comm]

theorem ofRoutes_of_priced {destination : NodeId} {routes : List Route} {route : Route}
    {fee : UInt64} (priced : Priced routes route fee) :
    Estimate.ofRoutes destination terms routes =
      (Estimate.routingFee fee terms.adaptorFeeMsat).map (⟨route, ·⟩) := by
  simp only [Estimate.ofRoutes, priced.first, Option.bind_some, priced.states, Option.map_some]
  cases Estimate.routingFee fee terms.adaptorFeeMsat <;> rfl

theorem ofRoutes_of_unpriced {destination : NodeId} {routes : List Route}
    (unpriced : ∀ route fee, ¬ Priced routes route fee) :
    Estimate.ofRoutes destination terms routes = .error (.noRoute destination) := by
  unfold Estimate.ofRoutes
  split
  · rfl
  · rename_i route fee chosen
    obtain ⟨route, first, chosen⟩ := Option.bind_eq_some_iff.mp chosen
    obtain ⟨fee, states, chosen⟩ := Option.map_eq_some_iff.mp chosen
    exact absurd ⟨first, states⟩ (unpriced route fee)

theorem priced_or_unpriced (routes : List Route) :
    (∃ route fee, Priced routes route fee) ∨ ∀ route fee, ¬ Priced routes route fee := by
  simpa only [not_exists] using Classical.em (∃ route fee, Priced routes route fee)

theorem ofRoutes_eq_ok_iff {destination : NodeId} {routes : List Route} {estimate : Estimate} :
    Estimate.ofRoutes destination terms routes = .ok estimate ↔
      ∃ fee, Priced routes estimate.route fee ∧
        estimate.routingFeeMsat.toNat = fee.toNat + terms.adaptorFeeMsat.toNat := by
  obtain ⟨route, fee, priced⟩ | unpriced := priced_or_unpriced routes
  · rw [ofRoutes_of_priced priced, map_eq_ok_iff]
    simp only [routingFee_eq_ok_iff]
    refine ⟨?_, ?_⟩
    · intro given
      obtain ⟨total, summed, rfl⟩ := given
      exact ⟨fee, priced, summed⟩
    · intro given
      obtain ⟨fee', priced', summed⟩ := given
      obtain ⟨rfl, rfl⟩ := priced.unique priced'
      exact ⟨_, summed, rfl⟩
  · rw [ofRoutes_of_unpriced unpriced]
    simp [unpriced]

theorem ofRoutes_eq_error_iff {destination : NodeId} {routes : List Route} {e : TellerError} :
    Estimate.ofRoutes destination terms routes = .error e ↔
      ((∀ route fee, ¬ Priced routes route fee) ∧ e = .noRoute destination) ∨
      ∃ route fee, Priced routes route fee ∧
        UInt64.size ≤ fee.toNat + terms.adaptorFeeMsat.toNat ∧
        e = .feeOverflow fee terms.adaptorFeeMsat := by
  obtain ⟨route, fee, priced⟩ | unpriced := priced_or_unpriced routes
  · rw [ofRoutes_of_priced priced, map_eq_error_iff, routingFee_eq_error_iff]
    refine ⟨?_, ?_⟩
    · intro given
      exact .inr ⟨route, fee, priced, given⟩
    · intro given
      obtain ⟨unpriced, _⟩ | ⟨route', fee', priced', given⟩ := given
      · exact absurd priced (unpriced route fee)
      · obtain ⟨rfl, rfl⟩ := priced.unique priced'
        exact given
  · rw [ofRoutes_of_unpriced unpriced]
    simp [unpriced, eq_comm]

theorem estimate_yields_iff {destination : NodeId} {amount : UInt64}
    {r : Except TellerError Estimate} :
    (Estimate.request destination amount terms).run.Yields r exchanges ↔
      (∃ f, (∀ routes, ¬ Offers (.error f) routes) ∧ .error (.node .queryRoutes f) = r ∧
        exchanges = [⟨.queryRoutes destination amount, .error f⟩]) ∨
      ∃ outcome routes, Offers outcome routes ∧ Estimate.ofRoutes destination terms routes = r ∧
        exchanges = [⟨.queryRoutes destination amount, outcome⟩] := by
  simp only [Estimate.request, Dealing.yields_bind_iff, Dealing.yields_ofExcept_iff,
    queryRoutes_yields_iff]
  refine ⟨?_, ?_⟩
  · intro given
    obtain ⟨e, ⟨outcome, failed, rfl⟩, rfl⟩ |
      ⟨routes, _, _, ⟨outcome, answered, rfl⟩, ⟨rfl, rfl⟩, rfl⟩ := given
    · obtain ⟨f, queried, rfl⟩ := mapError_eq_error_iff.mp failed.symm
      obtain ⟨rfl, kept⟩ := routesOrNone_eq_error_iff.mp queried
      exact .inl ⟨f, kept, rfl, rfl⟩
    · have offers := routesOrNone_eq_ok_iff.mp (mapError_eq_ok_iff.mp answered.symm)
      exact .inr ⟨outcome, routes, offers, rfl, rfl⟩
  · intro given
    obtain ⟨f, kept, rfl, rfl⟩ | ⟨outcome, routes, offers, rfl, rfl⟩ := given
    · refine .inl ⟨_, ⟨.error f, ?_, rfl⟩, rfl⟩
      rw [routesOrNone_eq_error_iff.mpr ⟨rfl, kept⟩, mapError_error]
    · refine .inr ⟨routes, _, [], ⟨outcome, ?_, rfl⟩, ⟨rfl, rfl⟩, rfl⟩
      rw [routesOrNone_eq_ok_iff.mpr offers, mapError_ok]

theorem Offers.listed_of_priced {outcome : Except Failure (List Route)} {routes : List Route}
    {route : Route} {fee : UInt64} (offers : Offers outcome routes)
    (priced : Priced routes route fee) : outcome = .ok routes := by
  cases offers with
  | listed => rfl
  | refused => exact absurd priced.first (by simp)

theorem estimate_yields_ok_iff {destination : NodeId} {amount : UInt64} {estimate : Estimate} :
    (Estimate.request destination amount terms).run.Yields (.ok estimate) exchanges ↔
      ∃ routes fee, Priced routes estimate.route fee ∧
        estimate.routingFeeMsat.toNat = fee.toNat + terms.adaptorFeeMsat.toNat ∧
        exchanges = [⟨.queryRoutes destination amount, .ok routes⟩] := by
  simp only [estimate_yields_iff, reduceCtorEq, false_and, and_false, exists_false, false_or,
    ofRoutes_eq_ok_iff]
  refine ⟨?_, ?_⟩
  · intro given
    obtain ⟨_, routes, offers, ⟨fee, priced, summed⟩, rfl⟩ := given
    obtain rfl := offers.listed_of_priced priced
    exact ⟨routes, fee, priced, summed, rfl⟩
  · intro given
    obtain ⟨routes, fee, priced, summed, rfl⟩ := given
    exact ⟨_, routes, .listed routes, ⟨fee, priced, summed⟩, rfl⟩

theorem estimate_yields_error_iff {destination : NodeId} {amount : UInt64} {e : TellerError} :
    (Estimate.request destination amount terms).run.Yields (.error e) exchanges ↔
      (∃ f, (∀ routes, ¬ Offers (.error f) routes) ∧ .node .queryRoutes f = e ∧
        exchanges = [⟨.queryRoutes destination amount, .error f⟩]) ∨
      (∃ outcome routes, Offers outcome routes ∧ (∀ route fee, ¬ Priced routes route fee) ∧
        .noRoute destination = e ∧ exchanges = [⟨.queryRoutes destination amount, outcome⟩]) ∨
      ∃ routes route fee, Priced routes route fee ∧
        UInt64.size ≤ fee.toNat + terms.adaptorFeeMsat.toNat ∧
        .feeOverflow fee terms.adaptorFeeMsat = e ∧
        exchanges = [⟨.queryRoutes destination amount, .ok routes⟩] := by
  simp only [estimate_yields_iff, Except.error.injEq, ofRoutes_eq_error_iff]
  refine or_congr_right ⟨?_, ?_⟩
  · intro given
    obtain ⟨outcome, routes, offers, given, rfl⟩ := given
    obtain ⟨unpriced, rfl⟩ | ⟨route, fee, priced, overflows, rfl⟩ := given
    · exact .inl ⟨outcome, routes, offers, unpriced, rfl, rfl⟩
    · obtain rfl := offers.listed_of_priced priced
      exact .inr ⟨routes, route, fee, priced, overflows, rfl, rfl⟩
  · intro given
    obtain ⟨outcome, routes, offers, unpriced, rfl, rfl⟩ |
      ⟨routes, route, fee, priced, overflows, rfl, rfl⟩ := given
    · exact ⟨outcome, routes, offers, .inl ⟨unpriced, rfl⟩, rfl⟩
    · exact ⟨_, routes, .listed routes, .inr ⟨route, fee, priced, overflows, rfl⟩, rfl⟩

theorem toNat_timeoutSecs (timeLock height blockTime : UInt64) :
    ((timeoutSecs timeLock height blockTime).toNat : Int) =
      min ((UInt64.size : Int) - 1)
        (max 0 ((timeLock.toNat : Int) - height.toNat) * blockTime.toNat) := by
  have blocks : max 0 ((timeLock.toNat : Int) - height.toNat) =
      ((timeLock.toNat - height.toNat : Nat) : Int) := by
    omega
  rw [timeoutSecs, blocks, ← Int.natCast_mul]
  generalize (timeLock.toNat - height.toNat) * blockTime.toNat = secs
  have capped : min (UInt64.size - 1) secs < UInt64.size := by
    simp only [UInt64.size]
    omega
  rw [UInt64.toNat_ofNat_of_lt' capped]
  simp only [UInt64.size]
  omega

theorem assemble_eq_ok_iff {i : Invoice} {route : Route} {fee total : UInt64} {info : NodeInfo}
    {q : Quote} (summed : total.toNat = fee.toNat + terms.adaptorFeeMsat.toNat) :
    assemble i ⟨route, total⟩ info.blockHeight terms = .ok q ↔ Tells terms i route fee info q := by
  simp only [assemble, bind_eq_ok_iff, mapError_eq_ok_iff, pure_eq_ok_iff]
  refine ⟨?_, ?_⟩
  · intro given
    obtain ⟨text, dated, rfl⟩ := given
    exact ⟨rfl, rfl, rfl, summed, dated, toNat_timeoutSecs _ _ _⟩
  · intro tells
    refine ⟨q.expiry, tells.expiry, ?_⟩
    have routingFee := UInt64.toNat_inj.mp (summed.trans tells.routingFee.symm)
    have timeout := tells.timeout
    rw [← toNat_timeoutSecs] at timeout
    have timeout := UInt64.toNat_inj.mp (Int.ofNat_inj.mp timeout)
    obtain ⟨amount, recipient, paymentHash, _, expiry, secs⟩ := q
    obtain ⟨rfl, rfl, rfl, _, _, _⟩ := tells
    cases routingFee
    cases timeout
    rfl

theorem assemble_eq_error_iff {i : Invoice} {estimate : Estimate} {height : UInt64}
    {e : TellerError} :
    assemble i estimate height terms = .error e ↔
      ∃ cause, i.expiryText = .error cause ∧ e = .malformedInvoice cause := by
  simp only [assemble, bind_eq_error_iff, mapError_eq_error_iff]
  refine ⟨?_, ?_⟩
  · intro given
    obtain ⟨cause, undated, rfl⟩ | ⟨_, _, assembled⟩ := given
    · exact ⟨cause, undated, rfl⟩
    · cases assembled
  · intro given
    obtain ⟨cause, undated, rfl⟩ := given
    exact .inl ⟨cause, undated, rfl⟩

end Quote

end ChequeTeller
