import ChequeTeller.Proofs.Quote.Stages

/-!
The courses that quoting can take. There is one for each stage that it can stop at and one for the
quote itself, each with all exchanges up to there; and quoting takes the one that the node's
answers make it take. A node may as well find no route as refuse a route query.
-/

namespace ChequeTeller

open Lightning Steps

namespace Quote

/-- What quoting comes to and by which exchanges, one case for each place where it can end. -/
inductive Course (request : String) (terms : Terms) :
    Except TellerError Quote → List Exchange → Prop
  | undecoded (f : Failure) :
      Course request terms (.error (.node .decodeRequest f))
        [⟨.decodeRequest request, .error f⟩]
  | malformed {d : DecodedRequest} {cause : InvoiceError}
      (read : Invoice.ofDecoded d = .error cause) :
      Course request terms (.error (.malformedInvoice cause)) [⟨.decodeRequest request, .ok d⟩]
  | unrouted {d : DecodedRequest} {i : Invoice} {f : Failure}
      (read : Invoice.ofDecoded d = .ok i) (failed : ∀ routes, ¬ Offers (.error f) routes) :
      Course request terms (.error (.node .queryRoutes f))
        [⟨.decodeRequest request, .ok d⟩, ⟨.queryRoutes i.destination i.amountMsat, .error f⟩]
  | noRoute {d : DecodedRequest} {i : Invoice} {outcome : Except Failure (List Route)}
      {routes : List Route} (read : Invoice.ofDecoded d = .ok i) (offers : Offers outcome routes)
      (unpriced : ∀ route fee, ¬ Priced routes route fee) :
      Course request terms (.error (.noRoute i.destination))
        [⟨.decodeRequest request, .ok d⟩, ⟨.queryRoutes i.destination i.amountMsat, outcome⟩]
  | feeOverflow {d : DecodedRequest} {i : Invoice} {routes : List Route} {route : Route}
      {fee : UInt64} (read : Invoice.ofDecoded d = .ok i) (priced : Priced routes route fee)
      (overflows : UInt64.size ≤ fee.toNat + terms.adaptorFeeMsat.toNat) :
      Course request terms (.error (.feeOverflow fee terms.adaptorFeeMsat))
        [⟨.decodeRequest request, .ok d⟩, ⟨.queryRoutes i.destination i.amountMsat, .ok routes⟩]
  | uninformed {d : DecodedRequest} {i : Invoice} {routes : List Route} {route : Route}
      {fee : UInt64} (read : Invoice.ofDecoded d = .ok i) (priced : Priced routes route fee)
      (fits : fee.toNat + terms.adaptorFeeMsat.toNat < UInt64.size) (f : Failure) :
      Course request terms (.error (.node .nodeInfo f))
        [⟨.decodeRequest request, .ok d⟩, ⟨.queryRoutes i.destination i.amountMsat, .ok routes⟩,
          ⟨.nodeInfo, .error f⟩]
  | undated {d : DecodedRequest} {i : Invoice} {routes : List Route} {route : Route}
      {fee : UInt64} {cause : InvoiceError} (read : Invoice.ofDecoded d = .ok i)
      (priced : Priced routes route fee)
      (fits : fee.toNat + terms.adaptorFeeMsat.toNat < UInt64.size) (info : NodeInfo)
      (text : i.expiryText = .error cause) :
      Course request terms (.error (.malformedInvoice cause))
        [⟨.decodeRequest request, .ok d⟩, ⟨.queryRoutes i.destination i.amountMsat, .ok routes⟩,
          ⟨.nodeInfo, .ok info⟩]
  | quoted {d : DecodedRequest} {i : Invoice} {routes : List Route} {route : Route}
      {fee : UInt64} {info : NodeInfo} {q : Quote} (read : Invoice.ofDecoded d = .ok i)
      (priced : Priced routes route fee) (tells : Tells terms i route fee info q) :
      Course request terms (.ok q)
        [⟨.decodeRequest request, .ok d⟩, ⟨.queryRoutes i.destination i.amountMsat, .ok routes⟩,
          ⟨.nodeInfo, .ok info⟩]

variable {request : String} {terms : Terms} {exchanges : List Exchange}

theorem exists_word_of_lt {n : Nat} (fits : n < UInt64.size) : ∃ word : UInt64, word.toNat = n :=
  ⟨.ofNat n, UInt64.toNat_ofNat_of_lt' fits⟩

section

variable {d : DecodedRequest} {i : Invoice} {e : TellerError}

theorem yields_of_undecoded
    (decoding : (decodeInvoice request).run.Yields (.error e) exchanges) :
    (Quote.request request terms).run.Yields (.error e) exchanges :=
  Dealing.yields_bind_iff.mpr (.inl ⟨e, decoding, rfl⟩)

theorem yields_of_unestimated (read : Invoice.ofDecoded d = .ok i)
    (estimating : (Estimate.request i.destination i.amountMsat terms).run.Yields (.error e)
      exchanges) :
    (Quote.request request terms).run.Yields (.error e)
      (⟨.decodeRequest request, .ok d⟩ :: exchanges) := by
  have decoding : (decodeInvoice request).run.Yields (.ok i) [⟨.decodeRequest request, .ok d⟩] :=
    decodeInvoice_yields_ok_iff.mpr ⟨d, read, rfl⟩
  exact Dealing.yields_bind_iff.mpr (.inr ⟨i, _, _, decoding,
    Dealing.yields_bind_iff.mpr (.inl ⟨e, estimating, rfl⟩), rfl⟩)

theorem yields_of_estimated {routes : List Route} {route : Route} {fee total : UInt64}
    {r : Except TellerError Quote} (read : Invoice.ofDecoded d = .ok i)
    (priced : Priced routes route fee)
    (summed : total.toNat = fee.toNat + terms.adaptorFeeMsat.toNat)
    (outcome : Except Failure NodeInfo)
    (assembled : (outcome.mapError (.node .nodeInfo) >>= fun info =>
      assemble i ⟨route, total⟩ info.blockHeight terms) = r) :
    (Quote.request request terms).run.Yields r
      [⟨.decodeRequest request, .ok d⟩, ⟨.queryRoutes i.destination i.amountMsat, .ok routes⟩,
        ⟨.nodeInfo, outcome⟩] := by
  have decoding : (decodeInvoice request).run.Yields (.ok i) [⟨.decodeRequest request, .ok d⟩] :=
    decodeInvoice_yields_ok_iff.mpr ⟨d, read, rfl⟩
  have estimating : (Estimate.request i.destination i.amountMsat terms).run.Yields
      (.ok ⟨route, total⟩) [⟨.queryRoutes i.destination i.amountMsat, .ok routes⟩] :=
    estimate_yields_ok_iff.mpr ⟨routes, fee, priced, summed, rfl⟩
  refine Dealing.yields_bind_iff.mpr (.inr ⟨i, _, _, decoding, ?_, rfl⟩)
  refine Dealing.yields_bind_iff.mpr (.inr ⟨⟨route, total⟩, _, _, estimating, ?_, rfl⟩)
  rw [← assembled]
  cases outcome with
  | error f =>
      refine Dealing.yields_bind_iff.mpr (.inl ⟨_, ?_, rfl⟩)
      exact Dealing.yields_perform_iff.mpr ⟨.error f, rfl, rfl⟩
  | ok info =>
      refine Dealing.yields_bind_iff.mpr (.inr ⟨info, [⟨.nodeInfo, .ok info⟩], [], ?_, ?_, rfl⟩)
      · exact Dealing.yields_perform_iff.mpr ⟨.ok info, rfl, rfl⟩
      · exact Dealing.yields_ofExcept_iff.mpr ⟨rfl, rfl⟩

end

theorem Course.yields {r : Except TellerError Quote} (course : Course request terms r exchanges) :
    (Quote.request request terms).run.Yields r exchanges := by
  cases course with
  | undecoded f =>
      exact yields_of_undecoded (decodeInvoice_yields_error_iff.mpr (.inl ⟨f, rfl, rfl⟩))
  | malformed read =>
      exact yields_of_undecoded (decodeInvoice_yields_error_iff.mpr (.inr ⟨_, _, read, rfl, rfl⟩))
  | unrouted read failed =>
      exact yields_of_unestimated read
        (estimate_yields_error_iff.mpr (.inl ⟨_, failed, rfl, rfl⟩))
  | noRoute read offers unpriced =>
      exact yields_of_unestimated read
        (estimate_yields_error_iff.mpr (.inr (.inl ⟨_, _, offers, unpriced, rfl, rfl⟩)))
  | feeOverflow read priced overflows =>
      exact yields_of_unestimated read
        (estimate_yields_error_iff.mpr (.inr (.inr ⟨_, _, _, priced, overflows, rfl, rfl⟩)))
  | uninformed read priced fits f =>
      obtain ⟨total, summed⟩ := exists_word_of_lt fits
      exact yields_of_estimated read priced summed (.error f) rfl
  | undated read priced fits info text =>
      obtain ⟨total, summed⟩ := exists_word_of_lt fits
      exact yields_of_estimated read priced summed (.ok info)
        (assemble_eq_error_iff.mpr ⟨_, text, rfl⟩)
  | quoted read priced tells =>
      exact yields_of_estimated read priced tells.routingFee (.ok _)
        ((assemble_eq_ok_iff tells.routingFee).mpr tells)

theorem course_of_yields {r : Except TellerError Quote}
    (given : (Quote.request request terms).run.Yields r exchanges) :
    Course request terms r exchanges := by
  simp only [Quote.request, Dealing.yields_bind_iff, decodeInvoice_yields_error_iff,
    decodeInvoice_yields_ok_iff, estimate_yields_error_iff, estimate_yields_ok_iff,
    Dealing.yields_perform_iff, Dealing.yields_ofExcept_iff] at given
  -- Each stage either ends the course here or is passed, and `given` shrinks to what comes after.
  obtain ⟨_, decoding, rfl⟩ | ⟨i, _, _, ⟨d, read, rfl⟩, given, rfl⟩ := given
  · obtain ⟨f, rfl, rfl⟩ | ⟨d, cause, read, rfl, rfl⟩ := decoding
    · exact .undecoded f
    · exact .malformed read
  obtain ⟨_, routing, rfl⟩ |
    ⟨⟨route, total⟩, _, _, ⟨routes, fee, priced, summed, rfl⟩, given, rfl⟩ := given
  · obtain ⟨f, failed, rfl, rfl⟩ | ⟨outcome, routes, offers, unpriced, rfl, rfl⟩ |
      ⟨routes, route, fee, priced, overflows, rfl, rfl⟩ := routing
    · exact .unrouted read failed
    · exact .noRoute read offers unpriced
    · exact .feeOverflow read priced overflows
  have fits : fee.toNat + terms.adaptorFeeMsat.toNat < UInt64.size :=
    summed ▸ total.toNat_lt
  obtain ⟨_, ⟨outcome, failed, rfl⟩, rfl⟩ |
    ⟨info, _, _, ⟨outcome, answered, rfl⟩, ⟨rfl, rfl⟩, rfl⟩ := given
  · obtain ⟨f, rfl, rfl⟩ := mapError_eq_error_iff.mp failed.symm
    exact .uninformed read priced fits f
  · obtain rfl := mapError_eq_ok_iff.mp answered.symm
    cases assembled : assemble i ⟨route, total⟩ info.blockHeight terms with
    | error e =>
        obtain ⟨cause, text, rfl⟩ := assemble_eq_error_iff.mp assembled
        exact .undated read priced fits info text
    | ok q => exact .quoted read priced ((assemble_eq_ok_iff summed).mp assembled)

/-! The calls. -/

/-- At most these three calls, in this order, and each only if all before it went well. -/
structure InOrder (request : String) (terms : Terms) (exchanges : List Exchange) : Prop where
  calls : ∃ destination amount, exchanges.map (·.call) <+:
    [.decodeRequest request, .queryRoutes destination amount, .nodeInfo]
  once : (exchanges.map (·.call)).Nodup
  unpaid : ∀ p, .sendPayment p ∉ exchanges.map (·.call)
  routes : ∀ destination amount, .queryRoutes destination amount ∈ exchanges.map (·.call) →
    ∃ d i, exchanges[0]? = some ⟨.decodeRequest request, .ok d⟩ ∧ Invoice.ofDecoded d = .ok i ∧
      destination = i.destination ∧ amount = i.amountMsat
  info : .nodeInfo ∈ exchanges.map (·.call) →
    ∃ destination amount routes route fee,
      exchanges[1]? = some ⟨.queryRoutes destination amount, .ok routes⟩ ∧
      Priced routes route fee ∧ fee.toNat + terms.adaptorFeeMsat.toNat < UInt64.size

namespace InOrder

variable {d : DecodedRequest} {i : Invoice}

theorem one (outcome : Except Failure DecodedRequest) :
    InOrder request terms [⟨.decodeRequest request, outcome⟩] where
  calls := ⟨⟨List.replicate 33 0, rfl⟩, 0, by simp⟩
  once := by simp
  unpaid := by simp
  routes := by simp
  info := by simp

/-- The one route query is for the invoice. -/
theorem decoded_of_queried {outcome : Except Failure (List Route)} {rest : List Exchange}
    (read : Invoice.ofDecoded d = .ok i)
    (unasked : ∀ destination amount, .queryRoutes destination amount ∉ rest.map (·.call))
    (destination : NodeId) (amount : UInt64)
    (made : .queryRoutes destination amount ∈ List.map (·.call)
      (⟨.decodeRequest request, .ok d⟩ ::
        ⟨.queryRoutes i.destination i.amountMsat, outcome⟩ :: rest : List Exchange)) :
    ∃ d' i', (⟨.decodeRequest request, .ok d⟩ ::
        ⟨.queryRoutes i.destination i.amountMsat, outcome⟩ :: rest : List Exchange)[0]? =
          some ⟨.decodeRequest request, .ok d'⟩ ∧ Invoice.ofDecoded d' = .ok i' ∧
      destination = i'.destination ∧ amount = i'.amountMsat := by
  simp only [List.map_cons, List.mem_cons, reduceCtorEq, false_or, Call.queryRoutes.injEq,
    unasked, or_false] at made
  exact ⟨d, i, rfl, read, made.1, made.2⟩

theorem two (read : Invoice.ofDecoded d = .ok i) (outcome : Except Failure (List Route)) :
    InOrder request terms
      [⟨.decodeRequest request, .ok d⟩, ⟨.queryRoutes i.destination i.amountMsat, outcome⟩] where
  calls := ⟨i.destination, i.amountMsat, by simp⟩
  once := by simp
  unpaid := by simp
  routes := decoded_of_queried read (by simp)
  info := by simp

theorem three {routes : List Route} {route : Route} {fee : UInt64}
    (read : Invoice.ofDecoded d = .ok i) (priced : Priced routes route fee)
    (fits : fee.toNat + terms.adaptorFeeMsat.toNat < UInt64.size)
    (outcome : Except Failure NodeInfo) :
    InOrder request terms
      [⟨.decodeRequest request, .ok d⟩, ⟨.queryRoutes i.destination i.amountMsat, .ok routes⟩,
        ⟨.nodeInfo, outcome⟩] where
  calls := ⟨i.destination, i.amountMsat, by simp⟩
  once := by simp
  unpaid := by simp
  routes := decoded_of_queried read (by simp)
  info := fun _ => ⟨i.destination, i.amountMsat, routes, route, fee, rfl, priced, fits⟩

end InOrder

theorem Tells.fits {i : Invoice} {route : Route} {fee : UInt64} {info : NodeInfo} {q : Quote}
    (tells : Tells terms i route fee info q) :
    fee.toNat + terms.adaptorFeeMsat.toNat < UInt64.size :=
  tells.routingFee ▸ q.routingFee.toNat_lt

theorem Course.inOrder {r : Except TellerError Quote} (course : Course request terms r exchanges) :
    InOrder request terms exchanges := by
  cases course with
  | undecoded f => exact .one _
  | malformed read => exact .one _
  | unrouted read _ | noRoute read _ _ | feeOverflow read _ _ => exact .two read _
  | uninformed read priced fits _ | undated read priced fits _ _ => exact .three read priced fits _
  | quoted read priced tells => exact .three read priced tells.fits _

/-! Refused route queries. -/

/-- The outcome with an empty list of routes in place of a refusal. -/
def emptied : (call : Call) → Except Failure call.Answer → Except Failure call.Answer
  | .queryRoutes _ _, .error (.status _ _ _) => .ok []
  | _, outcome => outcome

def emptiedExchange (e : Exchange) : Exchange :=
  ⟨e.call, emptied e.call e.outcome⟩

/-- A node that answers a route query that it refuses with no routes. -/
def emptiedNode {σ : Type} (node : Dialogue.Node σ) : Dialogue.Node σ :=
  fun call s =>
    let (outcome, s) := node call s
    (emptied call outcome, s)

theorem emptied_of_not_offers {destination : NodeId} {amount : UInt64} {f : Failure}
    (failed : ∀ routes, ¬ Offers (.error f) routes) :
    emptied (.queryRoutes destination amount) (.error f) = .error f := by
  cases f with
  | status context code body => exact absurd (.refused context code body) (failed [])
  | transport | decode | rejected => rfl

theorem Offers.emptied {destination : NodeId} {amount : UInt64}
    {outcome : Except Failure (List Route)} {routes : List Route} (offers : Offers outcome routes) :
    Quote.emptied (.queryRoutes destination amount) outcome = .ok routes := by
  cases offers <;> rfl

theorem Course.emptied {r : Except TellerError Quote} (course : Course request terms r exchanges) :
    Course request terms r (exchanges.map emptiedExchange) := by
  cases course with
  | undecoded f => exact .undecoded f
  | malformed read => exact .malformed read
  | unrouted read failed =>
      simp only [List.map, emptiedExchange, emptied_of_not_offers failed]
      exact .unrouted read failed
  | noRoute read offers unpriced => exact .noRoute read (offers.emptied ▸ .listed _) unpriced
  | feeOverflow read priced overflows => exact .feeOverflow read priced overflows
  | uninformed read priced fits f => exact .uninformed read priced fits f
  | undated read priced fits info text => exact .undated read priced fits info text
  | quoted read priced tells => exact .quoted read priced tells

theorem answers_emptied {σ : Type} {node : Dialogue.Node σ} {s s' : σ}
    (answers : node.Answers s exchanges s') :
    (emptiedNode node).Answers s (exchanges.map emptiedExchange) s' := by
  induction answers with
  | nil s => exact .nil s
  | cons call _ ih => exact .cons call ih

/-- Quoting takes the one course that the node's answers make it take, with its calls in order; and
it makes no difference whether the node refuses a route query or finds no route. -/
theorem request_takes_course {σ : Type} (request : String) (terms : Terms) (node : Dialogue.Node σ)
    (s : σ) :
    (∀ r exchanges s', (Quote.request request terms).run.run node s = (r, exchanges, s') ↔
      Course request terms r exchanges ∧ node.Answers s exchanges s') ∧
    InOrder request terms ((Quote.request request terms).run.run node s).2.1 ∧
    (Quote.request request terms).run.run (emptiedNode node) s =
      let (r, exchanges, s') := (Quote.request request terms).run.run node s
      (r, exchanges.map emptiedExchange, s') := by
  have takes {node : Dialogue.Node σ} {r : Except TellerError Quote} {exchanges : List Exchange}
      {s' : σ} : (Quote.request request terms).run.run node s = (r, exchanges, s') ↔
        Course request terms r exchanges ∧ node.Answers s exchanges s' :=
    Dialogue.run_eq_iff.trans (and_congr_left' ⟨course_of_yields, Course.yields⟩)
  obtain ⟨course, answers⟩ := takes.mp (Eq.refl ((Quote.request request terms).run.run node s))
  refine ⟨fun _ _ _ => takes, course.inOrder, ?_⟩
  exact takes.mpr ⟨course.emptied, answers_emptied answers⟩

end Quote

end ChequeTeller
