import ChequeTeller.Proofs.Quote.Stages
import ChequeTeller.Proofs.Redemption.Authorization

/-!
Whose fault an error is. The first call that fails is the last that a dealing makes, and the error
says what the call was for and how it failed; only a refused route query is taken for an answer.
An error that says nothing of a failed call is the teller's own. It is shown step by step, for
whatever is put together from calls and own checks, and then for quotes and redemptions.
-/

namespace ChequeTeller

open Lightning Steps

namespace Lightning

theorem withCauses_append (front message : String) (causes : List String) :
    withCauses (front ++ message) causes = front ++ withCauses message causes := by
  induction causes generalizing message with
  | nil => rfl
  | cons cause causes ih =>
      change withCauses (front ++ message ++ ": " ++ cause) causes =
        front ++ withCauses (message ++ ": " ++ cause) causes
      rw [← ih, String.append_assoc, String.append_assoc, String.append_assoc]

/-- The chain goes on with that of the first cause. -/
theorem withCauses_cons (message cause : String) (under : List String) :
    withCauses message (cause :: under) = message ++ ": " ++ withCauses cause under :=
  withCauses_append (message ++ ": ") cause under

namespace Failure

def IsTransport : Failure → Prop
  | transport .. => True
  | _ => False

def IsStatus : Failure → Prop
  | status .. => True
  | _ => False

def IsRejected : Failure → Prop
  | rejected .. => True
  | _ => False

end Failure

namespace Exchange

def failure? (e : Exchange) : Option Failure :=
  match e.outcome with
  | .error f => some f
  | .ok _ => none

/-- The node refused to look for routes. -/
def RefusesRoutes (e : Exchange) : Prop :=
  e.call.action = .queryRoutes ∧ ∃ f, e.failure? = some f ∧ f.IsStatus

end Exchange

end Lightning

variable {α β : Type}

/-- How a dealing can end, by what its last exchange was. -/
inductive Ends : Except TellerError α → List Exchange → Prop
  | answered {r : Except TellerError α} {exchanges : List Exchange}
      (fine : ∀ e ∈ exchanges, e.failure? = none)
      (own : ∀ e, r = .error e → e.nodeFailure? = none) : Ends r exchanges
  | failed {front : List Exchange} {last : Exchange} {f : Failure}
      (fine : ∀ e ∈ front, e.failure? = none) (fails : last.failure? = some f)
      (kept : ¬ last.RefusesRoutes) :
      Ends (.error (.node last.call.action f)) (front ++ [last])
  | refused {front : List Exchange} {last : Exchange} (fine : ∀ e ∈ front, e.failure? = none)
      (refuses : last.RefusesRoutes) (destination : NodeId) :
      Ends (.error (.noRoute destination)) (front ++ [last])

namespace Ends

variable {r : Except TellerError α} {before exchanges : List Exchange}

theorem fine_of_ok {a : α} (ends : Ends (.ok a : Except TellerError α) exchanges) :
    ∀ e ∈ exchanges, e.failure? = none := by
  cases ends with
  | answered fine _ => exact fine

theorem after (fine : ∀ e ∈ before, e.failure? = none) (ends : Ends r exchanges) :
    Ends r (before ++ exchanges) := by
  have both {back : List Exchange} (h : ∀ e ∈ back, e.failure? = none) :
      ∀ e ∈ before ++ back, e.failure? = none :=
    List.forall_mem_append.mpr ⟨fine, h⟩
  cases ends with
  | answered h own => exact .answered (both h) own
  | failed h fails kept =>
      rw [← List.append_assoc]
      exact .failed (both h) fails kept
  | refused h refuses destination =>
      rw [← List.append_assoc]
      exact .refused (both h) refuses destination

/-- A failure keeps its value, whether as a result or as that of a larger dealing. -/
theorem of_error {e : TellerError} (ends : Ends (.error e : Except TellerError α) exchanges) :
    Ends (.error e : Except TellerError β) exchanges := by
  cases ends with
  | answered fine own => exact .answered fine fun d same => own d (by cases same; rfl)
  | failed fine fails kept => exact .failed fine fails kept
  | refused fine refuses destination => exact .refused fine refuses destination

theorem one_failed {only : Exchange} {f : Failure} (fails : only.failure? = some f)
    (kept : ¬ only.RefusesRoutes) :
    Ends (.error (.node only.call.action f) : Except TellerError α) [only] :=
  @failed α [] only f (List.forall_mem_nil _) fails kept

theorem one_refused {only : Exchange} (refuses : only.RefusesRoutes) (destination : NodeId) :
    Ends (.error (.noRoute destination) : Except TellerError α) [only] :=
  @refused α [] only (List.forall_mem_nil _) refuses destination

theorem of_call {call : Call} (other : call.action ≠ .queryRoutes)
    (outcome : Except Failure call.Answer) :
    Ends (outcome.mapError (.node call.action)) [⟨call, outcome⟩] := by
  cases outcome with
  | error f =>
      have kept : ¬ Exchange.RefusesRoutes ⟨call, .error f⟩ := fun refuses => other refuses.1
      exact .one_failed rfl kept
  | ok a => exact .answered (by simp [Exchange.failure?]) (by simp)

end Ends

namespace Dealing

/-- However the node answers, the dealing ends in one of these ways. -/
def Attributes (x : Dealing α) : Prop :=
  ∀ r exchanges, x.run.Yields r exchanges → Ends r exchanges

theorem attributes_ofExcept {x : Except TellerError α}
    (own : ∀ e, x = .error e → e.nodeFailure? = none) : (ofExcept x).Attributes := by
  intro r exchanges given
  obtain ⟨rfl, rfl⟩ := yields_ofExcept_iff.mp given
  exact .answered (by simp) own

theorem attributes_perform {call : Call} (other : call.action ≠ .queryRoutes) :
    (perform call.action call).Attributes := by
  intro r exchanges given
  obtain ⟨outcome, rfl, rfl⟩ := yields_perform_iff.mp given
  exact .of_call other outcome

theorem attributes_bind {x : Dealing α} {f : α → Dealing β} (first : x.Attributes)
    (second : ∀ a, (f a).Attributes) : (x >>= f).Attributes := by
  intro r exchanges given
  obtain ⟨e, failing, rfl⟩ | ⟨a, before, after, asking, going, rfl⟩ := yields_bind_iff.mp given
  · exact (first _ _ failing).of_error
  · exact (second a _ _ going).after (first _ _ asking).fine_of_ok

end Dealing

/-! Quotes and redemptions. -/

namespace Quote

open Dealing

theorem ofRoutes_refusal {destination : NodeId} {terms : Terms} {routes : List Route}
    {e : TellerError} (h : Estimate.ofRoutes destination terms routes = .error e) :
    e.nodeFailure? = none := by
  obtain ⟨_, rfl⟩ | ⟨_, _, _, _, rfl⟩ := ofRoutes_eq_error_iff.mp h
  · rfl
  · rfl

/-- The one place where a failed call is not passed on. -/
theorem attributes_estimate (destination : NodeId) (amount : UInt64) (terms : Terms) :
    (Estimate.request destination amount terms).Attributes := by
  intro r exchanges given
  obtain ⟨f, failed, rfl, rfl⟩ | ⟨outcome, routes, offers, rfl, rfl⟩ :=
    estimate_yields_iff.mp given
  · have kept : ¬ Exchange.RefusesRoutes ⟨.queryRoutes destination amount, .error f⟩ := by
      intro refuses
      obtain ⟨_, _, ⟨⟩, status⟩ := refuses
      cases f with
      | status context code body => exact failed [] (.refused context code body)
      | transport | decode | rejected => exact status
    exact .one_failed rfl kept
  · cases offers with
    | listed => exact .answered (by simp [Exchange.failure?]) fun _ => ofRoutes_refusal
    | refused context code body =>
        exact .one_refused ⟨rfl, .status context code body, rfl, trivial⟩ destination

theorem attributes_request (request : String) (terms : Terms) :
    (Quote.request request terms).Attributes := by
  refine attributes_bind ?_ fun invoice => attributes_bind ?_ fun estimate =>
    attributes_bind ?_ fun info => ?_
  · refine attributes_bind (attributes_perform (by simp [Call.action])) fun decoded => ?_
    refine attributes_ofExcept fun e h => ?_
    obtain ⟨cause, _, rfl⟩ := mapError_eq_error_iff.mp h
    rfl
  · exact attributes_estimate _ _ _
  · exact attributes_perform (by simp [Call.action])
  · refine attributes_ofExcept fun e h => ?_
    obtain ⟨cause, _, rfl⟩ := assemble_eq_error_iff.mp h
    rfl

end Quote

theorem redeem_ends {terms : Terms} {now : UInt64} {request : PayRequest} {ledger ledger' : Ledger}
    {r : Except TellerError Json} {exchanges : List Exchange}
    (given : (redeem terms now request ledger).Yields (r, ledger') exchanges) :
    Ends r exchanges := by
  cases authorized : authorize terms now request ledger with
  | error e =>
      rw [redeem_of_error authorized] at given
      cases given
      refine .answered (by simp) fun d same => ?_
      cases same
      exact authorize_refusal authorized
  | ok paid =>
      rw [redeem_of_ok authorized] at given
      cases given with
      | ask outcome later =>
          cases later
          exact .of_call (by simp [Call.action]) outcome

/-! What an end says of the error. -/

/-- The error is that of a failed call for `action`. -/
structure TellerError.Reports (e : TellerError) (action : Action) (f : Failure) : Prop where
  unavailable : e.kind = .backendUnavailable ↔ f.IsTransport
  undecoded : e.kind = .invoiceDecodeFailed ↔
    action = .decodeRequest ∧ (f.IsStatus ∨ f.IsRejected)
  unpaid : e.kind = .paymentFailed ↔ action = .sendPayment ∧ (f.IsStatus ∨ f.IsRejected)
  internal : e.kind = .internalEffectFailure ↔
    ¬ f.IsTransport ∧ ¬ (action = .decodeRequest ∧ (f.IsStatus ∨ f.IsRejected)) ∧
      ¬ (action = .sendPayment ∧ (f.IsStatus ∨ f.IsRejected))
  chain : e.chain = e.message ++ ": " ++ f.chain

theorem TellerError.eq_node_of_nodeFailure? {e : TellerError} {action : Action} {f : Failure}
    (h : e.nodeFailure? = some (action, f)) : e = .node action f := by
  cases e <;> cases h
  rfl

theorem TellerError.reports_node (action : Action) (f : Failure) :
    (TellerError.node action f).Reports action f where
  unavailable := by
    cases f <;> cases action <;> simp [kind, nodeKind, Failure.IsTransport]
  undecoded := by
    cases f <;> cases action <;> simp [kind, nodeKind, Failure.IsStatus, Failure.IsRejected]
  unpaid := by
    cases f <;> cases action <;> simp [kind, nodeKind, Failure.IsStatus, Failure.IsRejected]
  internal := by
    cases f <;> cases action <;>
      simp [kind, nodeKind, Failure.IsTransport, Failure.IsStatus, Failure.IsRejected]
  chain := withCauses_cons _ _ _

/-- The error tells of the call that failed, which is the last, or else no call failed but perhaps
a last one for routes, which was refused. -/
structure Faithful (r : Except TellerError α) (exchanges : List Exchange) : Prop where
  attached : ∀ action f, (∃ e, r = .error e ∧ e.nodeFailure? = some (action, f)) ↔
    ∃ front last, exchanges = front ++ [last] ∧ last.call.action = action ∧
      last.failure? = some f ∧ ¬ last.RefusesRoutes
  terminal : ∀ front e back, exchanges = front ++ e :: back → e.failure? ≠ none → back = []
  reports : ∀ e action f, r = .error e → e.nodeFailure? = some (action, f) → e.Reports action f
  unattached : ∀ e, r = .error e → e.nodeFailure? = none →
    (∀ x ∈ exchanges, x.failure? = none) ∨
    ∃ front last, exchanges = front ++ [last] ∧ last.RefusesRoutes ∧ e.kind = .noRouteAvailable

variable {r : Except TellerError α} {exchanges : List Exchange}

theorem eq_nil_of_fine {front front' back : List Exchange} {last e : Exchange}
    (fine : ∀ x ∈ front, x.failure? = none) (same : front ++ [last] = front' ++ e :: back)
    (fails : e.failure? ≠ none) : back = [] := by
  obtain rfl | ⟨back, final, rfl⟩ := List.eq_nil_or_concat back
  · rfl
  · -- With another exchange after it, `e` would stand in `front`, where none failed.
    rw [List.concat_eq_append, ← List.cons_append, ← List.append_assoc] at same
    obtain ⟨rfl, _⟩ := List.append_inj' same rfl
    exact absurd (fine e (by simp)) fails

theorem Ends.attached (ends : Ends r exchanges) (action : Action) (f : Failure) :
    (∃ e, r = .error e ∧ e.nodeFailure? = some (action, f)) ↔
      ∃ front last, exchanges = front ++ [last] ∧ last.call.action = action ∧
        last.failure? = some f ∧ ¬ last.RefusesRoutes := by
  refine ⟨?_, ?_⟩
  · intro given
    obtain ⟨e, rfl, blamed⟩ := given
    obtain rfl := TellerError.eq_node_of_nodeFailure? blamed
    cases ends with
    | answered fine own => exact absurd (own _ rfl) (by simp [TellerError.nodeFailure?])
    | failed fine fails kept => exact ⟨_, _, rfl, rfl, fails, kept⟩
  · intro given
    obtain ⟨front, last, made, rfl, fails, kept⟩ := given
    cases ends with
    | answered fine own =>
        subst made
        exact absurd (fine last (by simp)) (by simp [fails])
    | failed fine fails' _ =>
        obtain ⟨-, same⟩ := List.append_inj' made rfl
        obtain rfl := List.singleton_inj.mp same
        obtain rfl := Option.some.inj (fails'.symm.trans fails)
        exact ⟨_, rfl, rfl⟩
    | refused fine refuses destination =>
        obtain ⟨-, same⟩ := List.append_inj' made rfl
        obtain rfl := List.singleton_inj.mp same
        exact absurd refuses kept

theorem Ends.faithful (ends : Ends r exchanges) : Faithful r exchanges where
  attached := ends.attached
  terminal := by
    intro front e back made fails
    cases ends with
    | answered fine own =>
        subst made
        exact absurd (fine e (by simp)) fails
    | failed fine _ _ | refused fine _ _ => exact eq_nil_of_fine fine made fails
  reports := by
    intro e action f _ blamed
    obtain rfl := TellerError.eq_node_of_nodeFailure? blamed
    exact TellerError.reports_node action f
  unattached := by
    intro e failed own
    subst failed
    cases ends with
    | answered fine _ => exact .inl fine
    | failed fine fails kept => exact absurd own (by simp [TellerError.nodeFailure?])
    | refused fine refuses destination => exact .inr ⟨_, _, rfl, refuses, rfl⟩

/-- Every run of a quote or a redemption, at any node, is faithful about the node's failures. -/
theorem failures_attributed {σ : Type} (terms : Terms) (node : Dialogue.Node σ) (s : σ) :
    (∀ request, Faithful ((Quote.request request terms).run.run node s).1
      ((Quote.request request terms).run.run node s).2.1) ∧
    ∀ now request ledger, Faithful ((redeem terms now request ledger).run node s).1.1
      ((redeem terms now request ledger).run node s).2.1 := by
  refine ⟨?_, ?_⟩
  · intro request
    exact (Quote.attributes_request request terms _ _ (Dialogue.yields_run _ node s)).faithful
  · intro now request ledger
    exact (redeem_ends (Dialogue.yields_run _ node s)).faithful

end ChequeTeller
