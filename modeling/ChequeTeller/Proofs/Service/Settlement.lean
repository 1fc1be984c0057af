import ChequeTeller.Proofs.Lightning.Rest.Payments
import ChequeTeller.Proofs.Redemption.Authorization
import ChequeTeller.Proofs.Service.Routing
import Mathlib.Logic.Basic

/-!
What the status of an answer tells about the money. A redemption that is refused with 4xx asked
for no payment and left the ledger alone; one that is answered 200 or 502 claimed the cheque's
index and asked for its payment once. No other request does either. Which status each refusal has
is left apart.
-/

namespace ChequeTeller.Service

open Lightning

/-- What came of a request. -/
structure Served where
  response : Response
  ledger : Ledger
  exchanges : List Exchange

variable {σ : Type}

def serve (node : Dialogue.Node σ) (terms : Terms) (now : UInt64) (r : Http.Request)
    (before : Ledger) (s : σ) : Served :=
  let ((response, ledger), exchanges, _) := (handle terms now r before).run node s
  ⟨response, ledger, exchanges⟩

/-- The request was refused and nothing happened. -/
structure Refused (before : Ledger) (x : Served) : Prop where
  status : 400 ≤ x.response.status ∧ x.response.status < 500
  exchanges : x.exchanges = []
  ledger : x.ledger = before

/-- The payment for the order `o`, whose cheque has the body `b`, was asked for once, and the
cheque's index was claimed for it. -/
structure Attempted (terms : Terms) (r : Http.Request) (before : Ledger) (o : Order)
    (b : Cheque.Body) (x : Served) : Prop where
  status : x.response.status = 200 ∨ x.response.status = 502
  order : ∃ request, readPayRequest r = .ok request ∧ request.Spells o
  body : Cheque.Body.decode o.frame.body = .ok b
  exchanges : ∃ outcome, x.exchanges = [⟨.sendPayment (o.payment b.lock terms), outcome⟩]
  raised : ∀ m, before.highest? o.channel = some m → m < b.index
  claimed : x.ledger.highest? o.channel = some b.index
  elsewhere : ∀ c, c ≠ o.channel → x.ledger.highest? c = before.highest? c

variable {terms : Terms} {now : UInt64} {r : Http.Request} {before : Ledger}

theorem serve_pay (post : r.method = "POST") (path : r.path = "/pay") (node : Dialogue.Node σ)
    (s : σ) {outcome : Except Refusal Json} {ledger : Ledger} {exchanges : List Exchange} {s' : σ}
    (paid : (pay terms now r before).run node s = ((outcome, ledger), exchanges, s')) :
    serve node terms now r before s = ⟨.ofExcept outcome, ledger, exchanges⟩ := by
  simp only [serve, handle_pay post path, Dialogue.run_seq, paid]
  simp [pure, Dialogue.run]

theorem serve_elsewhere (terms : Terms) (now : UInt64) (before : Ledger)
    (h : ¬ (r.method = "POST" ∧ r.path = "/pay")) (node : Dialogue.Node σ) (s : σ) :
    (∀ e ∈ (serve node terms now r before s).exchanges, e.call.Asks) ∧
      (serve node terms now r before s).ledger = before := by
  obtain ⟨d, only, same⟩ := handle_elsewhere terms now before h
  simp only [serve, same, Dialogue.run_seq]
  refine ⟨?_, rfl⟩
  simpa [pure, Dialogue.run] using only.run node s

/-! Paying. -/

theorem pay_of_badBody {fault : BodyFault} (h : readPayRequest r = .error fault) :
    pay terms now r before = .done (.error (.badBody fault), before) := by
  simp only [pay, h]

theorem pay_of_refusal {request : PayRequest} {e : TellerError}
    (h : readPayRequest r = .ok request) (refused : authorize terms now request before = .error e) :
    pay terms now r before = .done (.error (.teller e), before) := by
  simp only [pay, h, redeem_of_error refused]
  rfl

theorem pay_of_authorized {request : PayRequest} {p : Payment} {ledger : Ledger}
    (h : readPayRequest r = .ok request)
    (authorized : authorize terms now request before = .ok (p, ledger)) :
    pay terms now r before = .ask (.sendPayment p) fun answer =>
      .done ((answer.mapError (.node .sendPayment)).mapError .teller, ledger) := by
  simp only [pay, h, redeem_of_ok authorized]
  rfl

theorem serve_refused (post : r.method = "POST") (path : r.path = "/pay")
    (node : Dialogue.Node σ) (s : σ) {refusal : Refusal}
    (refused : pay terms now r before = .done (.error refusal, before)) :
    serve node terms now r before s = ⟨.refuse refusal, before, []⟩ :=
  serve_pay post path node s (by rw [refused, Dialogue.run])

/-- What the node answers to the payment decides on the response. -/
theorem serve_authorized (post : r.method = "POST") (path : r.path = "/pay")
    (node : Dialogue.Node σ) (s : σ) {request : PayRequest} {p : Payment} {ledger : Ledger}
    (h : readPayRequest r = .ok request)
    (authorized : authorize terms now request before = .ok (p, ledger)) :
    serve node terms now r before s =
      ⟨.ofExcept (((node (.sendPayment p) s).1.mapError (.node .sendPayment)).mapError .teller),
        ledger, [⟨.sendPayment p, (node (.sendPayment p) s).1⟩]⟩ :=
  serve_pay post path node s (by rw [pay_of_authorized h authorized]; rfl)

theorem refused_or_authorized (terms : Terms) (now : UInt64) (before : Ledger)
    (post : r.method = "POST") (path : r.path = "/pay") (node : Dialogue.Node σ) (s : σ) :
    Refused before (serve node terms now r before s) ∨
      ∃ request p ledger, readPayRequest r = .ok request ∧
        authorize terms now request before = .ok (p, ledger) := by
  cases h : readPayRequest r with
  | error fault =>
      have served : serve node terms now r before s = _ :=
        serve_refused post path node s (pay_of_badBody h)
      exact .inl (served ▸ ⟨status_of_badBody fault, rfl, rfl⟩)
  | ok request =>
      cases authorized : authorize terms now request before with
      | error e =>
          have served : serve node terms now r before s = _ :=
            serve_refused post path node s (pay_of_refusal h authorized)
          exact .inl (served ▸ ⟨status_of_refusal (authorize_refusal authorized), rfl, rfl⟩)
      | ok grant => exact .inr ⟨request, grant.1, grant.2, rfl, authorized⟩

theorem attempted_of_authorized {x : Served} {request : PayRequest} {o : Order} {b : Cheque.Body}
    {ledger : Ledger} {answer : Except Failure Json} (h : readPayRequest r = .ok request)
    (good : Good terms now request o b) (claimed : before.claim o.channel b.index = .ok ledger)
    (served : x = ⟨.ofExcept ((answer.mapError (.node .sendPayment)).mapError .teller), ledger,
      [⟨.sendPayment (o.payment b.lock terms), answer⟩]⟩) :
    Attempted terms r before o b x := by
  subst served
  obtain ⟨above, rfl⟩ := Ledger.claim_eq_ok_iff.mp claimed
  refine ⟨?_, ⟨request, h, good.spells⟩, good.body, ⟨answer, rfl⟩, above, ?_, ?_⟩
  · cases answer with
    | ok v => exact .inl rfl
    | error failure => exact .inr (status_of_node .sendPayment failure)
  · exact before.highest?_set_self o.channel b.index
  · intro c hc
    exact before.highest?_set_of_ne b.index hc

theorem answered_of_made {x : Served} {p : Payment} {ledger : Ledger}
    {answer : Except Failure Json}
    (served : x = ⟨.ofExcept ((answer.mapError (.node .sendPayment)).mapError .teller), ledger,
      [⟨.sendPayment p, answer⟩]⟩)
    (made : x.response.status = 200) : ∃ v, answer = .ok v := by
  subst served
  cases answer with
  | ok v => exact ⟨v, rfl⟩
  | error failure =>
      have failed : 502 = 200 := (status_of_node .sendPayment failure).symm.trans made
      cases failed

theorem Refused.not_made {x : Served} (refused : Refused before x) : x.response.status ≠ 200 := by
  have bound := refused.status.1
  omega

theorem Refused.not_attempted {x : Served} {o : Order} {b : Cheque.Body}
    (refused : Refused before x) : ¬ Attempted terms r before o b x := by
  intro attempted
  obtain ⟨outcome, exchanges⟩ := attempted.exchanges
  rw [refused.exchanges] at exchanges
  cases exchanges

/-- A redemption is either refused or attempted, as its status tells. It succeeds only if the
node's answer tells of success with a value that tells of no error, and is that value then. All
other requests leave the ledger alone and ask for no payment. -/
theorem status_tells_attempt (c : Rest.Client) (wire : Rest.Wire σ) (terms : Terms) (now : UInt64)
    (r : Http.Request) (before : Ledger) (s : σ) :
    let x := serve (c.node wire) terms now r before s
    (r.method = "POST" ∧ r.path = "/pay" →
      Xor (Refused before x) (∃ o b, Attempted terms r before o b x) ∧
      (x.response.status = 200 → ∃ p status body v,
        x.exchanges = [⟨.sendPayment p, .ok v⟩] ∧
        (wire (c.request (.sendPayment p)) s).1 = .complete status body ∧
        200 ≤ status ∧ status ≤ 299 ∧ Json.parse body = .ok v ∧
        Rest.Client.TellsNoError v ∧ x.response.body = some v)) ∧
    (¬ (r.method = "POST" ∧ r.path = "/pay") →
      (∀ e ∈ x.exchanges, ∀ p, e.call ≠ .sendPayment p) ∧ x.ledger = before) := by
  intro x
  have here : serve (c.node wire) terms now r before s = x := rfl
  clear_value x
  refine ⟨?_, ?_⟩
  · intro given
    obtain ⟨post, path⟩ := given
    have outcome := refused_or_authorized terms now before post path (c.node wire) s
    rw [here] at outcome
    obtain refused | ⟨request, p, ledger, h, authorized⟩ := outcome
    · refine ⟨.inl ⟨refused, ?_⟩, ?_⟩
      · intro given
        obtain ⟨o, b, attempted⟩ := given
        exact refused.not_attempted attempted
      · intro made
        exact absurd made refused.not_made
    · obtain ⟨o, b, good, claimed, rfl⟩ := authorize_eq_ok_iff.mp authorized
      have served := serve_authorized post path (c.node wire) s h authorized
      rw [here, Rest.Client.node_fst] at served
      have attempted := attempted_of_authorized h good claimed served
      refine ⟨.inr ⟨⟨o, b, attempted⟩, fun refused => refused.not_attempted attempted⟩, ?_⟩
      intro made
      obtain ⟨v, answered⟩ := answered_of_made served made
      obtain ⟨status, body, answer, least, most, parsed, told⟩ :=
        Rest.Client.read_sendPayment_eq_ok answered
      rw [answered] at served
      exact ⟨_, status, body, v, congrArg Served.exchanges served, answer, least, most, parsed,
        told, congrArg (·.response.body) served⟩
  · intro h
    obtain ⟨asks, same⟩ := serve_elsewhere terms now before h (c.node wire) s
    rw [here] at asks same
    refine ⟨?_, same⟩
    intro e he p payment
    have moved := asks e he
    rw [payment] at moved
    exact moved

end ChequeTeller.Service
