import ChequeTeller.Proofs.Lightning.Exchanges
import ChequeTeller.Proofs.Service.Settlement

/-!
The one form of refusals: an object of a text and a code, and the status that is documented for the
code. The path and the method alone decide whether a request is refused for them, and then, as where
the payment request or the body cannot be read, the node is not called. Answers to `HEAD`, which
have no body, are left apart.
-/

namespace ChequeTeller.Service

open Lightning Dialogue

/-- The statuses of the codes, as they are documented. -/
def documentedStatuses : List (String × Nat) := [
  ("invalid_request", 400), ("malformed_cheque", 400), ("malformed_cheque_body", 400),
  ("invalid_key_material", 400), ("malformed_invoice", 400), ("no_route_available", 400),
  ("fee_overflow", 400), ("amount_exceeds_cheque", 400),
  ("unauthorized", 401), ("not_found", 404), ("method_not_allowed", 405),
  ("cheque_replayed", 409), ("cheque_expired", 410),
  ("backend_unavailable", 502), ("invoice_decode_failed", 502), ("payment_failed", 502),
  ("internal_effect_failure", 502)]

/-- The response refuses the request for the reason that the code names. -/
structure Refuses (code : String) (x : Response) : Prop where
  known : (∃ kind : ErrorKind, code = kind.code) ∨ code = "not_found" ∨
    code = "method_not_allowed"
  status : documentedStatuses.lookup code = some x.status
  body : ∃ text, x.body = some (.object [("error", .string text), ("kind", .string code)])

theorem lookup_code (kind : ErrorKind) :
    documentedStatuses.lookup kind.code = some kind.status := by
  cases kind <;> decide

namespace Refusal

variable {r : Refusal}

theorem refuses (r : Refusal) : Refuses r.code (.refuse r) := by
  refine { known := ?_, status := ?_, body := ⟨r.message, rfl⟩ }
  · cases r with
    | teller e => exact .inl ⟨e.kind, rfl⟩
    | badBody | badPath => exact .inl ⟨.invalidRequest, rfl⟩
    | notFound => exact .inr (.inl rfl)
    | notAllowed => exact .inr (.inr rfl)
  · cases r with
    | teller e => exact lookup_code e.kind
    | badBody | badPath => exact lookup_code .invalidRequest
    | notFound | notAllowed => rfl

theorem refuses_iff {code : String} : Refuses code (.refuse r) ↔ r.code = code := by
  refine ⟨?_, ?_⟩
  · intro refused
    obtain ⟨text, body⟩ := refused.body
    simp only [Response.refuse, toJson, Option.some.injEq, Json.object.injEq, List.cons.injEq,
      Prod.mk.injEq, Json.string.injEq, true_and, and_true] at body
    exact body.2
  · rintro rfl
    exact r.refuses

/-- Only what is asked for can be wrong, not where or how. -/
def IsAboutContent (r : Refusal) : Prop :=
  r.kind?.isSome

theorem IsAboutContent.code_ne (about : r.IsAboutContent) :
    r.code ≠ "not_found" ∧ r.code ≠ "method_not_allowed" := by
  have other (kind : ErrorKind) : kind.code ≠ "not_found" ∧ kind.code ≠ "method_not_allowed" := by
    cases kind <;> decide
  cases r with
  | teller e => exact other e.kind
  | badBody | badPath => exact other .invalidRequest
  | notFound | notAllowed => cases about

end Refusal

theorem not_refuses_ok {code : String} (body : Json) : ¬ Refuses code (.ok body) := by
  intro refused
  have unlisted : ∀ entry ∈ documentedStatuses, entry.2 ≠ 200 := by decide
  obtain ⟨before, after, entries, -⟩ := List.lookup_eq_some_iff.mp refused.status
  have listed : (code, 200) ∈ documentedStatuses := by
    rw [entries]
    exact List.mem_append_right before List.mem_cons_self
  exact unlisted _ listed rfl

/-! What comes of a request. -/

variable {terms : Terms} {now : UInt64} {r : Http.Request} {before : Ledger}

theorem readSegment_eq_error {segment : String} {refusal : Refusal}
    (unread : readSegment segment = .error refusal) : refusal = .badPath := by
  rw [readSegment] at unread
  split at unread
  · cases unread
  · cases unread
    rfl

theorem isAboutContent_of_quote {segment : String} {refusal : Refusal}
    {exchanges : List Exchange} (yields : (quote terms segment).Yields (.error refusal) exchanges) :
    refusal.IsAboutContent := by
  rw [quote] at yields
  split at yields
  · next unread =>
    cases yields
    obtain rfl := readSegment_eq_error unread
    trivial
  · obtain ⟨outcome, _, _, -, made, -⟩ := yields_bind_iff.mp yields
    cases outcome with
    | ok _ => cases made
    | error e =>
        cases made
        trivial

theorem isAboutContent_of_pay {refusal : Refusal} {after : Ledger} {exchanges : List Exchange}
    (yields : (pay terms now r before).Yields (.error refusal, after) exchanges) :
    refusal.IsAboutContent := by
  rw [pay] at yields
  split at yields
  · cases yields
    trivial
  · obtain ⟨⟨outcome, _⟩, _, _, -, made, -⟩ := yields_bind_iff.mp yields
    cases outcome with
    | ok _ => cases made
    | error e =>
        cases made
        trivial

theorem isAboutContent_of_answer {e : Endpoint} {refusal : Refusal} {after : Ledger}
    {exchanges : List Exchange}
    (yields : (answer terms now r before e).Yields (.error refusal, after) exchanges) :
    refusal.IsAboutContent := by
  cases e with
  | health | info => cases yields
  | quote segment =>
      obtain ⟨outcome, _, _, quoted, made, -⟩ := yields_bind_iff.mp yields
      cases made
      exact isAboutContent_of_quote quoted
  | pay => exact isAboutContent_of_pay yields

theorem mem_methods_iff (other : r.method ≠ "HEAD") {e : Endpoint} :
    r.method ∈ e.methods ↔ r.method = e.method := by
  cases e <;> simp [Endpoint.methods, Endpoint.method, other]

variable {σ : Type}

theorem forMethod_of_ne (other : r.method ≠ "HEAD") (x : Response) : x.forMethod r.method = x :=
  if_neg other

theorem serve_unknown (other : r.method ≠ "HEAD") (unknown : ∀ e : Endpoint, ¬ e.IsAt r.path)
    (node : Node σ) (s : σ) :
    serve node terms now r before s = ⟨.refuse (.notFound r.method r.path), before, []⟩ := by
  have none : Endpoint.ofPath? r.path = none :=
    Option.eq_none_iff_forall_ne_some.mpr fun e found =>
      unknown e (Endpoint.ofPath?_eq_some_iff.mp found)
  simp only [serve, handle, none, run_seq, run, forMethod_of_ne other]
  rfl

theorem serve_disallowed (other : r.method ≠ "HEAD") {e : Endpoint} (known : e.IsAt r.path)
    (disallowed : r.method ≠ e.method) (node : Node σ) (s : σ) :
    serve node terms now r before s = ⟨.refuse (.notAllowed r.method r.path e), before, []⟩ := by
  have refused : r.method ∉ e.methods := fun mem => disallowed ((mem_methods_iff other).mp mem)
  simp only [serve, handle, Endpoint.ofPath?_of_isAt known, if_neg refused, run_seq, run,
    forMethod_of_ne other]
  rfl

theorem serve_allowed (other : r.method ≠ "HEAD") {e : Endpoint} (known : e.IsAt r.path)
    (allowed : r.method = e.method) (node : Node σ) (s : σ) :
    ∃ outcome ledger exchanges, serve node terms now r before s =
        ⟨.ofExcept outcome, ledger, exchanges⟩ ∧
      (answer terms now r before e).Yields (outcome, ledger) exchanges := by
  have accepted : r.method ∈ e.methods := (mem_methods_iff other).mpr allowed
  refine ⟨_, _, _, ?_, (answer terms now r before e).yields_run node s⟩
  simp only [serve, handle, Endpoint.ofPath?_of_isAt known, if_pos accepted, run_seq,
    forMethod_of_ne other]
  simp [pure, run]

/-- How a request is treated: where it goes, or else what is asked for, decides on the response. -/
inductive Treated (r : Http.Request) (before : Ledger) (x : Served) : Prop
  | unknown (nowhere : ∀ e : Endpoint, ¬ e.IsAt r.path)
      (refused : x = ⟨.refuse (.notFound r.method r.path), before, []⟩)
  | disallowed {e : Endpoint} (known : e.IsAt r.path) (wrong : r.method ≠ e.method)
      (refused : x = ⟨.refuse (.notAllowed r.method r.path e), before, []⟩)
  | answered {e : Endpoint} {body : Json} (known : e.IsAt r.path) (right : r.method = e.method)
      (made : x.response = .ok body)
  | refused {e : Endpoint} {refusal : Refusal} (known : e.IsAt r.path) (right : r.method = e.method)
      (about : refusal.IsAboutContent) (made : x.response = .refuse refusal)

theorem treated_serve (other : r.method ≠ "HEAD") (node : Node σ) (s : σ) :
    Treated r before (serve node terms now r before s) := by
  by_cases known : ∃ e : Endpoint, e.IsAt r.path
  · obtain ⟨e, known⟩ := known
    by_cases right : r.method = e.method
    · obtain ⟨outcome, _, _, served, yields⟩ := serve_allowed other known right node s
      rw [served]
      cases outcome with
      | ok body => exact .answered known right rfl
      | error refusal => exact .refused known right (isAboutContent_of_answer yields) rfl
    · exact .disallowed known right (serve_disallowed other known right node s)
  · have nowhere := not_exists.mp known
    exact .unknown nowhere (serve_unknown other nowhere node s)

namespace Treated

variable {x : Served} (treated : Treated r before x)
include treated

theorem ok_or_refuses :
    (x.response.status = 200 ∧ x.response.body.isSome) ∨ ∃ code, Refuses code x.response := by
  cases treated with
  | unknown _ refused | disallowed _ _ refused =>
      subst refused
      exact .inr ⟨_, Refusal.refuses _⟩
  | answered _ _ made =>
      rw [made]
      exact .inl ⟨rfl, rfl⟩
  | @refused _ refusal _ _ _ made =>
      rw [made]
      exact .inr ⟨_, refusal.refuses⟩

theorem refuses_notFound_iff :
    Refuses "not_found" x.response ↔ ∀ e : Endpoint, ¬ e.IsAt r.path := by
  cases treated with
  | unknown nowhere refused =>
      subst refused
      exact iff_of_true (Refusal.refuses_iff.mpr rfl) nowhere
  | @disallowed e known _ refused =>
      subst refused
      refine iff_of_false ?_ fun nowhere => nowhere e known
      simp [Refusal.refuses_iff, Refusal.code]
  | @answered e _ known _ made =>
      rw [made]
      exact iff_of_false (not_refuses_ok _) fun nowhere => nowhere e known
  | @refused e _ known _ about made =>
      rw [made, Refusal.refuses_iff]
      exact iff_of_false about.code_ne.1 fun nowhere => nowhere e known

theorem refuses_notAllowed_iff :
    Refuses "method_not_allowed" x.response ↔
      ∃ e : Endpoint, e.IsAt r.path ∧ r.method ≠ e.method := by
  have only {e e' : Endpoint} (known : e.IsAt r.path) (known' : e'.IsAt r.path) : e = e' :=
    Option.some.inj ((Endpoint.ofPath?_of_isAt known).symm.trans (Endpoint.ofPath?_of_isAt known'))
  have allowed {e : Endpoint} (known : e.IsAt r.path) (right : r.method = e.method) :
      ¬ ∃ e : Endpoint, e.IsAt r.path ∧ r.method ≠ e.method := by
    rintro ⟨e', known', wrong⟩
    exact wrong (only known known' ▸ right)
  cases treated with
  | unknown nowhere refused =>
      subst refused
      refine iff_of_false ?_ fun ⟨e, known, _⟩ => nowhere e known
      simp [Refusal.refuses_iff, Refusal.code]
  | @disallowed e known wrong refused =>
      subst refused
      exact iff_of_true (Refusal.refuses_iff.mpr rfl) ⟨e, known, wrong⟩
  | answered known right made =>
      rw [made]
      exact iff_of_false (not_refuses_ok _) (allowed known right)
  | refused known right about made =>
      rw [made, Refusal.refuses_iff]
      exact iff_of_false about.code_ne.2 (allowed known right)

theorem exchanges_eq_nil
    (refuses : Refuses "not_found" x.response ∨ Refuses "method_not_allowed" x.response) :
    x.exchanges = [] := by
  cases treated with
  | unknown _ refused | disallowed _ _ refused => rw [refused]
  | answered _ _ made =>
      rw [made] at refuses
      exact (refuses.elim (not_refuses_ok _) (not_refuses_ok _)).elim
  | refused _ _ about made =>
      rw [made, Refusal.refuses_iff, Refusal.refuses_iff] at refuses
      exact (refuses.elim about.code_ne.1 about.code_ne.2).elim

end Treated

/-! What cannot be read. -/

theorem answer_unread_segment {segment : String}
    (unread : Text.ofUtf8? (Url.Percent.decodeText segment) = none) :
    answer terms now r before (.quote segment) = .done (.error .badPath, before) := by
  rw [answer, quote, readSegment, unread]
  rfl

theorem answer_unread_body (unread : ∀ request, readPayRequest r ≠ .ok request) :
    ∃ fault, answer terms now r before .pay = .done (.error (.badBody fault), before) := by
  cases read : readPayRequest r with
  | ok request => exact absurd read (unread request)
  | error fault => exact ⟨fault, pay_of_badBody read⟩

theorem serve_done (other : r.method ≠ "HEAD") {e : Endpoint} (known : e.IsAt r.path)
    (right : r.method = e.method) {refusal : Refusal}
    (done : answer terms now r before e = .done (.error refusal, before)) (node : Node σ) (s : σ) :
    serve node terms now r before s = ⟨.refuse refusal, before, []⟩ := by
  obtain ⟨_, _, _, served, yields⟩ := serve_allowed other known right node s
  rw [done] at yields
  cases yields
  exact served

/-- A request is answered with success and a value, or refused in the one form. Where it goes and
how, and whether what is asked for can be read, is settled before any call. -/
theorem answers_in_one_form (node : Node σ) (terms : Terms) (now : UInt64) (r : Http.Request)
    (before : Ledger) (s : σ) (other : r.method ≠ "HEAD") :
    let x := serve node terms now r before s
    ((x.response.status = 200 ∧ x.response.body.isSome) ∨ ∃ code, Refuses code x.response) ∧
    (Refuses "not_found" x.response ↔ ∀ e : Endpoint, ¬ e.IsAt r.path) ∧
    (Refuses "method_not_allowed" x.response ↔
      ∃ e : Endpoint, e.IsAt r.path ∧ r.method ≠ e.method) ∧
    (Refuses "not_found" x.response ∨ Refuses "method_not_allowed" x.response →
      x.exchanges = []) ∧
    (∀ segment, r.method = "GET" → (Endpoint.quote segment).IsAt r.path →
      Text.ofUtf8? (Url.Percent.decodeText segment) = none →
        Refuses "invalid_request" x.response ∧ x.exchanges = []) ∧
    (r.method = "POST" → r.path = "/pay" → (∀ request, readPayRequest r ≠ .ok request) →
      Refuses "invalid_request" x.response ∧ x.exchanges = []) := by
  intro x
  have treated : Treated r before x := treated_serve other node s
  refine ⟨treated.ok_or_refuses, treated.refuses_notFound_iff, treated.refuses_notAllowed_iff,
    treated.exchanges_eq_nil, ?_, ?_⟩
  · intro segment get known unread
    have served : x = _ := serve_done other known get (answer_unread_segment unread) node s
    rw [served]
    exact ⟨Refusal.refuses .badPath, rfl⟩
  · intro post path unread
    obtain ⟨fault, done⟩ := answer_unread_body unread
    have served : x = _ := serve_done (e := .pay) other path post done node s
    rw [served]
    exact ⟨Refusal.refuses (.badBody fault), rfl⟩

/-- A payment whose body is not declared to be JSON is refused without a call. -/
theorem undeclaredBody_refused :
    let r : Http.Request := ⟨"POST", "/pay?now", [("content-type", "text/plain")], []⟩
    let node : Node Unit := fun _ s => (.error (.transport "" ⟨"", []⟩), s)
    r.method ≠ "HEAD" ∧
    Refuses "invalid_request" (serve node {} 0 r .empty ()).response ∧
    (serve node {} 0 r .empty ()).exchanges = [] := by
  intro r node
  have other : r.method ≠ "HEAD" := by decide
  have unread : ∀ request, readPayRequest r ≠ .ok request := by
    intro request read
    cases read
  obtain ⟨-, -, -, -, -, pay⟩ := answers_in_one_form node {} 0 r .empty () other
  exact ⟨other, pay rfl (by decide) unread⟩

end ChequeTeller.Service
