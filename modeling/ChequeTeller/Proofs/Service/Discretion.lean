import ChequeTeller.Proofs.Lightning.Rest.Replies
import ChequeTeller.Proofs.Redemption.Payout
import ChequeTeller.Proofs.Service.Settlement

/-!
What responses tell of the node's failures: the call and the way in which it failed, and nothing
that its answer held. Nor do they tell what the client knows. What the operator sees is left apart.
-/

namespace ChequeTeller.Service

open Lightning Dialogue Rest

theorem refuse_teller (e : TellerError) :
    Response.refuse (.teller e) =
      ⟨e.kind.status, none,
        some (.object [("error", .string e.message), ("kind", .string e.kind.code)])⟩ :=
  rfl

/-- All that is shown of an error is its kind and its text. -/
theorem refuse_eq_of_kind_message {d e : TellerError} (kind : d.kind = e.kind)
    (message : d.message = e.message) :
    Response.refuse (.teller d) = .refuse (.teller e) := by
  rw [refuse_teller d, refuse_teller e, kind, message]

/-- Two outcomes with one response to them, and one ledger. -/
def ShownAlike (x y : Except Refusal Json × Ledger) : Prop :=
  Response.ofExcept x.1 = .ofExcept y.1 ∧ x.2 = y.2

theorem discreet_quote (terms : Terms) (segment : String) :
    Discreet (fun x y => Response.ofExcept x = .ofExcept y) (quote terms segment) := by
  unfold quote
  cases readSegment segment with
  | error refusal => exact .done _
  | ok request =>
      refine (Quote.discreet_request request terms).map ?_
      intro x y same
      cases same with
      | refused kind message => exact refuse_eq_of_kind_message kind message

theorem discreet_pay (terms : Terms) (now : UInt64) (r : Http.Request) (before : Ledger) :
    Discreet ShownAlike (pay terms now r before) := by
  unfold pay
  cases readPayRequest r with
  | error fault => exact .done _
  | ok request =>
      refine (discreet_redeem terms now request before).map ?_
      intro x y same
      obtain ⟨outcome, ledger⟩ := x
      obtain ⟨outcome', ledger'⟩ := y
      obtain ⟨outcomes, ledgers⟩ := same
      cases outcomes with
      | refused kind message => exact ⟨refuse_eq_of_kind_message kind message, ledgers⟩

theorem discreet_answer (terms : Terms) (now : UInt64) (r : Http.Request) (before : Ledger)
    (endpoint : Endpoint) : Discreet ShownAlike (answer terms now r before endpoint) := by
  cases endpoint with
  | health | info => exact .done _
  | quote segment => exact (discreet_quote terms segment).map fun _ _ same => ⟨same, rfl⟩
  | pay => exact discreet_pay terms now r before

theorem ShownAlike.respond {d : Dialogue (Except Refusal Json × Ledger)}
    (discreet : Discreet ShownAlike d) (method : String) :
    Discreet Eq (d >>= fun x => pure ((Response.ofExcept x.1).forMethod method, x.2)) := by
  refine discreet.map ?_
  intro x y same
  obtain ⟨response, ledger⟩ := same
  rw [response, ledger]

theorem discreet_handle (terms : Terms) (now : UInt64) (r : Http.Request) (before : Ledger) :
    Discreet Eq (handle terms now r before) := by
  unfold handle
  cases Endpoint.ofPath? r.path with
  | none => exact .done _
  | some endpoint =>
      dsimp only
      split
      · exact ShownAlike.respond (discreet_answer terms now r before endpoint) r.method
      · exact .done _

variable {σ σ' : Type} {terms : Terms} {now : UInt64} {r : Http.Request} {before : Ledger}

/-- Two runs whose answers are the same up to a call that fails in both, in one way, end with one
response and one ledger. -/
theorem response_hides_failure {c c' : Client} {wire : Wire σ} {wire' : Wire σ'} {s : σ} {s' : σ'}
    (alike : Client.Alike (c.replies wire (handle terms now r before) s)
      (c'.replies wire' (handle terms now r before) s')) :
    (serve (c.node wire) terms now r before s).response =
        (serve (c'.node wire') terms now r before s').response ∧
      (serve (c.node wire) terms now r before s).ledger =
        (serve (c'.node wire') terms now r before s').ledger := by
  have same := Client.run_fst_eq_of_alike (discreet_handle terms now r before) alike
  simp only [serve, same, and_self]

def quoteRequest : Http.Request :=
  ⟨"GET", "/quote/lnbc1", [], []⟩

/-- The local client under another macaroon. -/
def otherClient : Client :=
  { localClient with macaroon := ⟨[0x03], by decide⟩ }

/-- The wire of a node that has one answer to everything. -/
def sameAnswer (answer : Answer) : Wire Unit :=
  fun _ s => (answer, s)

/-- Two nodes refuse to decode one payment request, with statuses and bodies of their own. -/
theorem quoteRequest_hides_failure :
    Client.Alike
        (localClient.replies (sameAnswer (.complete 500 [0x6B, 0x65, 0x79]))
          (handle {} 0 quoteRequest .empty) ())
        (otherClient.replies (sameAnswer (.complete 404 [])) (handle {} 0 quoteRequest .empty) ()) ∧
      (serve (localClient.node (sameAnswer (.complete 500 [0x6B, 0x65, 0x79]))) {} 0 quoteRequest
          .empty ()).response =
        (serve (otherClient.node (sameAnswer (.complete 404 []))) {} 0 quoteRequest
          .empty ()).response ∧
      (serve (otherClient.node (sameAnswer (.complete 404 []))) {} 0 quoteRequest
          .empty ()).response =
        ⟨502, none, some (.object [("error", .string "failed to decode payment request"),
          ("kind", .string "invoice_decode_failed")])⟩ := by
  have alike : Client.Alike
      (localClient.replies (sameAnswer (.complete 500 [0x6B, 0x65, 0x79]))
        (handle {} 0 quoteRequest .empty) ())
      (otherClient.replies (sameAnswer (.complete 404 [])) (handle {} 0 quoteRequest .empty) ()) :=
    .failed (.status (.decodeRequest "lnbc1") (.inr (by decide)) _)
      (.status (.decodeRequest "lnbc1") (.inr (by decide)) _) [] []
  refine ⟨alike, ?_, ?_⟩
  · exact (response_hides_failure alike).1
  · rfl

end ChequeTeller.Service
