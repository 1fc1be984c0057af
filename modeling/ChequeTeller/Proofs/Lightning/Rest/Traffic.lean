import ChequeTeller.Lightning.Rest.Client
import ChequeTeller.Proofs.Url.Resolution

/-!
What goes over the wire. A client makes one request for each call of a dialogue, in their order,
and one for a payment is a POST to the node's channel transactions.
-/

namespace ChequeTeller.Lightning.Rest

variable {σ α : Type}

/-- The same wire, that keeps all requests that it carried, in order. -/
def Wire.logged (wire : Wire σ) : Wire (σ × List Request) :=
  fun request (s, log) =>
    let (answer, s) := wire request s
    (answer, s, log ++ [request])

namespace Client

theorem run_logged (c : Client) (wire : Wire σ) (d : Dialogue α) (s : σ) (log : List Request) :
    d.run (c.node wire.logged) (s, log) =
      let (a, exchanges, s) := d.run (c.node wire) s
      (a, exchanges, s, log ++ exchanges.map fun e => c.request e.call) := by
  induction d generalizing s log with
  | done a => simp [Dialogue.run]
  | ask call next ih => simp [Dialogue.run, node, Wire.logged, ih]

/-- The path that payments go to, below the base URL. -/
def transactions : List (List Char) :=
  ["v1".toList, "channels".toList, "transactions".toList]

theorem segmentsOf_transactions (special : Bool) :
    Url.segmentsOf special "./v1/channels/transactions".toList = ['.'] :: transactions := by
  cases special <;> rfl

theorem url_sendPayment {c : Client} (rooted : c.base.isBase = true) (p : Payment) :
    ∃ front, c.url (.sendPayment p) =
      { c.base with
        path := .rooted (front ++ ["v1", "channels", "transactions"])
        query := none
        fragment := none } :=
  Url.resolve_plain rooted (segmentsOf_transactions _) (by decide) (by decide)

section

variable {base : Url} {macaroon : Macaroon} {trust : Trust} {c : Client}

theorem new_eq_ok_iff : Client.new base macaroon trust = .ok c ↔
    base.isBase = true ∧ { base, macaroon, trust } = c := by
  unfold Client.new
  split <;> simp [*]

theorem base_of_new (made : Client.new base macaroon trust = .ok c) : c.base = base := by
  obtain ⟨-, rfl⟩ := new_eq_ok_iff.mp made
  rfl

theorem isBase_of_new (made : Client.new base macaroon trust = .ok c) : c.base.isBase = true := by
  obtain ⟨rooted, rfl⟩ := new_eq_ok_iff.mp made
  exact rooted

end

end Client

end ChequeTeller.Lightning.Rest
