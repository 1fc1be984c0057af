import ChequeTeller.Proofs.Lightning.Calls
import ChequeTeller.Proofs.Text.Split
import ChequeTeller.Service.Handler
import Mathlib.Tactic.SplitIfs

/-!
Who answers a request, and what the status of a refusal tells. Only the path of payments with its
method leads to the ledger; all other requests leave it alone, and ask the node for no payment.
-/

namespace ChequeTeller.Service

open Lightning

/-! The status of an error tells whether it is the node's. -/

theorem status_of_refusal {e : TellerError} (h : e.nodeFailure? = none) :
    400 ≤ (Refusal.teller e).status ∧ (Refusal.teller e).status < 500 := by
  cases e with
  | node action failure => cases h
  | _ => simp [Refusal.status, TellerError.kind, ErrorKind.status]

theorem status_of_badBody (fault : BodyFault) :
    400 ≤ (Refusal.badBody fault).status ∧ (Refusal.badBody fault).status < 500 := by
  simp [Refusal.status, ErrorKind.status]

theorem status_of_node (action : Action) (failure : Failure) :
    (Refusal.teller (.node action failure)).status = 502 := by
  cases action <;> cases failure <;> rfl

/-! The path decides who answers. -/

namespace Endpoint

/-- The endpoint at a path. -/
def IsAt (path : String) : Endpoint → Prop
  | health => path = "/health"
  | info => path = "/info"
  | pay => path = "/pay"
  | quote segment => segment ≠ "" ∧ '/' ∉ segment.toList ∧ path = "/quote/" ++ segment

def method : Endpoint → String
  | pay => "POST"
  | _ => "GET"

theorem split_quote {segment : String} (whole : '/' ∉ segment.toList) :
    Text.split (· = '/') ("/quote/" ++ segment).toList =
      [[], "quote".toList, segment.toList] := by
  have pieces : ("/quote/" ++ segment).toList = "/quote".toList ++ '/' :: segment.toList := by
    simp
  have last : Text.split (· = '/') segment.toList = [segment.toList] :=
    Text.split_of_forall fun c mem => decide_eq_false fun same => whole (same ▸ mem)
  rw [pieces, Text.split_append_cons (by simp), last]
  rfl

theorem ofPath?_of_isAt {path : String} {e : Endpoint} (at_path : e.IsAt path) :
    ofPath? path = some e := by
  cases e with
  | health | info | pay =>
      obtain rfl := at_path
      rfl
  | quote segment =>
      obtain ⟨filled, whole, rfl⟩ := at_path
      have letters : segment.toList ≠ [] := by simpa using filled
      rw [ofPath?, split_quote whole]
      simp [letters]

theorem isAt_of_ofPath? {path : String} {e : Endpoint} (found : ofPath? path = some e) :
    e.IsAt path := by
  have joined := Text.intercalate_split '/' path.toList
  rw [ofPath?] at found
  split at found
  · next segment pieces =>
    rw [pieces] at joined
    split_ifs at found with health info pay
    all_goals cases found
    · subst health
      exact String.toList_inj.mp joined.symm
    · subst info
      exact String.toList_inj.mp joined.symm
    · subst pay
      exact String.toList_inj.mp joined.symm
  · next name segment pieces =>
    rw [pieces] at joined
    split_ifs at found with quote
    obtain ⟨rfl, filled⟩ := quote
    cases found
    have mem : segment ∈ Text.split (· = '/') path.toList := by simp [pieces]
    have whole := Text.not_of_mem_split mem
    refine ⟨by simpa using filled, ?_, ?_⟩
    · rw [String.toList_ofList]
      intro mem
      simpa using whole '/' mem
    · refine String.toList_inj.mp ?_
      rw [← joined]
      simp [List.intercalate]
  · cases found

theorem ofPath?_eq_some_iff {path : String} {e : Endpoint} :
    ofPath? path = some e ↔ e.IsAt path :=
  ⟨isAt_of_ofPath?, ofPath?_of_isAt⟩

end Endpoint

variable {terms : Terms} {now : UInt64} {r : Http.Request} {before : Ledger}

theorem quote_only_asks (terms : Terms) (segment : String) :
    Dialogue.Only Call.Asks (quote terms segment) := by
  unfold quote
  cases readSegment segment with
  | error refusal => exact .done _
  | ok request => exact (Quote.only_asks request terms).bind fun _ => .done _

theorem handle_pay (post : r.method = "POST") (path : r.path = "/pay") :
    handle terms now r before =
      pay terms now r before >>= fun x => pure (Response.ofExcept x.1, x.2) := by
  unfold handle
  rw [Endpoint.ofPath?_of_isAt (e := .pay) path]
  simp [post, Endpoint.methods, answer, Response.forMethod]

/-- No other request comes to the ledger, nor to a payment. -/
theorem handle_elsewhere (terms : Terms) (now : UInt64) (before : Ledger)
    (h : ¬ (r.method = "POST" ∧ r.path = "/pay")) :
    ∃ d : Dialogue Response, Dialogue.Only Call.Asks d ∧
      handle terms now r before = d >>= fun response => pure (response, before) := by
  unfold handle
  cases found : Endpoint.ofPath? r.path with
  | none => exact ⟨.done _, .done _, rfl⟩
  | some endpoint =>
      dsimp only
      by_cases known : r.method ∈ endpoint.methods
      · rw [if_pos known]
        cases endpoint with
        | health | info => exact ⟨.done _, .done _, rfl⟩
        | quote segment =>
            refine ⟨quote terms segment >>= fun outcome =>
              pure ((Response.ofExcept outcome).forMethod r.method), ?_, ?_⟩
            · exact (quote_only_asks terms segment).bind fun _ => .done _
            · simp only [answer, bind_assoc, pure_bind]
        | pay =>
            have post : r.method = "POST" := by simpa [Endpoint.methods] using known
            exact absurd ⟨post, Endpoint.isAt_of_ofPath? found⟩ h
      · rw [if_neg known]
        exact ⟨.done _, .done _, rfl⟩

end ChequeTeller.Service
