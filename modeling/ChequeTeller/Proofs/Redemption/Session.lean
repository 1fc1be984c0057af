import ChequeTeller.Proofs.Redemption.Authorization
import Mathlib.Data.List.ReduceOption
import Mathlib.Tactic.Push

/-!
Redemptions one after the other, against one ledger that starts empty and any node. They follow a
machine that has no ledger and remembers only what was sent: it sends for a request that is good
and whose index lies above all that were sent on its channel. Here a request is done with before
the next one is looked at; requests in flight together are another matter.
-/

namespace ChequeTeller.Session

open Lightning

/-- A request, and the time at which it is looked at. -/
structure Visit where
  now : UInt64
  request : PayRequest

/-- What a visit came to, and all that was exchanged with the node over it. -/
structure Turn where
  outcome : Except TellerError Json
  exchanges : List Exchange

variable {σ : Type}

/-- Redeems for one visit after the other. -/
def serve (terms : Terms) (node : Dialogue.Node σ) : List Visit → Ledger → σ → List Turn × Ledger
  | [], l, _ => ([], l)
  | v :: vs, l, s =>
    let ((outcome, l), exchanges, s) := Dialogue.run node (redeem terms v.now v.request l) s
    let (turns, l) := serve terms node vs l s
    (⟨outcome, exchanges⟩ :: turns, l)

/-- A payment that was sent, with the channel and the index of the cheque that it redeems. -/
structure Sending where
  channel : Channel
  index : UInt64
  payment : Payment

/-- What is sent for a good request, whose order is `o` and whose cheque's body is `b`. -/
def Sending.of (terms : Terms) (o : Order) (b : Cheque.Body) : Sending where
  channel := o.channel
  index := b.index
  payment :=
    { destination := o.destination
      paymentHash := b.lock
      amountMsat := o.amountMsat
      feeLimitSat := terms.payFeeLimitSat
      finalCltvDelta := terms.finalCltvDelta
      paymentAddr := o.paymentAddr }

/-- The machine's decision on a visit, once the payments `sent` have been sent. -/
inductive Decides (terms : Terms) (sent : List Sending) (v : Visit) : Option Sending → Prop
  | send {o : Order} {b : Cheque.Body} (good : Good terms v.now v.request o b)
      (above : ∀ d ∈ sent, d.channel = o.channel → d.index < b.index) :
      Decides terms sent v (some (.of terms o b))
  | refuse
      (never : ∀ o b, Good terms v.now v.request o b →
        ∃ d ∈ sent, d.channel = o.channel ∧ b.index ≤ d.index) :
      Decides terms sent v none

/-- The machine's decisions on visits in their order. -/
inductive Runs (terms : Terms) : List Sending → List Visit → List (Option Sending) → Prop
  | nil {sent : List Sending} : Runs terms sent [] []
  | cons {sent : List Sending} {v : Visit} {vs : List Visit} {decision : Option Sending}
      {decisions : List (Option Sending)} (now : Decides terms sent v decision)
      (later : Runs terms (sent ++ decision.toList) vs decisions) :
      Runs terms sent (v :: vs) (decision :: decisions)

/-- A turn that does what was decided: one call and its answer, or no call and an error that is not
the node's. -/
def Realizes (t : Turn) : Option Sending → Prop
  | some d => ∃ answer : Except Failure Json,
      t.exchanges = [⟨.sendPayment d.payment, answer⟩] ∧
      t.outcome = answer.mapError (.node .sendPayment)
  | none => t.exchanges = [] ∧ ∃ e, t.outcome = .error e ∧ e.nodeFailure? = none

/-- The indices of what was sent on each channel. -/
def indices (sent : List Sending) (c : Channel) : List UInt64 :=
  (sent.filter (·.channel = c)).map (·.index)

theorem forall_mem_indices {sent : List Sending} {c : Channel} {n : UInt64} :
    (∀ m ∈ indices sent c, m < n) ↔ ∀ d ∈ sent, d.channel = c → d.index < n := by
  simp only [indices, List.mem_map, List.mem_filter, decide_eq_true_eq, forall_exists_index,
    and_imp]
  refine ⟨?_, ?_⟩
  · intro h d hd hc
    exact h d.index d hd hc rfl
  · intro h _ d hd hc given
    obtain rfl := given
    exact h d hd hc

theorem indices_append_self (sent : List Sending) (d : Sending) :
    indices (sent ++ [d]) d.channel = indices sent d.channel ++ [d.index] := by
  simp [indices, List.filter_append]

theorem indices_append_of_ne (sent : List Sending) {d : Sending} {c : Channel}
    (h : c ≠ d.channel) : indices (sent ++ [d]) c = indices sent c := by
  simp [indices, List.filter_append, h.symm]

/-- One redemption does what the machine decides, and the ledger keeps up with what was sent. -/
theorem redeem_step (terms : Terms) (node : Dialogue.Node σ) (v : Visit) (s : σ) {l : Ledger}
    {sent : List Sending} (records : l.Records (indices sent)) :
    ∃ decision outcome l' exchanges s',
      Dialogue.run node (redeem terms v.now v.request l) s = ((outcome, l'), exchanges, s') ∧
      Decides terms sent v decision ∧ Realizes ⟨outcome, exchanges⟩ decision ∧
      l'.Records (indices (sent ++ decision.toList)) := by
  cases authorized : authorize terms v.now v.request l with
  | error e =>
      refine ⟨none, .error e, l, [], s, ?_, .refuse ?_, ⟨rfl, e, rfl, authorize_refusal authorized⟩,
        ?_⟩
      · rw [redeem_of_error authorized]
        rfl
      · intro o b good
        by_contra not_above
        push Not at not_above
        have above : ∀ m ∈ indices sent o.channel, m < b.index :=
          forall_mem_indices.mpr fun d hd hc => UInt64.not_le.mp (not_above d hd hc)
        obtain ⟨l', claimed⟩ := records.claim_isOk_iff.mpr above
        have accepted := authorize_eq_ok_iff.mpr ⟨o, b, good, claimed, rfl⟩
        rw [authorized] at accepted
        cases accepted
      · simpa using records
  | ok grant =>
      obtain ⟨p, l'⟩ := grant
      obtain ⟨o, b, good, claimed, rfl⟩ := authorize_eq_ok_iff.mp authorized
      let answer : Except Failure Json := (node (.sendPayment (o.payment b.lock terms)) s).1
      refine ⟨some (.of terms o b), answer.mapError (.node .sendPayment), l', _,
        (node (.sendPayment (o.payment b.lock terms)) s).2, ?_, .send good ?_, ⟨answer, rfl, rfl⟩,
        ?_⟩
      · rw [redeem_of_ok authorized]
        rfl
      · exact forall_mem_indices.mp (records.claim_isOk_iff.mp ⟨l', claimed⟩)
      · exact records.claim claimed (indices_append_self sent (.of terms o b))
          fun c hc => indices_append_of_ne sent hc

theorem serve_runs (terms : Terms) (node : Dialogue.Node σ) (visits : List Visit) (l : Ledger)
    (s : σ) (sent : List Sending) (records : l.Records (indices sent)) :
    ∃ decisions, Runs terms sent visits decisions ∧
      List.Forall₂ Realizes (serve terms node visits l s).1 decisions ∧
      (serve terms node visits l s).2.Records (indices (sent ++ decisions.reduceOption)) := by
  induction visits generalizing l s sent with
  | nil => exact ⟨[], .nil, .nil, by simpa [serve, List.reduceOption] using records⟩
  | cons v vs ih =>
      obtain ⟨decision, outcome, l', exchanges, s', run, decided, realized, records'⟩ :=
        redeem_step terms node v s records
      obtain ⟨decisions, runs, realize, final⟩ := ih l' s' _ records'
      simp only [serve, run]
      refine ⟨decision :: decisions, .cons decided runs, .cons realized realize, ?_⟩
      cases decision <;> simpa [List.reduceOption] using final

/-- What the ledger knows of a channel only grows. -/
theorem highest?_le_of_serve (terms : Terms) (node : Dialogue.Node σ) (visits : List Visit)
    {l : Ledger} {s : σ} {c : Channel} {n : UInt64} (known : l.highest? c = some n) :
    ∃ k, (serve terms node visits l s).2.highest? c = some k ∧ n ≤ k := by
  induction visits generalizing l s n with
  | nil => exact ⟨n, known, UInt64.le_refl n⟩
  | cons v vs ih =>
      cases authorized : authorize terms v.now v.request l with
      | error e =>
          simp only [serve, redeem_of_error authorized, Dialogue.run]
          exact ih known
      | ok grant =>
          obtain ⟨p, l'⟩ := grant
          obtain ⟨o, b, _, claimed, _⟩ := authorize_eq_ok_iff.mp authorized
          obtain ⟨m, higher, le⟩ := Ledger.highest?_le_of_claim claimed known
          obtain ⟨k, highest, le'⟩ := ih (s := (node (.sendPayment p) s).2) higher
          simp only [serve, redeem_of_ok authorized, Dialogue.run]
          exact ⟨k, highest, UInt64.le_trans le le'⟩

theorem mem_take_reduceOption_iff {decisions : List (Option Sending)} {i : Nat} {d : Sending} :
    d ∈ (decisions.take i).reduceOption ↔ ∃ j < i, decisions[j]? = some (some d) := by
  rw [List.reduceOption_mem_iff, List.mem_iff_getElem?]
  refine ⟨?_, ?_⟩
  · intro given
    obtain ⟨j, hj⟩ := given
    rw [List.getElem?_take] at hj
    split at hj
    · exact ⟨j, by assumption, hj⟩
    · cases hj
  · intro given
    obtain ⟨j, hlt, hj⟩ := given
    exact ⟨j, by rw [List.getElem?_take, if_pos hlt, hj]⟩

/-- The decision on a visit is made on what was decided before it. -/
theorem Runs.decides {terms : Terms} {sent : List Sending} {visits : List Visit}
    {decisions : List (Option Sending)} (runs : Runs terms sent visits decisions) {i : Nat}
    {v : Visit} {decision : Option Sending} (hv : visits[i]? = some v)
    (hd : decisions[i]? = some decision) :
    Decides terms (sent ++ (decisions.take i).reduceOption) v decision := by
  induction runs generalizing i with
  | nil => simp at hv
  | @cons sent w vs first rest now later ih =>
      cases i with
      | zero =>
          simp only [List.getElem?_cons_zero, Option.some.injEq] at hv hd
          subst hv hd
          simpa [List.reduceOption] using now
      | succ i =>
          simp only [List.getElem?_cons_succ] at hv hd
          have decides := ih hv hd
          cases first <;> simpa [List.reduceOption] using decides

theorem Runs.length_eq {terms : Terms} {sent : List Sending} {visits : List Visit}
    {decisions : List (Option Sending)} (runs : Runs terms sent visits decisions) :
    decisions.length = visits.length := by
  induction runs with
  | nil => rfl
  | cons _ _ ih => simp [ih]

/-- The machine sends exactly for good requests above all earlier sendings on their channel. -/
theorem Runs.sends_iff {terms : Terms} {visits : List Visit} {decisions : List (Option Sending)}
    (runs : Runs terms [] visits decisions) (i : Nat) (d : Sending) :
    decisions[i]? = some (some d) ↔
      ∃ v o b, visits[i]? = some v ∧ Good terms v.now v.request o b ∧ d = .of terms o b ∧
        ∀ j < i, ∀ d', decisions[j]? = some (some d') → d'.channel = o.channel →
          d'.index < b.index := by
  refine ⟨?_, ?_⟩
  · intro hd
    obtain ⟨hi, -⟩ := List.getElem?_eq_some_iff.mp hd
    rw [runs.length_eq] at hi
    have hv := List.getElem?_eq_getElem hi
    have decides := runs.decides hv hd
    cases decides with
    | send good above =>
        refine ⟨_, _, _, hv, good, rfl, ?_⟩
        intro j hj d' hd' hc
        exact above d' (by simpa using mem_take_reduceOption_iff.mpr ⟨j, hj, hd'⟩) hc
  · intro given
    obtain ⟨v, o, b, hv, good, rfl, above⟩ := given
    obtain ⟨hi, -⟩ := List.getElem?_eq_some_iff.mp hv
    rw [← runs.length_eq] at hi
    obtain ⟨decision, hd⟩ : ∃ decision, decisions[i]? = some decision :=
      ⟨_, List.getElem?_eq_getElem hi⟩
    have decides := runs.decides hv hd
    rw [hd]
    cases decides with
    | send good' _ =>
        obtain ⟨rfl, rfl⟩ := good.unique good'
        rfl
    | refuse never =>
        obtain ⟨d', hd', hc, hle⟩ := never o b good
        obtain ⟨j, hj, hd'⟩ := mem_take_reduceOption_iff.mp (by simpa using hd')
        exact absurd (above j hj d' hd' hc) (UInt64.not_lt.mpr hle)

/-- Serving visits from an empty ledger is a run of the machine. A visit sends exactly if its
request is good and its index lies above all that were sent before it on its channel; then it makes
that one call, and its outcome is the node's answer. Else it makes no call and is refused. The
ledger ends with the highest index sent on each channel. -/
theorem serve_refines_machine (terms : Terms) (node : Dialogue.Node σ) (visits : List Visit)
    (s : σ) :
    ∃ decisions : List (Option Sending),
      Runs terms [] visits decisions ∧
      List.Forall₂ Realizes (serve terms node visits .empty s).1 decisions ∧
      (∀ (i : Nat) (d : Sending), decisions[i]? = some (some d) ↔
        ∃ v o b, visits[i]? = some v ∧ Good terms v.now v.request o b ∧ d = .of terms o b ∧
          ∀ j < i, ∀ d', decisions[j]? = some (some d') → d'.channel = o.channel →
            d'.index < b.index) ∧
      (serve terms node visits .empty s).2.Records (indices decisions.reduceOption) := by
  obtain ⟨decisions, runs, realize, records⟩ :=
    serve_runs terms node visits .empty s [] Ledger.records_empty
  exact ⟨decisions, runs, realize, runs.sends_iff, records⟩

end ChequeTeller.Session
