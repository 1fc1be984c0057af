import ChequeTeller.Proofs.Redemption.Interleaving.Steps

/-!
Counting indices over interleaved steps. Claims only rise and the ledger has the highest; and every
index that was claimed is sent, still waits to be sent, or was given up before that.
-/

namespace ChequeTeller.Interleaving

open Lightning

/-! The ledger and the claims. -/

/-- The ledger has the highest index claimed on each channel, and claims only rise. -/
structure Rising (s : State) : Prop where
  records : s.ledger.Records s.claims
  sorted : ∀ c, (s.claims c).Pairwise (· < ·)

theorem rising_initial : Rising State.initial :=
  ⟨Ledger.records_empty, fun _ => .nil⟩

theorem Rising.of_claims_eq {s s' : State} (h : Rising s) (hl : s'.ledger = s.ledger)
    (hc : s'.claims = s.claims) : Rising s' :=
  ⟨by rw [hl, hc]; exact h.records, by rw [hc]; exact h.sorted⟩

theorem claims_claim {terms : Terms} {now : UInt64} {s : State} {i : Nat} {r : PayRequest}
    {f : Flight} {l : Ledger} {o : Order} {b : Cheque.Body} (good : Good terms now r o b)
    (c : Channel) :
    (s.move i f l [.claimed i r]).claims c =
      if o.channel = c then s.claims c ++ [b.index] else s.claims c := by
  rw [State.claims_move]
  by_cases h : o.channel = c <;> simp [Event.claimOn, good.indexOn_eq, h]

theorem Rising.step {terms : Terms} {s s' : State} (h : Rising s) (step : Step terms s s') :
    Rising s' := by
  cases step with
  | arrive r => exact h.of_claims_eq rfl rfl
  | @claim i r now p l here ok =>
      obtain ⟨o, b, good, claimed, -⟩ := authorize_eq_ok_iff.mp ok
      refine ⟨?_, ?_⟩
      · apply h.records.claim claimed
        · rw [claims_claim good, if_pos rfl]
        · intro d hd
          rw [claims_claim good, if_neg hd.symm]
      · intro c
        rw [claims_claim good]
        split
        · rename_i hc
          rw [List.pairwise_append]
          refine ⟨h.sorted c, List.pairwise_singleton _ _, ?_⟩
          intro m hm n hn
          rw [List.mem_singleton.mp hn]
          exact h.records.claim_isOk_iff.mp ⟨l, claimed⟩ m (hc ▸ hm)
        · exact h.sorted c
  | refuse now here error =>
      exact h.of_claims_eq rfl (funext fun c => by simp [State.claims_move, Event.claimOn])
  | call answer here =>
      exact h.of_claims_eq rfl (funext fun c => by simp [State.claims_move, Event.claimOn])
  | abort here | abortRunning here =>
      exact h.of_claims_eq rfl (funext fun c => by simp [State.claims_move])

/-- No step lowers the highest index of a channel. -/
theorem highest?_le_of_step {terms : Terms} {s s' : State} {c : Channel} {n : UInt64}
    (step : Step terms s s') (h : s.ledger.highest? c = some n) :
    ∃ m, s'.ledger.highest? c = some m ∧ n ≤ m := by
  cases step with
  | claim now here ok =>
      obtain ⟨o, b, -, claimed, -⟩ := authorize_eq_ok_iff.mp ok
      exact Ledger.highest?_le_of_claim claimed h
  | arrive _ | refuse _ _ _ | call _ _ | abort _ | abortRunning _ => exact ⟨n, h, UInt64.le_refl n⟩

theorem highest?_le_of_reaches {terms : Terms} {s s' : State} {c : Channel} {n : UInt64}
    (reaches : Reaches terms s s') (h : s.ledger.highest? c = some n) :
    ∃ m, s'.ledger.highest? c = some m ∧ n ≤ m := by
  induction reaches with
  | refl => exact ⟨n, h, UInt64.le_refl n⟩
  | tail _ step ih =>
      obtain ⟨m, hm, hn⟩ := ih
      obtain ⟨k, hk, hm⟩ := highest?_le_of_step step hm
      exact ⟨k, hk, UInt64.le_trans hn hm⟩

/-! What a request that has claimed has still to do. -/

/-- What is left of a request that has claimed. -/
def Stage.rest? : Stage → Option (Dialogue (Except TellerError Json))
  | running rest => some rest
  | aborted rest => rest
  | arrived | refused _ => none

/-- A request that has claimed has only the one payment of its cheque to ask for, if anything. -/
def Flight.PaysOnce (terms : Terms) (f : Flight) : Prop :=
  ∀ rest, f.stage.rest? = some rest →
    (∃ o b, f.request.cheque? = some (o, b) ∧ rest = (execute (o.payment b.lock terms)).run) ∨
    ∃ outcome, rest = .done outcome

theorem paysOnce_step {terms : Terms} {s s' : State}
    (h : ∀ f ∈ s.flights, f.PaysOnce terms) (step : Step terms s s') :
    ∀ f ∈ s'.flights, f.PaysOnce terms := by
  have moved {i : Nat} {f : Flight} {l : Ledger} {events : List Event} (hf : f.PaysOnce terms) :
      ∀ g ∈ (s.move i f l events).flights, g.PaysOnce terms := by
    intro g hg
    obtain old | rfl := List.mem_or_eq_of_mem_set hg
    · exact h g old
    · exact hf
  cases step with
  | arrive r =>
      intro f hf
      obtain old | new := List.mem_append.mp hf
      · exact h f old
      · rw [List.mem_singleton.mp new]
        intro rest given
        cases given
  | claim now here ok =>
      obtain ⟨o, b, good, -, rfl⟩ := authorize_eq_ok_iff.mp ok
      apply moved
      intro rest given
      cases given
      exact .inl ⟨o, b, good.cheque?_eq, rfl⟩
  | refuse now here error =>
      apply moved
      intro rest given
      cases given
  | @call i r c next answer here =>
      apply moved
      intro rest given
      cases given
      obtain ⟨o, b, -, pays⟩ | ⟨outcome, done⟩ := h _ (List.mem_of_getElem? here) _ rfl
      · cases pays
        exact .inr ⟨_, rfl⟩
      · cases done
  | abort here =>
      apply moved
      intro rest given
      cases given
  | abortRunning here =>
      apply moved
      intro rest given
      cases given
      exact h _ (List.mem_of_getElem? here) _ rfl

/-! Every index that was claimed is sent, waiting or dropped, as many times as it was claimed. -/

def Balanced (s : State) : Prop :=
  ∀ c n, (s.claims c).count n =
    (s.sends c).count n + (s.waiting c).count n + (s.dropped c).count n

theorem count_filterMap_set {fs : List Flight} {i : Nat} {f : Flight} (f' : Flight)
    (g : Flight → Option UInt64) (n : UInt64) (here : fs[i]? = some f) :
    ((fs.set i f').filterMap g).count n + (g f).toList.count n =
      (fs.filterMap g).count n + (g f').toList.count n := by
  induction fs generalizing i with
  | nil => simp at here
  | cons first rest ih =>
      cases i with
      | zero =>
          simp only [List.getElem?_cons_zero, Option.some.injEq] at here
          subst here
          cases hf : g first <;> cases hf' : g f' <;> simp [hf, hf', List.count_cons]
          omega
      | succ i =>
          simp only [List.getElem?_cons_succ] at here
          have tail := ih here
          cases hg : g first with
          | none => simpa [hg] using tail
          | some m =>
              simp only [List.set_cons_succ, List.filterMap_cons, hg, List.count_cons]
              omega

/-- A move keeps the balance if what its events and its flight count for is balanced. -/
theorem Balanced.move {s : State} {i : Nat} {f f' : Flight} {l : Ledger} {events : List Event}
    (h : Balanced s) (here : s.flights[i]? = some f)
    (moved : ∀ c n,
      (events.filterMap (·.claimOn c)).count n + (f.waitsOn c).toList.count n +
          (f.droppedOn c).toList.count n =
        (events.filterMap (·.sendOn c)).count n + (f'.waitsOn c).toList.count n +
          (f'.droppedOn c).toList.count n) :
    Balanced (s.move i f' l events) := by
  intro c n
  have before := h c n
  have local_balance := moved c n
  have waits := count_filterMap_set f' (·.waitsOn c) n here
  have drops := count_filterMap_set f' (·.droppedOn c) n here
  rw [State.claims_move, State.sends_move, List.count_append, List.count_append]
  simp only [State.waiting, State.dropped, State.move] at before ⊢
  omega

theorem Balanced.step {terms : Terms} {s s' : State} (h : Balanced s)
    (paysOnce : ∀ f ∈ s.flights, f.PaysOnce terms) (step : Step terms s s') : Balanced s' := by
  cases step with
  | arrive r =>
      intro c n
      have before := h c n
      simpa [State.claims, State.sends, State.waiting, State.dropped, Flight.waitsOn,
        Flight.droppedOn] using before
  | @claim i r now p l here ok =>
      apply h.move here
      intro c n
      cases hi : PayRequest.indexOn c r <;>
        simp [Event.claimOn, Event.sendOn, Flight.waitsOn, Flight.droppedOn, execute_run, hi]
  | refuse now here error =>
      apply h.move here
      intro c n
      simp [Event.claimOn, Event.sendOn, Flight.waitsOn, Flight.droppedOn]
  | @call i r call next answer here =>
      apply h.move here
      intro c n
      obtain ⟨o, b, -, pays⟩ | ⟨outcome, done⟩ := paysOnce _ (List.mem_of_getElem? here) _ rfl
      · cases pays
        cases hi : PayRequest.indexOn c r <;>
          simp [Event.claimOn, Event.sendOn, Flight.waitsOn, Flight.droppedOn, hi]
      · cases done
  | abort here =>
      apply h.move here
      intro c n
      simp [Flight.waitsOn, Flight.droppedOn]
  | @abortRunning i r rest here =>
      apply h.move here
      intro c n
      cases rest <;> simp [Flight.waitsOn, Flight.droppedOn]

end ChequeTeller.Interleaving
