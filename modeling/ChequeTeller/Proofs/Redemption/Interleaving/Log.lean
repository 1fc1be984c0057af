import ChequeTeller.Proofs.Redemption.Interleaving.Counts

/-!
What the log of interleaved steps tells of each request: none that was refused calls the node, and
who calls it has claimed before and asks for the payment of its own cheque.
-/

namespace ChequeTeller.Interleaving

open Lightning

/-! The log and the flights. -/

def Event.flight : Event → Nat
  | claimed i _ | refused i _ _ | called i _ _ => i

/-- The flight is where the event has left it, or further on. -/
def Event.Fits : Event → Flight → Prop
  | claimed _ r, f | called _ r _, f => f.request = r ∧ f.stage.rest?.isSome
  | refused _ r e, f => f = ⟨r, .refused e⟩

theorem Event.not_fits_arrived (e : Event) (r : PayRequest) : ¬ e.Fits ⟨r, .arrived⟩ := by
  cases e with
  | claimed _ _ | called _ _ _ => exact fun h => Bool.noConfusion h.2
  | refused _ _ _ => exact nofun

/-- What fits a request that has claimed still fits it when it goes on. -/
theorem Event.Fits.go_on {e : Event} {f f' : Flight} (h : e.Fits f)
    (before : f.stage.rest?.isSome) (request : f'.request = f.request)
    (after : f'.stage.rest?.isSome) : e.Fits f' := by
  cases e with
  | claimed _ _ | called _ _ _ => exact ⟨request.trans h.1, after⟩
  | refused _ _ _ =>
      cases h
      cases before

/-- What the log tells: every event fits its flight, every flight with something to go on with has
claimed, and whoever calls the node has claimed before and asks for the payment of its cheque. -/
structure Consistent (terms : Terms) (s : State) : Prop where
  fits : ∀ e ∈ s.log, ∃ f, s.flights[e.flight]? = some f ∧ e.Fits f
  claimed : ∀ i f, s.flights[i]? = some f → f.stage.rest?.isSome → .claimed i f.request ∈ s.log
  ordered : ∀ (k i : Nat) (r : PayRequest) (c : Call), s.log[k]? = some (.called i r c) →
    ∃ j < k, s.log[j]? = some (.claimed i r)
  payments : ∀ i r c, .called i r c ∈ s.log →
    ∃ o b, r.cheque? = some (o, b) ∧ c = .sendPayment (o.payment b.lock terms)

theorem consistent_initial (terms : Terms) : Consistent terms State.initial := by
  constructor <;> simp [State.initial]

variable {terms : Terms} {s : State} {i : Nat} {f f' : Flight} {l : Ledger} {events : List Event}

theorem State.flights_move_self (here : s.flights[i]? = some f) :
    (s.move i f' l events).flights[i]? = some f' :=
  List.getElem?_set_self (List.getElem?_eq_some_iff.mp here).1

theorem State.flights_move_of_ne {j : Nat} (hj : j ≠ i) :
    (s.move i f' l events).flights[j]? = s.flights[j]? :=
  List.getElem?_set_ne hj.symm

theorem State.log_move_of_some {k : Nat} {e : Event} (h : s.log[k]? = some e) :
    (s.move i f' l events).log[k]? = some e := by
  have hlt := (List.getElem?_eq_some_iff.mp h).1
  rw [← h]
  exact List.getElem?_append_left hlt

theorem State.log_move_cases {k : Nat} {e : Event}
    (h : (s.move i f' l events).log[k]? = some e) :
    s.log[k]? = some e ∨ s.log.length ≤ k ∧ e ∈ events := by
  change (s.log ++ events)[k]? = _ at h
  by_cases hlt : k < s.log.length
  · rw [List.getElem?_append_left hlt] at h
    exact .inl h
  · have hle := Nat.le_of_not_lt hlt
    rw [List.getElem?_append_right hle] at h
    exact .inr ⟨hle, List.mem_of_getElem? h⟩

/-- A move keeps the log consistent if it suits the flight that moves and those of its events that
are older, and if a call that it logs has its claim in the log. -/
theorem Consistent.move (h : Consistent terms s) (here : s.flights[i]? = some f)
    (still : ∀ e : Event, e.Fits f → e.Fits f')
    (fits : ∀ e ∈ events, e.flight = i ∧ e.Fits f')
    (claimed : f'.stage.rest?.isSome → f.stage.rest?.isSome ∨ .claimed i f.request ∈ events)
    (calls : ∀ (j : Nat) (r : PayRequest) (c : Call), .called j r c ∈ events →
      f.stage.rest?.isSome ∧ r = f.request ∧
      ∃ o b, r.cheque? = some (o, b) ∧ c = .sendPayment (o.payment b.lock terms))
    (request : f'.request = f.request) :
    Consistent terms (s.move i f' l events) := by
  refine ⟨?_, ?_, ?_, ?_⟩
  · intro e he
    obtain old | new := List.mem_append.mp he
    · obtain ⟨g, hg, he⟩ := h.fits e old
      by_cases hei : e.flight = i
      · rw [hei] at hg ⊢
        obtain rfl : f = g := Option.some.inj (here.symm.trans hg)
        exact ⟨f', State.flights_move_self here, still e he⟩
      · exact ⟨g, (State.flights_move_of_ne hei).trans hg, he⟩
    · obtain ⟨rfl, fit⟩ := fits e new
      exact ⟨f', State.flights_move_self here, fit⟩
  · intro j g hg started
    by_cases hj : j = i
    · subst hj
      obtain rfl : f' = g := Option.some.inj ((State.flights_move_self here).symm.trans hg)
      rw [request]
      obtain before | now := claimed started
      · exact List.mem_append_left _ (h.claimed j f here before)
      · exact List.mem_append_right _ now
    · rw [State.flights_move_of_ne hj] at hg
      exact List.mem_append_left _ (h.claimed j g hg started)
  · intro k j r c hk
    obtain old | ⟨hle, new⟩ := State.log_move_cases hk
    · obtain ⟨m, hm, hc⟩ := h.ordered k j r c old
      exact ⟨m, hm, State.log_move_of_some hc⟩
    · obtain ⟨started, rfl, -⟩ := calls j r c new
      obtain rfl : j = i := (fits _ new).1
      obtain ⟨m, hc⟩ := List.mem_iff_getElem?.mp (h.claimed j f here started)
      have hm := (List.getElem?_eq_some_iff.mp hc).1
      exact ⟨m, by omega, State.log_move_of_some hc⟩
  · intro j r c hc
    obtain old | new := List.mem_append.mp hc
    · exact h.payments j r c old
    · exact (calls j r c new).2.2

theorem Consistent.step {s' : State} (h : Consistent terms s)
    (paysOnce : ∀ f ∈ s.flights, f.PaysOnce terms) (step : Step terms s s') :
    Consistent terms s' := by
  cases step with
  | arrive r =>
      refine ⟨?_, ?_, h.ordered, h.payments⟩
      · intro e he
        obtain ⟨f, hf, fits⟩ := h.fits e he
        have hlt := (List.getElem?_eq_some_iff.mp hf).1
        exact ⟨f, by rw [← hf]; exact List.getElem?_append_left hlt, fits⟩
      · intro i f hf started
        by_cases hlt : i < s.flights.length
        · exact h.claimed i f (by rw [← hf]; exact (List.getElem?_append_left hlt).symm) started
        · have hle := Nat.le_of_not_lt hlt
          change (s.flights ++ [_])[i]? = _ at hf
          rw [List.getElem?_append_right hle] at hf
          rw [List.mem_singleton.mp (List.mem_of_getElem? hf)] at started
          cases started
  | @claim i r now p l here ok =>
      apply h.move here
      · exact fun e fits => absurd fits (e.not_fits_arrived r)
      · simp [Event.flight, Event.Fits, Stage.rest?]
      · simp
      · simp
      · rfl
  | @refuse i r now e here error =>
      apply h.move here
      · exact fun e fits => absurd fits (e.not_fits_arrived r)
      · simp [Event.flight, Event.Fits]
      · simp [Stage.rest?]
      · simp
      · rfl
  | @call i r call next answer here =>
      apply h.move here
      · exact fun e fits => fits.go_on rfl rfl rfl
      · simp [Event.flight, Event.Fits, Stage.rest?]
      · exact fun _ => .inl rfl
      · intro j r' c hc
        simp only [List.mem_singleton, Event.called.injEq] at hc
        obtain ⟨rfl, rfl, rfl⟩ := hc
        refine ⟨rfl, rfl, ?_⟩
        obtain ⟨o, b, hr, pays⟩ | ⟨_, done⟩ := paysOnce _ (List.mem_of_getElem? here) _ rfl
        · cases pays
          exact ⟨o, b, hr, rfl⟩
        · cases done
      · rfl
  | @abort i r here =>
      apply h.move here
      · exact fun e fits => absurd fits (e.not_fits_arrived r)
      · simp
      · simp [Stage.rest?]
      · simp
      · rfl
  | abortRunning here =>
      apply h.move here
      · exact fun e fits => fits.go_on rfl rfl rfl
      · simp
      · exact fun _ => .inl rfl
      · simp
      · rfl

end ChequeTeller.Interleaving
