import ChequeTeller.Proofs.Redemption.Interleaving.Log
import ChequeTeller.Proofs.Redemption.Payout
import Mathlib.Data.List.Perm.Basic

/-!
No index of a channel is paid twice, in whatever order the steps of requests come: what was claimed
has no repetitions, and what is sent is part of it.
-/

namespace ChequeTeller.Interleaving

open Lightning

structure Invariant (terms : Terms) (s : State) : Prop where
  rising : Rising s
  paysOnce : ∀ f ∈ s.flights, f.PaysOnce terms
  balanced : Balanced s
  consistent : Consistent terms s

theorem invariant_of_reaches {terms : Terms} {s : State} (h : Reaches terms .initial s) :
    Invariant terms s := by
  induction h with
  | refl =>
      refine ⟨rising_initial, ?_, fun c n => rfl, consistent_initial terms⟩
      simp [State.initial]
  | tail _ step ih =>
      exact ⟨ih.rising.step step, paysOnce_step ih.paysOnce step,
        ih.balanced.step ih.paysOnce step, ih.consistent.step ih.paysOnce step⟩

theorem Invariant.perm {terms : Terms} {s : State} (h : Invariant terms s) (c : Channel) :
    (s.claims c).Perm (s.sends c ++ s.waiting c ++ s.dropped c) := by
  rw [List.perm_iff_count]
  intro n
  simp only [List.count_append]
  exact h.balanced c n

theorem Invariant.nodup_sends {terms : Terms} {s : State} (h : Invariant terms s) (c : Channel) :
    (s.sends c).Nodup := by
  have claims : (s.claims c).Nodup :=
    (h.rising.sorted c).imp fun hlt => UInt64.ne_of_lt hlt
  have all := (h.perm c).nodup_iff.mp claims
  rw [List.append_assoc] at all
  exact (List.nodup_append.mp all).1

/-- What holds of the payments of each channel, whatever order the steps took. -/
structure PaysOncePerIndex (terms : Terms) (s : State) : Prop where
  /-- No index of a channel is sent twice. -/
  once : ∀ c, (s.sends c).Nodup
  /-- Who calls the node has claimed before, and asks for the payment of its own cheque. -/
  own : ∀ (k i : Nat) (r : PayRequest) (call : Call), s.log[k]? = some (.called i r call) →
    (∃ j < k, s.log[j]? = some (.claimed i r)) ∧
    ∃ o b, r.cheque? = some (o, b) ∧ call = .sendPayment (o.payment b.lock terms)
  total : ∀ c, (s.claims c).length =
    (s.sends c).length + (s.waiting c).length + (s.dropped c).length
  highest : ∀ c, Ledger.IsHighest (s.claims c) (s.ledger.highest? c)
  monotone : ∀ s', Reaches terms s s' → ∀ c n, s.ledger.highest? c = some n →
    ∃ m, s'.ledger.highest? c = some m ∧ n ≤ m
  refused : ∀ (i : Nat) (r r' : PayRequest) (e : TellerError) (call : Call),
    .refused i r e ∈ s.log → .called i r' call ∉ s.log

theorem paysOncePerIndex_of_reaches {terms : Terms} {s : State}
    (reached : Reaches terms .initial s) : PaysOncePerIndex terms s := by
  have inv := invariant_of_reaches reached
  constructor
  case once => exact inv.nodup_sends
  case own =>
      intro k i r call hk
      exact ⟨inv.consistent.ordered k i r call hk,
        inv.consistent.payments i r call (List.mem_of_getElem? hk)⟩
  case total =>
      intro c
      have lengths := (inv.perm c).length_eq
      rwa [List.length_append, List.length_append] at lengths
  case highest => exact inv.rising.records
  case monotone => exact fun _ h _ _ => highest?_le_of_reaches h
  case refused =>
      intro i r r' e call refused called
      obtain ⟨f, hf, rfl⟩ := inv.consistent.fits _ refused
      obtain ⟨g, hg, fits⟩ := inv.consistent.fits _ called
      change s.flights[i]? = _ at hf hg
      rw [hf, Option.some.injEq] at hg
      subst hg
      cases fits.2

/-- The signed cheque comes twice. The second request is refused between the claim of the first one
and its call to the node. -/
theorem paysOncePerIndex_of_replay :
    let r := signedOrder.toRequest
    let e : TellerError := .replayed 1 1
    let call : Call := .sendPayment (signedOrder.payment signedBody.lock {})
    let s : State :=
      ⟨Ledger.empty.set signedOrder.channel 1, [⟨r, .running (.done (.ok .null))⟩, ⟨r, .refused e⟩],
        [.claimed 0 r, .refused 1 r e, .called 0 r call]⟩
    Reaches {} .initial s ∧ s.claims signedOrder.channel = [1] ∧
      s.sends signedOrder.channel = [1] ∧ PaysOncePerIndex {} s := by
  intro r e call s
  have above : Ledger.empty.claim signedOrder.channel signedBody.index =
      .ok (Ledger.empty.set signedOrder.channel 1) := rfl
  have authorized : authorize {} 1800000000000 r .empty =
      .ok (signedOrder.payment signedBody.lock {}, Ledger.empty.set signedOrder.channel 1) :=
    authorize_eq_ok_iff.mpr ⟨_, _, good_signedOrder, above, rfl⟩
  have replayed : authorize {} 1800000000000 r (Ledger.empty.set signedOrder.channel 1) =
      .error e :=
    authorize_of_replayed good_signedOrder rfl
  have index : r.indexOn signedOrder.channel = some 1 := by
    rw [good_signedOrder.indexOn_eq, if_pos rfl]
    rfl
  let first : Dialogue (Except TellerError Json) :=
    (execute (signedOrder.payment signedBody.lock {})).run
  let claimed : State :=
    ⟨Ledger.empty.set signedOrder.channel 1, [⟨r, .running first⟩, ⟨r, .arrived⟩], [.claimed 0 r]⟩
  let refused : State :=
    ⟨claimed.ledger, [⟨r, .running first⟩, ⟨r, .refused e⟩], [.claimed 0 r, .refused 1 r e]⟩
  have arrive : Reaches {} .initial ⟨.empty, [⟨r, .arrived⟩, ⟨r, .arrived⟩], []⟩ :=
    .tail (.tail .refl (.arrive r)) (.arrive r)
  have claim : Step {} ⟨.empty, [⟨r, .arrived⟩, ⟨r, .arrived⟩], []⟩ claimed :=
    .claim (i := 0) 1800000000000 rfl authorized
  have refuse : Step {} claimed refused := .refuse (i := 1) 1800000000000 rfl replayed
  have send : Step {} refused s :=
    @Step.call {} refused 0 r call (fun answer => .done (answer.mapError (.node .sendPayment)))
      (.ok .null) rfl
  have reached : Reaches {} .initial s := ((arrive.tail claim).tail refuse).tail send
  refine ⟨reached, ?_, ?_, paysOncePerIndex_of_reaches reached⟩
  · simp [State.claims, s, Event.claimOn, index]
  · simp [State.sends, s, Event.sendOn, index, call]

end ChequeTeller.Interleaving
