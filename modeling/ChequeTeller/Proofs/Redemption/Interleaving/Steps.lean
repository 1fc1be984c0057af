import ChequeTeller.Proofs.Redemption.Authorization
import Mathlib.Logic.Relation

/-!
Redemptions in flight together, against one ledger. Each request makes all its checks and its claim
in one step, for nothing in them waits; the call to the node comes in a later step, and in between
other requests may move, overtake it, or its client may give it up. What the node answers is left
open.
-/

namespace ChequeTeller

/-- The order that a request spells and the body of its cheque, if both can be read. -/
def PayRequest.cheque? (r : PayRequest) : Option (Order × Cheque.Body) :=
  match r.parse with
  | .error _ => none
  | .ok o =>
    match Cheque.Body.decode o.frame.body with
    | .error _ => none
    | .ok b => some (o, b)

/-- The index that the cheque of a request has on a channel, if it is of that channel. -/
def PayRequest.indexOn (c : Channel) (r : PayRequest) : Option UInt64 :=
  r.cheque?.bind fun (o, b) => if o.channel = c then some b.index else none

theorem Good.cheque?_eq {terms : Terms} {now : UInt64} {r : PayRequest} {o : Order}
    {b : Cheque.Body} (good : Good terms now r o b) : r.cheque? = some (o, b) := by
  simp only [PayRequest.cheque?, PayRequest.parse_eq_ok_iff.mpr good.spells, good.body]

theorem Good.indexOn_eq {terms : Terms} {now : UInt64} {r : PayRequest} {o : Order}
    {b : Cheque.Body} (good : Good terms now r o b) (c : Channel) :
    r.indexOn c = if o.channel = c then some b.index else none := by
  simp only [PayRequest.indexOn, good.cheque?_eq, Option.bind_some]

namespace Interleaving

open Lightning

/-- How far a request has come. One that has claimed has a dialogue with the node to go on with;
if it was given up, that is what was left of it. -/
inductive Stage
  | arrived
  | refused (error : TellerError)
  | running (rest : Dialogue (Except TellerError Json))
  | aborted (rest : Option (Dialogue (Except TellerError Json)))

structure Flight where
  request : PayRequest
  stage : Stage

/-- What a request in flight did, the request given by its place and itself. -/
inductive Event
  | claimed (flight : Nat) (request : PayRequest)
  | refused (flight : Nat) (request : PayRequest) (error : TellerError)
  | called (flight : Nat) (request : PayRequest) (call : Call)

structure State where
  ledger : Ledger
  flights : List Flight
  /-- All events so far, the first one in front. -/
  log : List Event

namespace State

def initial : State := ⟨.empty, [], []⟩

/-- One request moves on, to do what the events say. -/
def move (s : State) (i : Nat) (f : Flight) (l : Ledger) (events : List Event) : State :=
  ⟨l, s.flights.set i f, s.log ++ events⟩

end State

/-- What can happen next. Requests arrive at any time, and `now` is the clock when one is looked
at. -/
inductive Step (terms : Terms) : State → State → Prop
  | arrive {s : State} (r : PayRequest) :
      Step terms s { s with flights := s.flights ++ [⟨r, .arrived⟩] }
  | claim {s : State} {i : Nat} {r : PayRequest} (now : UInt64) {p : Payment} {l : Ledger}
      (here : s.flights[i]? = some ⟨r, .arrived⟩)
      (ok : authorize terms now r s.ledger = .ok (p, l)) :
      Step terms s (s.move i ⟨r, .running (execute p).run⟩ l [.claimed i r])
  | refuse {s : State} {i : Nat} {r : PayRequest} (now : UInt64) {e : TellerError}
      (here : s.flights[i]? = some ⟨r, .arrived⟩)
      (error : authorize terms now r s.ledger = .error e) :
      Step terms s (s.move i ⟨r, .refused e⟩ s.ledger [.refused i r e])
  | call {s : State} {i : Nat} {r : PayRequest} {c : Call}
      {next : Except Failure c.Answer → Dialogue (Except TellerError Json)}
      (answer : Except Failure c.Answer)
      (here : s.flights[i]? = some ⟨r, .running (.ask c next)⟩) :
      Step terms s (s.move i ⟨r, .running (next answer)⟩ s.ledger [.called i r c])
  | abort {s : State} {i : Nat} {r : PayRequest} (here : s.flights[i]? = some ⟨r, .arrived⟩) :
      Step terms s (s.move i ⟨r, .aborted none⟩ s.ledger [])
  | abortRunning {s : State} {i : Nat} {r : PayRequest} {rest : Dialogue (Except TellerError Json)}
      (here : s.flights[i]? = some ⟨r, .running rest⟩) :
      Step terms s (s.move i ⟨r, .aborted (some rest)⟩ s.ledger [])

/-- Any number of steps. -/
abbrev Reaches (terms : Terms) : State → State → Prop :=
  Relation.ReflTransGen (Step terms)

/-! The indices of a channel: claimed, sent, waiting to be sent, and given up before that. -/

def Event.claimOn (c : Channel) : Event → Option UInt64
  | claimed _ r => r.indexOn c
  | _ => none

def Event.sendOn (c : Channel) : Event → Option UInt64
  | called _ r (.sendPayment _) => r.indexOn c
  | _ => none

def Flight.waitsOn (c : Channel) (f : Flight) : Option UInt64 :=
  match f.stage with
  | .running (.ask _ _) => f.request.indexOn c
  | _ => none

def Flight.droppedOn (c : Channel) (f : Flight) : Option UInt64 :=
  match f.stage with
  | .aborted (some (.ask _ _)) => f.request.indexOn c
  | _ => none

namespace State

def claims (s : State) (c : Channel) : List UInt64 := s.log.filterMap (·.claimOn c)

def sends (s : State) (c : Channel) : List UInt64 := s.log.filterMap (·.sendOn c)

def waiting (s : State) (c : Channel) : List UInt64 := s.flights.filterMap (·.waitsOn c)

def dropped (s : State) (c : Channel) : List UInt64 := s.flights.filterMap (·.droppedOn c)

variable (s : State) (i : Nat) (f : Flight) (l : Ledger) (events : List Event) (c : Channel)

theorem claims_move :
    (s.move i f l events).claims c = s.claims c ++ events.filterMap (·.claimOn c) := by
  simp only [claims, move, List.filterMap_append]

theorem sends_move :
    (s.move i f l events).sends c = s.sends c ++ events.filterMap (·.sendOn c) := by
  simp only [sends, move, List.filterMap_append]

end State

/-- The call that an event makes. -/
def Event.call? : Event → Option Call
  | called _ _ c => some c
  | claimed _ _ | refused _ _ _ => none

/-- A request that is redeemed in one go takes steps of this kind. -/
theorem reaches_redeem {σ : Type} (terms : Terms) (node : Dialogue.Node σ) (now : UInt64)
    (r : PayRequest) (s : State) (n : σ) :
    let ((_, l), exchanges, _) := Dialogue.run node (redeem terms now r s.ledger) n
    ∃ s', Reaches terms s s' ∧ s'.ledger = l ∧
      s'.log.filterMap (·.call?) = s.log.filterMap (·.call?) ++ exchanges.map (·.call) := by
  let fresh : Flight := ⟨r, .arrived⟩
  have arrived : (s.flights ++ [fresh])[s.flights.length]? = some fresh := by
    simp
  cases authorized : authorize terms now r s.ledger with
  | error e =>
      rw [redeem_of_error authorized]
      refine ⟨_, .tail (.tail .refl (.arrive r)) (.refuse now arrived authorized), rfl, ?_⟩
      simp [State.move, Event.call?]
  | ok grant =>
      obtain ⟨p, l⟩ := grant
      rw [redeem_of_ok authorized]
      let running : Flight := ⟨r, .running (execute p).run⟩
      have claimed :
          ((s.flights ++ [fresh]).set s.flights.length running)[s.flights.length]? =
            some running := by
        simp
      refine ⟨_, .tail (.tail (.tail .refl (.arrive r)) (.claim now arrived authorized))
        (.call (node (.sendPayment p) n).1 claimed), rfl, ?_⟩
      simp [State.move, Event.call?]

end Interleaving

end ChequeTeller
