import ChequeTeller.Proofs.Redemption.Authorization
import ChequeTeller.Quote

/-!
What is kept of a failed call. A call that fails is the last of its dialogue, and what is shown of
its error, a kind and a text, depends on the way in which it failed and on nothing that the failure
holds. The error itself does hold the failure, for the operator to see.
-/

namespace ChequeTeller

namespace Lightning

/-- The ways in which a call can fail. -/
inductive Way
  | transport
  | status
  | decode
  | rejected
  deriving DecidableEq

def Failure.way : Failure → Way
  | transport .. => .transport
  | status .. => .status
  | decode .. => .decode
  | rejected .. => .rejected

namespace Dialogue

variable {α β : Type}

/-- A failed call ends the dialogue, and two that failed in one way end it with values that are the
same as far as `Same` goes. -/
inductive Discreet (Same : α → α → Prop) : Dialogue α → Prop
  | done (a : α) : Discreet Same (.done a)
  | ask {call : Call} {next : Except Failure call.Answer → Dialogue α}
      (stops : ∀ f g : Failure, f.way = g.way →
        ∃ a b, next (.error f) = .done a ∧ next (.error g) = .done b ∧ Same a b)
      (later : ∀ answer, Discreet Same (next (.ok answer))) : Discreet Same (.ask call next)

theorem Discreet.bind {Same : α → α → Prop} {Same' : β → β → Prop} {d : Dialogue α}
    {f : α → Dialogue β} (first : Discreet Same d)
    (stops : ∀ a b, Same a b → ∃ x y, f a = .done x ∧ f b = .done y ∧ Same' x y)
    (later : ∀ a, Discreet Same' (f a)) : Discreet Same' (d >>= f) := by
  induction first with
  | done a => exact later a
  | ask ends _ ih =>
      refine .ask ?_ ih
      intro g h way
      obtain ⟨a, b, left, right, same⟩ := ends g h way
      obtain ⟨x, y, left', right', same'⟩ := stops a b same
      exact ⟨x, y, by rw [left]; exact left', by rw [right]; exact right', same'⟩

theorem Discreet.map {Same : α → α → Prop} {Same' : β → β → Prop} {d : Dialogue α} {f : α → β}
    (first : Discreet Same d) (congr : ∀ a b, Same a b → Same' (f a) (f b)) :
    Discreet Same' (d >>= fun a => pure (f a)) :=
  first.bind (fun a b same => ⟨f a, f b, rfl, rfl, congr a b same⟩) fun _ => .done _

end Dialogue

end Lightning

open Lightning Dialogue

/-! Errors as they are shown. -/

/-- Two refusals of one kind in one text. -/
inductive LookAlike {α : Type} : Except TellerError α → Except TellerError α → Prop
  | refused {d e : TellerError} (kind : d.kind = e.kind) (message : d.message = e.message) :
      LookAlike (.error d) (.error e)

theorem lookAlike_node {α : Type} (action : Action) {f g : Failure} (way : f.way = g.way) :
    LookAlike (.error (.node action f) : Except TellerError α) (.error (.node action g)) := by
  refine .refused ?_ ?_
  · cases f <;> cases g <;> cases way <;> cases action <;> rfl
  · cases f <;> cases g <;> cases way <;> rfl

namespace Dealing

variable {α β : Type}

theorem discreet_bind {x : Dealing α} {f : α → Dealing β} (first : Discreet LookAlike x.run)
    (later : ∀ a, Discreet LookAlike (f a).run) : Discreet LookAlike (x >>= f).run := by
  refine first.bind ?_ ?_
  · intro a b same
    cases same with
    | refused kind message => exact ⟨_, _, rfl, rfl, .refused kind message⟩
  · intro r
    cases r with
    | error e => exact .done _
    | ok a => exact later a

theorem discreet_ofExcept (r : Except TellerError α) : Discreet LookAlike (ofExcept r).run :=
  .done r

theorem discreet_perform (action : Action) (c : Call) :
    Discreet LookAlike (perform action c).run :=
  .ask (fun _ _ way => ⟨_, _, rfl, rfl, lookAlike_node action way⟩) fun _ => .done _

end Dealing

/-! Quotes and redemptions. -/

namespace Quote

open Dealing

/-- A refused route query says no more than that there is no route. -/
theorem discreet_estimate (destination : NodeId) (amount : UInt64) (terms : Terms) :
    Discreet LookAlike (Estimate.request destination amount terms).run := by
  refine .ask ?_ fun _ => .done _
  intro f g way
  cases f <;> cases g <;> cases way
  case status => exact ⟨_, _, rfl, rfl, .refused rfl rfl⟩
  all_goals exact ⟨_, _, rfl, rfl, lookAlike_node .queryRoutes rfl⟩

theorem discreet_request (request : String) (terms : Terms) :
    Discreet LookAlike (Quote.request request terms).run := by
  refine discreet_bind ?_ fun invoice => discreet_bind ?_ fun estimate =>
    discreet_bind ?_ fun info => ?_
  · exact discreet_bind (discreet_perform _ _) fun _ => discreet_ofExcept _
  · exact discreet_estimate _ _ _
  · exact discreet_perform _ _
  · exact discreet_ofExcept _

end Quote

theorem discreet_redeem (terms : Terms) (now : UInt64) (request : PayRequest) (ledger : Ledger) :
    Discreet (fun x y => LookAlike x.1 y.1 ∧ x.2 = y.2) (redeem terms now request ledger) := by
  cases authorized : authorize terms now request ledger with
  | error e =>
      rw [redeem_of_error authorized]
      exact .done _
  | ok grant =>
      rw [redeem_of_ok authorized]
      refine .ask ?_ fun _ => .done _
      intro f g way
      exact ⟨_, _, rfl, rfl, lookAlike_node .sendPayment way, rfl⟩

end ChequeTeller
