import ChequeTeller.Quote

/-!
Which calls a dialogue can make, whatever the node answers. Quoting never asks for a payment. In
what order the calls come is left apart.
-/

namespace ChequeTeller

namespace Lightning.Dialogue

variable {α β σ : Type} {allowed : Call → Prop}

inductive Only (allowed : Call → Prop) : Dialogue α → Prop
  | done (a : α) : Only allowed (.done a)
  | ask {call : Call} {next : Except Failure call.Answer → Dialogue α} (here : allowed call)
      (later : ∀ outcome, Only allowed (next outcome)) : Only allowed (.ask call next)

theorem Only.bind {d : Dialogue α} {f : α → Dialogue β} (hd : Only allowed d)
    (hf : ∀ a, Only allowed (f a)) : Only allowed (d >>= f) := by
  induction hd with
  | done a => exact hf a
  | ask here _ ih => exact .ask here ih

/-- All of the first dialogue's exchanges come before those of the second. -/
theorem run_seq (node : Node σ) (d : Dialogue α) (f : α → Dialogue β) (s : σ) :
    run node (d >>= f) s =
      ((run node (f (run node d s).1) (run node d s).2.2).1,
        (run node d s).2.1 ++ (run node (f (run node d s).1) (run node d s).2.2).2.1,
        (run node (f (run node d s).1) (run node d s).2.2).2.2) :=
  run_bind node d f s

/-- All exchanges of a run are of allowed calls. -/
theorem Only.run {d : Dialogue α} (hd : Only allowed d) (node : Node σ) (s : σ) :
    ∀ e ∈ (d.run node s).2.1, allowed e.call := by
  induction hd generalizing s with
  | done a => simp [Dialogue.run]
  | @ask call next here _ ih =>
      intro e he
      obtain rfl | he := List.mem_cons.mp he
      · exact here
      · exact ih _ _ e he

end Lightning.Dialogue

open Lightning Dialogue

namespace Dealing

variable {α β : Type} {allowed : Call → Prop}

theorem only_bind {x : Dealing α} {f : α → Dealing β} (hx : Only allowed x.run)
    (hf : ∀ a, Only allowed (f a).run) : Only allowed (x >>= f).run := by
  refine hx.bind ?_
  intro outcome
  cases outcome with
  | error e => exact .done _
  | ok a => exact hf a

theorem only_ofExcept (r : Except TellerError α) : Only allowed (ofExcept r).run :=
  .done r

theorem only_perform {action : Action} {c : Call} (h : allowed c) :
    Only allowed (perform action c).run :=
  .ask h fun _ => .done _

end Dealing

/-- The calls that move no money. -/
def Lightning.Call.Asks : Call → Prop
  | .sendPayment _ => False
  | _ => True

namespace Quote

open Dealing

theorem only_asks (request : String) (terms : Terms) :
    Only Call.Asks (Quote.request request terms).run := by
  refine only_bind ?_ fun invoice => only_bind ?_ fun estimate => only_bind ?_ fun info => ?_
  · exact only_bind (only_perform trivial) fun _ => only_ofExcept _
  · exact only_bind (.ask trivial fun _ => .done _) fun _ => only_ofExcept _
  · exact only_perform trivial
  · exact only_ofExcept _

end Quote

end ChequeTeller
