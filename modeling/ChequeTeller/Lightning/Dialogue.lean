import ChequeTeller.Lightning.Answers
import ChequeTeller.Lightning.Failure
import ChequeTeller.Octets

/-!
Dialogues with a Lightning node. A dialogue says which call comes next and how it goes on with
each possible answer; run against any node it yields its value and every exchange, in order.
-/

namespace ChequeTeller.Lightning

/-- A payment that the node is asked to make. -/
structure Payment where
  destination : NodeId
  paymentHash : Lock
  amountMsat : UInt64
  feeLimitSat : UInt64
  finalCltvDelta : UInt32
  paymentAddr : Option PaymentAddr
  deriving DecidableEq

inductive Call
  | decodeRequest (request : String)
  | queryRoutes (destination : NodeId) (amountMsat : UInt64)
  | nodeInfo
  | sendPayment (payment : Payment)
  deriving DecidableEq

namespace Call

/-- What a successful call answers. A payment's answer is the node's to define. -/
def Answer : Call → Type
  | decodeRequest _ => DecodedRequest
  | queryRoutes _ _ => List Route
  | nodeInfo => NodeInfo
  | sendPayment _ => Json

def action : Call → Action
  | decodeRequest _ => .decodeRequest
  | queryRoutes _ _ => .queryRoutes
  | nodeInfo => .nodeInfo
  | sendPayment _ => .sendPayment

end Call

/-- A call and its outcome. -/
structure Exchange where
  call : Call
  outcome : Except Failure call.Answer

inductive Dialogue (α : Type) : Type
  | done (value : α)
  | ask (call : Call) (next : Except Failure call.Answer → Dialogue α)

namespace Dialogue

variable {α β γ σ : Type}

def bind : Dialogue α → (α → Dialogue β) → Dialogue β
  | done a, f => f a
  | ask call next, f => ask call fun outcome => (next outcome).bind f

instance : Monad Dialogue where
  pure := done
  bind := bind

theorem bind_done (d : Dialogue α) : d.bind done = d := by
  induction d with
  | done _ => rfl
  | ask call next ih => simp only [bind, ih]

theorem bind_assoc (d : Dialogue α) (f : α → Dialogue β) (g : β → Dialogue γ) :
    (d.bind f).bind g = d.bind fun a => (f a).bind g := by
  induction d with
  | done _ => rfl
  | ask call next ih => simp only [bind, ih]

instance : LawfulMonad Dialogue :=
  LawfulMonad.mk' Dialogue bind_done (fun _ _ => rfl) bind_assoc

/-- Makes one call. -/
def call (c : Call) : Dialogue (Except Failure c.Answer) :=
  ask c done

/-- A node that keeps a state between calls. -/
abbrev Node (σ : Type) := (c : Call) → σ → Except Failure c.Answer × σ

/-- The value, the exchanges and the node's last state. -/
def run (node : Node σ) : Dialogue α → σ → α × List Exchange × σ
  | done a, s => (a, [], s)
  | ask c next, s =>
    let (outcome, s) := node c s
    let (a, exchanges, s) := run node (next outcome) s
    (a, ⟨c, outcome⟩ :: exchanges, s)

/-- A dialogue that goes on runs in one go: the exchanges come one after the other. -/
theorem run_bind (node : Node σ) (d : Dialogue α) (f : α → Dialogue β) (s : σ) :
    run node (d.bind f) s =
      let (a, before, s) := run node d s
      let (b, after, s) := run node (f a) s
      (b, before ++ after, s) := by
  induction d generalizing s with
  | done a => simp [bind, run]
  | ask c next ih => simp [bind, run, ih]

end Dialogue

end ChequeTeller.Lightning
