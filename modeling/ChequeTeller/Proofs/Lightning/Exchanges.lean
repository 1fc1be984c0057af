import ChequeTeller.Dealing

/-!
How dialogues can go. A dialogue yields a value by a list of exchanges if its calls come in this
order and it goes on with these outcomes; whose outcomes they are is left to the node. A run is
both together: what the dialogue yields, by exchanges that are the node's answers.
-/

namespace ChequeTeller

namespace Lightning

namespace Dialogue

variable {α β σ : Type}

/-- Whatever node gives these outcomes to the dialogue's calls, this is what comes of it. -/
inductive Yields : Dialogue α → α → List Exchange → Prop
  | done (a : α) : Yields (.done a) a []
  | ask {call : Call} {next : Except Failure call.Answer → Dialogue α} {a : α}
      {rest : List Exchange} (outcome : Except Failure call.Answer)
      (later : Yields (next outcome) a rest) : Yields (.ask call next) a (⟨call, outcome⟩ :: rest)

/-- The node answers these calls with these outcomes, and its state goes from the first to the
last. -/
inductive Node.Answers (node : Node σ) : σ → List Exchange → σ → Prop
  | nil (s : σ) : Answers node s [] s
  | cons {s s' : σ} {rest : List Exchange} (call : Call)
      (later : Answers node (node call s).2 rest s') :
      Answers node s (⟨call, (node call s).1⟩ :: rest) s'

theorem yields_run (d : Dialogue α) (node : Node σ) (s : σ) :
    d.Yields (d.run node s).1 (d.run node s).2.1 := by
  induction d generalizing s with
  | done a => exact .done a
  | ask call next ih => exact .ask _ (ih _ _)

theorem answers_run (d : Dialogue α) (node : Node σ) (s : σ) :
    node.Answers s (d.run node s).2.1 (d.run node s).2.2 := by
  induction d generalizing s with
  | done a => exact .nil s
  | ask call next ih => exact .cons call (ih _ _)

theorem run_eq_iff {d : Dialogue α} {node : Node σ} {s s' : σ} {a : α}
    {exchanges : List Exchange} :
    d.run node s = (a, exchanges, s') ↔
      d.Yields a exchanges ∧ node.Answers s exchanges s' := by
  refine ⟨?_, ?_⟩
  · intro ran
    have yields := d.yields_run node s
    have answers := d.answers_run node s
    rw [ran] at yields answers
    exact ⟨yields, answers⟩
  · intro given
    obtain ⟨yields, answers⟩ := given
    -- Both relations go along the same exchanges, one call at a time.
    induction yields generalizing s with
    | done a =>
        cases answers
        rfl
    | ask outcome _ ih =>
        cases answers with
        | cons call answers => simp only [run, ih answers]

theorem yields_bind_iff {d : Dialogue α} {f : α → Dialogue β} {b : β}
    {exchanges : List Exchange} :
    (d >>= f).Yields b exchanges ↔
      ∃ a before after, d.Yields a before ∧ (f a).Yields b after ∧
        exchanges = before ++ after := by
  refine ⟨?_, ?_⟩
  · intro given
    induction d generalizing exchanges with
    | done a => exact ⟨a, [], exchanges, .done a, given, rfl⟩
    | ask call next ih =>
        cases given with
        | ask outcome later =>
            obtain ⟨a, before, after, first, second, rfl⟩ := ih outcome later
            exact ⟨a, _, after, .ask outcome first, second, rfl⟩
  · intro given
    obtain ⟨a, before, after, first, second, rfl⟩ := given
    induction first with
    | done a => exact second
    | ask outcome _ ih => exact .ask outcome (ih second)

end Dialogue

end Lightning

namespace Dealing

open Lightning

variable {α β : Type} {r : Except TellerError β} {exchanges : List Exchange}

theorem yields_bind_iff {x : Dealing α} {f : α → Dealing β} :
    (x >>= f).run.Yields r exchanges ↔
      (∃ e, x.run.Yields (.error e) exchanges ∧ r = .error e) ∨
      ∃ a before after, x.run.Yields (.ok a) before ∧ (f a).run.Yields r after ∧
        exchanges = before ++ after := by
  rw [ExceptT.run_bind, Dialogue.yields_bind_iff]
  refine ⟨?_, ?_⟩
  · intro given
    obtain ⟨e | a, before, after, first, second, rfl⟩ := given
    · cases second
      rw [List.append_nil]
      exact .inl ⟨e, first, rfl⟩
    · exact .inr ⟨a, before, after, first, second, rfl⟩
  · intro given
    obtain ⟨e, first, rfl⟩ | ⟨a, before, after, first, second, rfl⟩ := given
    · exact ⟨.error e, exchanges, [], first, .done _, (List.append_nil _).symm⟩
    · exact ⟨.ok a, before, after, first, second, rfl⟩

theorem yields_ofExcept_iff {x : Except TellerError β} :
    (ofExcept x).run.Yields r exchanges ↔ r = x ∧ exchanges = [] := by
  refine ⟨?_, ?_⟩
  · intro given
    cases given
    exact ⟨rfl, rfl⟩
  · intro given
    obtain ⟨rfl, rfl⟩ := given
    exact .done _

theorem yields_ask_iff {call : Call} {f : Except Failure call.Answer → Except TellerError β} :
    Dialogue.Yields (.ask call fun outcome => .done (f outcome)) r exchanges ↔
      ∃ outcome, r = f outcome ∧ exchanges = [⟨call, outcome⟩] := by
  refine ⟨?_, ?_⟩
  · intro given
    cases given with
    | ask outcome later =>
        cases later
        exact ⟨outcome, rfl, rfl⟩
  · intro given
    obtain ⟨outcome, rfl, rfl⟩ := given
    exact .ask outcome (.done _)

theorem yields_perform_iff {action : Action} {call : Call} {r : Except TellerError call.Answer} :
    (perform action call).run.Yields r exchanges ↔
      ∃ outcome, r = outcome.mapError (.node action) ∧ exchanges = [⟨call, outcome⟩] :=
  yields_ask_iff

end Dealing

end ChequeTeller
