/-!
Steps that may fail, done one after the other: what it takes for all of them to succeed, where a
failure comes from, and when two of them do alike.
-/

namespace ChequeTeller.Steps

variable {α β ε δ : Type}

theorem bind_eq_ok_iff {x : Except ε α} {f : α → Except ε β} {b : β} :
    (x >>= f) = .ok b ↔ ∃ a, x = .ok a ∧ f a = .ok b := by
  cases x with
  | error e => simp [bind, Except.bind]
  | ok a => simp [bind, Except.bind]

theorem bind_eq_error_iff {x : Except ε α} {f : α → Except ε β} {e : ε} :
    (x >>= f) = .error e ↔ x = .error e ∨ ∃ a, x = .ok a ∧ f a = .error e := by
  cases x with
  | error d => simp [bind, Except.bind]
  | ok a => simp [bind, Except.bind]

@[simp]
theorem mapError_ok (f : ε → δ) (a : α) : (Except.ok a).mapError f = .ok a := rfl

@[simp]
theorem mapError_error (f : ε → δ) (e : ε) :
    (Except.error e : Except ε α).mapError f = .error (f e) := rfl

theorem mapError_eq_ok_iff {f : ε → δ} {x : Except ε α} {a : α} :
    x.mapError f = .ok a ↔ x = .ok a := by
  cases x <;> simp

theorem mapError_eq_error_iff {f : ε → δ} {x : Except ε α} {e : δ} :
    x.mapError f = .error e ↔ ∃ d, x = .error d ∧ f d = e := by
  cases x <;> simp

theorem map_eq_ok_iff {f : α → β} {x : Except ε α} {b : β} :
    x.map f = .ok b ↔ ∃ a, x = .ok a ∧ f a = b := by
  cases x <;> simp [Except.map]

theorem map_eq_error_iff {f : α → β} {x : Except ε α} {e : ε} :
    x.map f = .error e ↔ x = .error e := by
  cases x <;> simp [Except.map]

theorem pure_eq_ok_iff {a b : α} : (pure a : Except ε α) = .ok b ↔ a = b := by
  simp [pure, Except.pure]

/-! Two runs side by side. -/

variable {γ ζ : Type}

/-- Both fail with one error, or both succeed with related values. -/
inductive Alike (R : α → β → Prop) : Except ε α → Except ε β → Prop
  | error (e : ε) : Alike R (.error e) (.error e)
  | ok {a : α} {b : β} (related : R a b) : Alike R (.ok a) (.ok b)

theorem Alike.bind {R : α → β → Prop} {S : γ → ζ → Prop} {x : Except ε α} {y : Except ε β}
    {f : α → Except ε γ} {g : β → Except ε ζ} (first : Alike R x y)
    (later : ∀ a b, R a b → Alike S (f a) (g b)) : Alike S (x >>= f) (y >>= g) := by
  cases first with
  | error e => exact .error e
  | ok related => exact later _ _ related

theorem Alike.bind_same {S : γ → ζ → Prop} (x : Except ε α) {f : α → Except ε γ}
    {g : α → Except ε ζ} (later : ∀ a, Alike S (f a) (g a)) : Alike S (x >>= f) (x >>= g) := by
  cases x with
  | error e => exact .error e
  | ok a => exact later a

theorem Alike.mapError {R : α → β → Prop} {x : Except ε α} {y : Except ε β} (alike : Alike R x y)
    (f : ε → δ) : Alike R (x.mapError f) (y.mapError f) := by
  cases alike with
  | error e => exact .error (f e)
  | ok related => exact .ok related

theorem Alike.eq {x y : Except ε α} (alike : Alike Eq x y) : x = y := by
  cases alike with
  | error e => rfl
  | ok related => rw [related]

end ChequeTeller.Steps
