import ChequeTeller.Ledger

/-!
What claims do to a ledger. A claim succeeds exactly above the channel's highest index, and then
it is the highest itself; no other channel notices. A ledger that keeps the highest of the indices
claimed so far therefore accepts exactly those above all of them. Which claims are made, and by
whom, is left to the users of the ledger.
-/

namespace ChequeTeller.Ledger

theorem highest?_set (l : Ledger) (c d : Channel) (n : UInt64) :
    (l.set c n).highest? d = if d = c then some n else l.highest? d := by
  by_cases h : d = c
  · rw [h, highest?_set_self, if_pos rfl]
  · rw [highest?_set_of_ne l n h, if_neg h]

theorem claim_eq_ok_iff {l l' : Ledger} {c : Channel} {n : UInt64} :
    l.claim c n = .ok l' ↔ (∀ m, l.highest? c = some m → m < n) ∧ l' = l.set c n := by
  unfold claim
  cases h : l.highest? c with
  | none => simp [eq_comm]
  | some m =>
      by_cases hn : n ≤ m
      · simp [hn, UInt64.not_lt.mpr hn]
      · simp [hn, UInt64.not_le.mp hn, eq_comm]

theorem claim_eq_error_iff {l : Ledger} {c : Channel} {n m : UInt64} :
    l.claim c n = .error m ↔ l.highest? c = some m ∧ n ≤ m := by
  unfold claim
  cases h : l.highest? c with
  | none => simp
  | some k =>
      by_cases hn : n ≤ k
      · simp only [hn, if_true, Except.error.injEq, Option.some.injEq]
        exact ⟨fun hk => ⟨hk, hk ▸ hn⟩, fun hk => hk.1⟩
      · simp only [hn, if_false, reduceCtorEq, Option.some.injEq, false_iff, not_and]
        intro given
        obtain rfl := given
        exact hn

/-- The highest of some indices, absent if there are none. -/
def IsHighest (indices : List UInt64) : Option UInt64 → Prop
  | none => indices = []
  | some n => n ∈ indices ∧ ∀ m ∈ indices, m ≤ n

/-- The ledger knows of each channel the highest of the indices claimed on it. -/
def Records (l : Ledger) (claims : Channel → List UInt64) : Prop :=
  ∀ c, IsHighest (claims c) (l.highest? c)

theorem records_empty : empty.Records fun _ => [] :=
  fun _ => rfl

namespace Records

variable {l l' : Ledger} {claims claims' : Channel → List UInt64} {c : Channel} {n : UInt64}

theorem above_iff (records : l.Records claims) :
    (∀ m, l.highest? c = some m → m < n) ↔ ∀ m ∈ claims c, m < n := by
  have highest := records c
  cases h : l.highest? c with
  | none =>
      rw [h] at highest
      change claims c = [] at highest
      simp [highest]
  | some top =>
      rw [h] at highest
      refine ⟨?_, ?_⟩
      · intro above m hm
        exact UInt64.lt_of_le_of_lt (highest.2 m hm) (above top rfl)
      · intro above m given
        cases given
        exact above top highest.1

/-- A claim succeeds exactly above all indices claimed before. -/
theorem claim_isOk_iff (records : l.Records claims) :
    (∃ l', l.claim c n = .ok l') ↔ ∀ m ∈ claims c, m < n := by
  simp only [claim_eq_ok_iff, exists_and_left, exists_eq, and_true]
  exact above_iff records

/-- The claims with one more on its channel are what the ledger knows after it. -/
theorem claim (records : l.Records claims) (claimed : l.claim c n = .ok l')
    (here : claims' c = claims c ++ [n]) (elsewhere : ∀ d, d ≠ c → claims' d = claims d) :
    l'.Records claims' := by
  obtain ⟨above, rfl⟩ := claim_eq_ok_iff.mp claimed
  intro d
  rw [highest?_set]
  by_cases hd : d = c
  · rw [if_pos hd, hd, here]
    refine ⟨by simp, ?_⟩
    intro m hm
    obtain old | new := List.mem_append.mp hm
    · exact UInt64.le_of_lt ((above_iff records).mp above m old)
    · exact UInt64.le_of_eq (List.mem_singleton.mp new)
  · rw [if_neg hd, elsewhere d hd]
    exact records d

end Records

/-- Claims only ever raise the highest index of a channel. -/
theorem highest?_le_of_claim {l l' : Ledger} {c d : Channel} {n m : UInt64}
    (claimed : l.claim c n = .ok l') (h : l.highest? d = some m) :
    ∃ k, l'.highest? d = some k ∧ m ≤ k := by
  obtain ⟨above, rfl⟩ := claim_eq_ok_iff.mp claimed
  rw [highest?_set]
  by_cases hd : d = c
  · rw [if_pos hd]
    exact ⟨n, rfl, UInt64.le_of_lt (above m (hd ▸ h))⟩
  · rw [if_neg hd]
    exact ⟨m, h, UInt64.le_refl m⟩

end ChequeTeller.Ledger
