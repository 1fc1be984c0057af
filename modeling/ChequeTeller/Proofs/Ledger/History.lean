import ChequeTeller.Proofs.Ledger.Claims
import Mathlib.Data.List.Nodup

/-!
Claims one after the other, on any mix of channels. Each is judged by the highest of all indices
that were claimed on its channel before it, those that were refused included, so that no channel
notices the others. The ledger ends with the highest index claimed on each channel, in whatever
order the claims came; which of them were accepted does depend on the order.
-/

namespace ChequeTeller.Ledger

/-- An index that is claimed on a channel. -/
structure Claim where
  channel : Channel
  index : UInt64

/-- A claim's outcome, and the ledger after it. -/
def settle (l : Ledger) (c : Claim) : Except UInt64 Unit × Ledger :=
  match l.claim c.channel c.index with
  | .ok l' => (.ok (), l')
  | .error highest => (.error highest, l)

/-- The outcomes of claims in their order, and the ledger after the last. -/
def settleAll : Ledger → List Claim → List (Except UInt64 Unit) × Ledger
  | l, [] => ([], l)
  | l, c :: cs =>
    let (outcome, l) := l.settle c
    let (outcomes, l) := settleAll l cs
    (outcome :: outcomes, l)

/-- The indices that are claimed on a channel, with whatever outcome. -/
def claimed (cs : List Claim) (channel : Channel) : List UInt64 :=
  (cs.filter (·.channel = channel)).map (·.index)

/-- The outcomes of the claims on one channel. -/
def outcomesOn (channel : Channel) (cs : List Claim) (outcomes : List (Except UInt64 Unit)) :
    List (Except UInt64 Unit) :=
  ((cs.zip outcomes).filter (·.1.channel = channel)).map (·.2)

/-- The outcome of a claim, and the ledger before and after it, are as the indices claimed earlier
on its channel have it. -/
structure Judged (earlier : List UInt64) (before after : Ledger) (c : Claim)
    (outcome : Except UInt64 Unit) : Prop where
  accepted : outcome = .ok () ↔ ∀ m ∈ earlier, m < c.index
  refused : ∀ highest, outcome = .error highest →
    IsHighest earlier (some highest) ∧ after = before

variable {l l' : Ledger} {c : Claim} {cs : List Claim} {channel : Channel}

theorem settle_of_ok (h : l.claim c.channel c.index = .ok l') : l.settle c = (.ok (), l') := by
  simp only [settle, h]

theorem settle_of_error {highest : UInt64} (h : l.claim c.channel c.index = .error highest) :
    l.settle c = (.error highest, l) := by
  simp only [settle, h]

theorem claimed_append_self (cs : List Claim) (c : Claim) :
    claimed (cs ++ [c]) c.channel = claimed cs c.channel ++ [c.index] := by
  simp [claimed, List.filter_append]

theorem claimed_append_of_ne (cs : List Claim) (h : channel ≠ c.channel) :
    claimed (cs ++ [c]) channel = claimed cs channel := by
  simp [claimed, List.filter_append, h.symm]

/-! One claim. -/

theorem IsHighest.append_le {indices : List UInt64} {highest n : UInt64}
    (h : IsHighest indices (some highest)) (below : n ≤ highest) :
    IsHighest (indices ++ [n]) (some highest) := by
  refine ⟨List.mem_append_left _ h.1, ?_⟩
  intro m hm
  obtain old | new := List.mem_append.mp hm
  · exact h.2 m old
  · exact List.mem_singleton.mp new ▸ below

/-- A claim that is refused lies below what the ledger knows, which stays the highest. -/
theorem Records.refused {highest : UInt64} (records : l.Records (claimed cs))
    (h : l.claim c.channel c.index = .error highest) : l.Records (claimed (cs ++ [c])) := by
  obtain ⟨known, below⟩ := claim_eq_error_iff.mp h
  intro channel
  by_cases same : channel = c.channel
  · have here := records c.channel
    rw [known] at here
    rw [same, known, claimed_append_self]
    exact here.append_le below
  · rw [claimed_append_of_ne cs same]
    exact records channel

theorem Records.settle (records : l.Records (claimed cs)) (c : Claim) :
    (l.settle c).2.Records (claimed (cs ++ [c])) := by
  cases h : l.claim c.channel c.index with
  | ok l' =>
      rw [settle_of_ok h]
      exact records.claim h (claimed_append_self cs c) fun d hd => claimed_append_of_ne cs hd
  | error highest =>
      rw [settle_of_error h]
      exact records.refused h

theorem Records.judged (records : l.Records (claimed cs)) (c : Claim) :
    Judged (claimed cs c.channel) l (l.settle c).2 c (l.settle c).1 := by
  have accepts := records.claim_isOk_iff (c := c.channel) (n := c.index)
  cases h : l.claim c.channel c.index with
  | ok l' =>
      rw [settle_of_ok h]
      exact ⟨by simpa [h] using accepts, nofun⟩
  | error highest =>
      have known := records c.channel
      rw [(claim_eq_error_iff.mp h).1] at known
      rw [settle_of_error h]
      refine ⟨by simpa [h] using accepts, ?_⟩
      intro _ given
      cases given
      exact ⟨known, rfl⟩

/-! All claims. -/

theorem settleAll_append (l : Ledger) (cs ds : List Claim) :
    l.settleAll (cs ++ ds) =
      ((l.settleAll cs).1 ++ ((l.settleAll cs).2.settleAll ds).1,
        ((l.settleAll cs).2.settleAll ds).2) := by
  induction cs generalizing l with
  | nil => rfl
  | cons c cs ih => simp only [List.cons_append, settleAll, ih]

theorem length_settleAll (l : Ledger) (cs : List Claim) :
    (l.settleAll cs).1.length = cs.length := by
  induction cs generalizing l with
  | nil => rfl
  | cons c cs ih => simp only [settleAll, List.length_cons, ih]

theorem Records.settleAll (records : l.Records (claimed cs)) (ds : List Claim) :
    (l.settleAll ds).2.Records (claimed (cs ++ ds)) := by
  induction ds generalizing l cs with
  | nil => simpa [Ledger.settleAll] using records
  | cons d ds ih => simpa [Ledger.settleAll] using ih (records.settle d)

theorem records_settleAll (cs : List Claim) : (empty.settleAll cs).2.Records (claimed cs) := by
  have start : empty.Records (claimed []) := records_empty
  exact start.settleAll cs

/-- Each claim is settled with the ledger that those before it leave. -/
theorem settleAll_getElem? {j : Nat} (l : Ledger) (h : cs[j]? = some c) :
    (l.settleAll cs).1[j]? = some ((l.settleAll (cs.take j)).2.settle c).1 ∧
      (l.settleAll (cs.take (j + 1))).2 = ((l.settleAll (cs.take j)).2.settle c).2 := by
  obtain ⟨hj, rfl⟩ := List.getElem?_eq_some_iff.mp h
  have here : (l.settleAll (cs.take j)).1.length = j := by
    rw [length_settleAll, List.length_take_of_le (Nat.le_of_lt hj)]
  refine ⟨?_, ?_⟩
  · conv_lhs => rw [← List.take_append_drop j cs, settleAll_append, List.drop_eq_getElem_cons hj]
    simp only [Ledger.settleAll]
    rw [List.getElem?_append_right (Nat.le_of_eq here), here, Nat.sub_self,
      List.getElem?_cons_zero]
  · rw [List.take_succ_eq_append_getElem hj, settleAll_append]
    rfl

/-! One channel by itself. -/

theorem settle_congr (same : l.highest? c.channel = l'.highest? c.channel) :
    (l.settle c).1 = (l'.settle c).1 ∧
      (l.settle c).2.highest? c.channel = (l'.settle c).2.highest? c.channel := by
  unfold settle claim
  rw [← same]
  cases known : l.highest? c.channel with
  | none => simp only [highest?_set_self, and_self]
  | some highest =>
      by_cases below : c.index ≤ highest
      · simp only [below, if_true, known, ← same, and_self]
      · simp only [below, if_false, highest?_set_self, and_self]

theorem highest?_settle_of_ne (l : Ledger) (h : channel ≠ c.channel) :
    (l.settle c).2.highest? channel = l.highest? channel := by
  cases claimed : l.claim c.channel c.index with
  | ok l' =>
      rw [settle_of_ok claimed, (claim_eq_ok_iff.mp claimed).2, highest?_set_of_ne l c.index h]
  | error highest => rw [settle_of_error claimed]

/-- What the ledgers know of other channels does not matter. -/
theorem outcomesOn_settleAll (channel : Channel) (cs : List Claim)
    (same : l.highest? channel = l'.highest? channel) :
    outcomesOn channel cs (l.settleAll cs).1 =
      (l'.settleAll (cs.filter (·.channel = channel))).1 := by
  induction cs generalizing l l' with
  | nil => rfl
  | cons c cs ih =>
      by_cases on : c.channel = channel
      · subst on
        obtain ⟨outcome, next⟩ := settle_congr same
        have rest := ih next
        simp only [outcomesOn] at rest
        simp [outcomesOn, settleAll, outcome, rest]
      · have rest := ih ((highest?_settle_of_ne l (Ne.symm on)).trans same)
        simp only [outcomesOn] at rest
        simp [outcomesOn, settleAll, on, rest]

/-! What a ledger holds is settled by what it knows of each channel. -/

/-- No channel is entered twice. -/
def Distinct (l : Ledger) : Prop :=
  (l.entries.map (·.1)).Nodup

theorem distinct_empty : empty.Distinct :=
  List.nodup_nil

theorem Distinct.set (distinct : l.Distinct) (channel : Channel) (n : UInt64) :
    (l.set channel n).Distinct := by
  refine List.nodup_cons.mpr ⟨by simp, ?_⟩
  exact distinct.sublist (List.filter_sublist.map _)

theorem Distinct.settle (distinct : l.Distinct) (c : Claim) : (l.settle c).2.Distinct := by
  cases h : l.claim c.channel c.index with
  | ok l' =>
      rw [settle_of_ok h, (claim_eq_ok_iff.mp h).2]
      exact distinct.set c.channel c.index
  | error highest =>
      rw [settle_of_error h]
      exact distinct

theorem Distinct.settleAll (distinct : l.Distinct) (cs : List Claim) :
    (l.settleAll cs).2.Distinct := by
  induction cs generalizing l with
  | nil => exact distinct
  | cons c cs ih => exact ih (distinct.settle c)

theorem mem_iff_lookup {entries : List (Channel × UInt64)} {n : UInt64}
    (distinct : (entries.map (·.1)).Nodup) :
    (channel, n) ∈ entries ↔ entries.lookup channel = some n := by
  induction entries with
  | nil => simp
  | cons e entries ih =>
      obtain ⟨other, m⟩ := e
      obtain ⟨fresh, distinct⟩ := List.nodup_cons.mp distinct
      by_cases same : channel = other
      · subst same
        have absent : (channel, n) ∉ entries := fun h => fresh (List.mem_map.mpr ⟨_, h, rfl⟩)
        simp [absent, eq_comm]
      · rw [List.lookup_cons, beq_false_of_ne same, ← ih distinct]
        simp [same]

theorem Distinct.perm (distinct : l.Distinct) (distinct' : l'.Distinct)
    (same : ∀ channel, l.highest? channel = l'.highest? channel) :
    l.entries.Perm l'.entries := by
  refine (List.perm_ext_iff_of_nodup distinct.of_map distinct'.of_map).mpr ?_
  intro e
  obtain ⟨channel, n⟩ := e
  rw [mem_iff_lookup distinct, mem_iff_lookup distinct']
  exact Eq.congr_left (same channel)

theorem IsHighest.unique {indices : List UInt64} {highest highest' : Option UInt64}
    (h : IsHighest indices highest) (h' : IsHighest indices highest') : highest = highest' := by
  cases highest with
  | none =>
      obtain rfl : indices = [] := h
      cases highest' with
      | none => rfl
      | some _ => cases h'.1
  | some top =>
      cases highest' with
      | none =>
          obtain rfl : indices = [] := h'
          cases h.1
      | some top' => exact congrArg some (UInt64.le_antisymm (h'.2 top h.1) (h.2 top' h'.1))

theorem IsHighest.congr {indices indices' : List UInt64} {highest : Option UInt64}
    (same : indices.Perm indices') (h : IsHighest indices highest) :
    IsHighest indices' highest := by
  cases highest with
  | none =>
      obtain rfl : indices = [] := h
      exact List.nil_perm.mp same
  | some top => exact ⟨same.mem_iff.mp h.1, fun m hm => h.2 m (same.mem_iff.mpr hm)⟩

theorem highest?_settleAll_of_perm {ds : List Claim} (same : cs.Perm ds) (channel : Channel) :
    (empty.settleAll cs).2.highest? channel = (empty.settleAll ds).2.highest? channel :=
  ((records_settleAll cs channel).congr ((same.filter _).map _)).unique
    (records_settleAll ds channel)

/-- A claim succeeds exactly if it lies above all earlier ones on its channel, whatever became of
them; else it is refused for the highest of those, and nothing changes. Each channel has the
outcomes that it has by itself, and the ledger ends with the highest index claimed on it, so the
order of the claims does not matter to where it ends. -/
theorem settles_by_history (cs : List Claim) :
    (∀ j c, cs[j]? = some c → ∃ outcome, (empty.settleAll cs).1[j]? = some outcome ∧
      Judged (claimed (cs.take j) c.channel) (empty.settleAll (cs.take j)).2
        (empty.settleAll (cs.take (j + 1))).2 c outcome) ∧
    (∀ channel, outcomesOn channel cs (empty.settleAll cs).1 =
      (empty.settleAll (cs.filter (·.channel = channel))).1) ∧
    (∀ channel, IsHighest (claimed cs channel) ((empty.settleAll cs).2.highest? channel)) ∧
    ∀ ds, cs.Perm ds →
      (∀ channel, (empty.settleAll cs).2.highest? channel =
        (empty.settleAll ds).2.highest? channel) ∧
      (empty.settleAll cs).2.entries.Perm (empty.settleAll ds).2.entries := by
  refine ⟨?_, ?_, records_settleAll cs, ?_⟩
  · intro j c h
    obtain ⟨outcome, after⟩ := settleAll_getElem? empty h
    refine ⟨_, outcome, ?_⟩
    rw [after]
    exact (records_settleAll (cs.take j)).judged c
  · intro channel
    exact outcomesOn_settleAll channel cs rfl
  · intro ds same
    have highest := highest?_settleAll_of_perm same
    exact ⟨highest, (distinct_empty.settleAll cs).perm (distinct_empty.settleAll ds) highest⟩

end ChequeTeller.Ledger
