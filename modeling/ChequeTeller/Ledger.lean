import ChequeTeller.Octets

/-!
The ledger of redeemed cheques: for each channel the highest index that was claimed. A claim must
lie above it; a refused claim changes nothing.
-/

namespace ChequeTeller

structure Channel where
  key : VerificationKey
  tag : Tag
  deriving DecidableEq

structure Ledger where
  entries : List (Channel × UInt64)

namespace Ledger

def empty : Ledger := ⟨[]⟩

def highest? (l : Ledger) (c : Channel) : Option UInt64 :=
  l.entries.lookup c

def set (l : Ledger) (c : Channel) (index : UInt64) : Ledger :=
  ⟨(c, index) :: l.entries.filter (·.1 ≠ c)⟩

theorem highest?_set_self (l : Ledger) (c : Channel) (index : UInt64) :
    (l.set c index).highest? c = some index := by
  simp [highest?, set]

theorem highest?_set_of_ne (l : Ledger) {c d : Channel} (index : UInt64) (h : d ≠ c) :
    (l.set c index).highest? d = l.highest? d := by
  have hdc : (d == c) = false := by simpa using h
  simp only [highest?, set, List.lookup_cons, hdc]
  induction l.entries with
  | nil => rfl
  | cons e es ih =>
    obtain ⟨k, n⟩ := e
    by_cases hk : k = c
    · subst hk
      simpa [List.lookup_cons, hdc] using ih
    · simp only [List.filter_cons, hk, ne_eq, not_false_eq_true, decide_true, ite_true,
        List.lookup_cons, ih]

/-- The ledger after the claim, or the highest index where it stands in the way. -/
def claim (l : Ledger) (c : Channel) (index : UInt64) : Except UInt64 Ledger :=
  match l.highest? c with
  | none => .ok (l.set c index)
  | some highest => if index ≤ highest then .error highest else .ok (l.set c index)

end Ledger

end ChequeTeller
