/-!
Splitting texts at a separator. Joining the pieces with the separator gives the text again.
-/

namespace ChequeTeller.Text

/-- The stretches between separators, empty ones too; always at least one. -/
def split (isSeparator : Char → Bool) : List Char → List (List Char)
  | [] => [[]]
  | c :: cs =>
    match split isSeparator cs with
    | [] => [[c]]
    | piece :: pieces => if isSeparator c then [] :: piece :: pieces else (c :: piece) :: pieces

theorem split_ne_nil (isSeparator : Char → Bool) (s : List Char) : split isSeparator s ≠ [] := by
  cases s with
  | nil => simp [split]
  | cons c cs =>
    unfold split
    split
    · simp
    · split <;> simp

theorem intercalate_split (c : Char) (s : List Char) :
    [c].intercalate (split (· = c) s) = s := by
  induction s with
  | nil => rfl
  | cons d ds ih =>
    unfold split
    split
    · next h => exact absurd h (split_ne_nil _ ds)
    · next piece pieces h =>
      rw [h] at ih
      by_cases hd : d = c
      · simp [hd, List.intercalate, ← ih]
      · cases pieces <;> simp_all [List.intercalate, List.intersperse]

/-- The text before the first separator and, if there is one, the text after it. -/
def cut (isSeparator : Char → Bool) : List Char → List Char × Option (List Char)
  | [] => ([], none)
  | c :: cs =>
    if isSeparator c then ([], some cs)
    else
      let (before, after) := cut isSeparator cs
      (c :: before, after)

/-- The text before the last separator, if there is one, and the text after it. -/
def cutLast (isSeparator : Char → Bool) (s : List Char) : Option (List Char) × List Char :=
  match cut isSeparator s.reverse with
  | (after, none) => (none, after.reverse)
  | (after, some before) => (some before.reverse, after.reverse)

end ChequeTeller.Text
