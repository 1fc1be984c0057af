import ChequeTeller.Json.Reading
import ChequeTeller.Proofs.Steps
import ChequeTeller.Proofs.Text.Decimal

/-!
Words given as integers or as strings that spell them. No value is both, so it does not matter
which of the two is tried first.
-/

namespace ChequeTeller.Json.Document

open Steps Text.Decimal

/-- The value is the integer `n`, or a string that spells it with no sign or one plus sign. -/
inductive Gives (n : UInt64) : Document → Prop
  | integer : Gives n (.number (some (.integer n.toNat)))
  | spelled {s digits : String} {width : Nat} (signed : s = digits ∨ s = "+" ++ digits)
      (some_digit : 0 < width) (spells : Spells digits width n.toNat) : Gives n (.string (some s))

theorem word?_eq_some_iff {j : Json} {n : UInt64} :
    word? j = some n ↔ j = .number (.integer n.toNat) := by
  unfold word?
  split
  · next k =>
      have fits := n.toNat_lt
      rw [Option.ite_none_right_eq_some, Option.some.injEq, Json.number.injEq, Number.integer.injEq]
      refine ⟨?_, ?_⟩
      · rintro ⟨⟨low, high⟩, rfl⟩
        rw [UInt64.toNat_ofNat_of_lt' (show k.toNat < 2 ^ 64 by omega)]
        omega
      · rintro rfl
        exact ⟨by omega, UInt64.ofNat_toNat⟩
  · next other =>
      exact iff_of_false nofun fun integer => other _ integer

theorem spelledWord?_eq_some_iff {j : Json} {n : UInt64} :
    spelledWord? j = some n ↔ ∃ s, j = .string s ∧ word64? s = some n := by
  cases j <;> simp [spelledWord?]

/-- Of two readings that never both succeed, the first that succeeds is either. -/
theorem findSome?_pair_iff {α β : Type} {f g : α → Option β} {a : α} {b : β}
    (one : f a = none ∨ g a = none) :
    [f, g].findSome? (· a) = some b ↔ f a = some b ∨ g a = some b := by
  simp only [List.findSome?_cons, List.findSome?_nil]
  obtain none | none := one
  · rw [none]
    cases g a <;> simp
  · rw [none]
    cases f a <;> simp

theorem findSome?_words_iff {j : Json} {n : UInt64} {readings : List (Json → Option UInt64)}
    (order : readings = [word?, spelledWord?] ∨ readings = [spelledWord?, word?]) :
    readings.findSome? (· j) = some n ↔ word? j = some n ∨ spelledWord? j = some n := by
  have one : word? j = none ∨ spelledWord? j = none := by
    cases j <;> simp [word?, spelledWord?]
  obtain rfl | rfl := order
  · exact findSome?_pair_iff one
  · exact (findSome?_pair_iff one.symm).trans or_comm

theorem asSpelledOrWord_eq : asSpelledOrWord = asWordOrSpelled := by
  funext depth d
  rw [asSpelledOrWord, asWordOrSpelled, asFirst, asFirst]
  refine bind_congr fun j => ?_
  have same : [spelledWord?, word?].findSome? (· j) = [word?, spelledWord?].findSome? (· j) :=
    Option.ext fun _ => (findSome?_words_iff (.inr rfl)).trans (findSome?_words_iff (.inl rfl)).symm
  rw [same]

/-- Neither an array nor an object. -/
def IsScalar : Json → Prop
  | .array _ | .object _ => False
  | _ => True

theorem toJson_eq_ok_iff {depth : Nat} {d : Document} {j : Json} (scalar : IsScalar j) :
    d.toJson depth = .ok j ↔ d = j.toDocument := by
  refine ⟨fun read => ?_, ?_⟩
  · cases d with
    | broken => cases read
    | null | bool b => cases read; rfl
    | number v | string v =>
        cases v with
        | none => cases read
        | some v => cases read; rfl
    | array items closed | object members closed =>
        rw [toJson] at read
        split at read
        · cases read
        · obtain ⟨_, -, rfl⟩ := map_eq_ok_iff.mp read
          exact scalar.elim
  · rintro rfl
    cases j with
    | null | bool b | number n | string s => rfl
    | array items | object members => exact scalar.elim

theorem asFirst_eq_ok_iff {depth : Nat} {d : Document} {n : UInt64}
    {readings : List (Json → Option UInt64)}
    (order : readings = [word?, spelledWord?] ∨ readings = [spelledWord?, word?]) :
    asFirst readings depth d = .ok n ↔ Gives n d := by
  have word : asFirst readings depth d = .ok n ↔
      ∃ j, d.toJson depth = .ok j ∧ readings.findSome? (· j) = some n := by
    rw [asFirst, bind_eq_ok_iff]
    refine exists_congr fun j => and_congr_right fun _ => ?_
    cases readings.findSome? (· j) with
    | none => simp
    | some m => simp [pure_eq_ok_iff]
  simp only [word, findSome?_words_iff order, word?_eq_some_iff, spelledWord?_eq_some_iff]
  refine ⟨?_, ?_⟩
  · rintro ⟨_, read, rfl | ⟨s, rfl, spelled⟩⟩
    · obtain rfl := (toJson_eq_ok_iff (by trivial)).mp read
      exact .integer
    · obtain rfl := (toJson_eq_ok_iff (by trivial)).mp read
      obtain ⟨digits, width, signed, some_digit, spells⟩ := word64?_eq_some_iff.mp spelled
      exact .spelled signed some_digit spells
  · intro gives
    cases gives with
    | integer => exact ⟨_, (toJson_eq_ok_iff (by trivial)).mpr rfl, .inl rfl⟩
    | @spelled s digits width signed some_digit spells =>
        exact ⟨.string s, (toJson_eq_ok_iff (by trivial)).mpr rfl, .inr ⟨s, rfl,
          word64?_eq_some_iff.mpr ⟨digits, width, signed, some_digit, spells⟩⟩⟩

/-- What an optional word is read as: null stands for none. -/
def GivesOption : Option UInt64 → Document → Prop
  | none, d => d = .null
  | some n, d => Gives n d

theorem asOption_asFirst_eq_ok_iff {depth : Nat} {d : Document} {n : Option UInt64}
    {readings : List (Json → Option UInt64)}
    (order : readings = [word?, spelledWord?] ∨ readings = [spelledWord?, word?]) :
    asOption (asFirst readings depth) d = .ok n ↔ GivesOption n d := by
  unfold asOption
  split
  · cases n with
    | none => simp [GivesOption]
    | some n => exact iff_of_false nofun nofun
  · next d other =>
      rw [map_eq_ok_iff]
      simp only [asFirst_eq_ok_iff order]
      cases n with
      | none => simpa [GivesOption] using other
      | some n => simp [GivesOption]

end ChequeTeller.Json.Document
