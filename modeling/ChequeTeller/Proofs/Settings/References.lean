import ChequeTeller.Proofs.Text.Split
import ChequeTeller.Settings.Variables
import Mathlib.Data.List.Basic

/-!
What stands for variables in a text. Read from left to right, a text is plain characters and
references, in one way only. Expanding it replaces each reference to a variable that is set and
copies the rest, but for a brace that nothing closes: it too is taken for a reference, to the
variable named by all of the text after it.
-/

namespace ChequeTeller.Settings

/-- A stretch of a text. -/
inductive Piece
  | plain (c : Char)
  /-- A name after a dollar sign. -/
  | bare (name : List Char)
  /-- A name in braces after a dollar sign. -/
  | braced (name : List Char)
  /-- What follows a dollar sign and a brace that nothing closes. -/
  | unclosed (rest : List Char)

namespace Piece

def text : Piece → List Char
  | plain c => [c]
  | bare name => '$' :: name
  | braced name => '$' :: '\x7b' :: (name ++ ['\x7d'])
  | unclosed rest => '$' :: '\x7b' :: rest

/-- The value of the variable that is referred to. -/
def value? (vars : Variables) : Piece → Option String
  | bare name | braced name => if name = [] then none else vars (String.ofList name)
  | plain _ | unclosed _ => none

/-- What a stretch stands for: the value of its variable, or else itself. -/
def meaning (vars : Variables) (p : Piece) : List Char :=
  ((p.value? vars).map String.toList).getD p.text

end Piece

/-- The pieces of a text, found from left to right. A name without braces is as long as can be, and
one in braces ends at the first closing brace. -/
inductive Reads : List Char → List Piece → Prop
  | nil : Reads [] []
  | plain {c : Char} {s : List Char} {ps : List Piece} (other : c ≠ '$') (later : Reads s ps) :
      Reads (c :: s) (.plain c :: ps)
  | lone {s : List Char} {ps : List Piece}
      (ends : ∀ c, s.head? = some c → c ≠ '\x7b' ∧ isNameChar c = false) (later : Reads s ps) :
      Reads ('$' :: s) (.plain '$' :: ps)
  | bare {name s : List Char} {ps : List Piece} (filled : name ≠ [])
      (inside : ∀ c ∈ name, isNameChar c = true)
      (ends : ∀ c, s.head? = some c → isNameChar c = false) (later : Reads s ps) :
      Reads ('$' :: (name ++ s)) (.bare name :: ps)
  | braced {name s : List Char} {ps : List Piece} (inside : '\x7d' ∉ name) (later : Reads s ps) :
      Reads ('$' :: '\x7b' :: (name ++ '\x7d' :: s)) (.braced name :: ps)
  | unclosed {rest : List Char} (never : '\x7d' ∉ rest) :
      Reads ('$' :: '\x7b' :: rest) [.unclosed rest]

/-! Every text has one reading. -/

variable {s : List Char} {ps : List Piece}

theorem Reads.flatMap_text (reads : Reads s ps) : ps.flatMap Piece.text = s := by
  induction reads with
  | nil => rfl
  | plain _ _ ih | lone _ _ ih | bare _ _ _ _ ih | braced _ _ ih =>
      rw [List.flatMap_cons, ih]
      simp [Piece.text]
  | unclosed => simp [Piece.text]

/-- What follows a dollar sign without a brace is the rest of a name, be it empty. -/
theorem reads_dollar {s : List Char} {ps : List Piece} (unbraced : s.head? ≠ some '\x7b')
    (later : Reads (s.dropWhile isNameChar) ps) : ∃ p, Reads ('$' :: s) (p :: ps) := by
  have ends (c : Char) (head : (s.dropWhile isNameChar).head? = some c) : isNameChar c = false := by
    have stop := List.head?_dropWhile_not isNameChar s
    rw [head] at stop
    exact stop
  have whole : s.takeWhile isNameChar ++ s.dropWhile isNameChar = s :=
    List.takeWhile_append_dropWhile
  by_cases filled : s.takeWhile isNameChar = []
  · rw [filled, List.nil_append] at whole
    rw [whole] at later ends
    refine ⟨_, .lone ?_ later⟩
    rintro c head
    refine ⟨?_, ends c head⟩
    rintro rfl
    exact unbraced head
  · have named := Reads.bare filled (List.all_eq_true.mp List.all_takeWhile) ends later
    rw [whole] at named
    exact ⟨_, named⟩

theorem exists_reads (s : List Char) : ∃ ps, Reads s ps := by
  fun_induction expandChars (fun _ => none) s with
  | case1 => exact ⟨_, .nil⟩
  | case2 cs _ after _ _ ih =>
      obtain never | ⟨name, rest, rfl, inside⟩ := Text.eq_or_append_cons_char '\x7d' cs
      · exact ⟨_, .unclosed never⟩
      · have rest_eq : after.getD [] = rest := by
          simp only [after, Text.cut_char_append_cons inside, Option.getD_some]
        rw [rest_eq] at ih
        obtain ⟨ps, later⟩ := ih
        exact ⟨_, .braced inside later⟩
  | case3 cs unbraced _ _ ih =>
      obtain ⟨ps, later⟩ := ih
      have head : cs.head? ≠ some '\x7b' := by
        intro brace
        obtain ⟨tail, same⟩ := List.head?_eq_some_iff.mp brace
        exact unbraced tail same
      obtain ⟨p, reads⟩ := reads_dollar head later
      exact ⟨_, reads⟩
  | case4 c cs _ other ih =>
      obtain ⟨ps, later⟩ := ih
      exact ⟨_, .plain other later⟩

theorem takeWhile_name {name rest : List Char} (inside : ∀ c ∈ name, isNameChar c = true)
    (ends : ∀ c, rest.head? = some c → isNameChar c = false) :
    (name ++ rest).takeWhile isNameChar = name ∧ (name ++ rest).dropWhile isNameChar = rest := by
  rw [List.takeWhile_append_of_pos inside, List.dropWhile_append_of_pos inside]
  cases rest with
  | nil => simp
  | cons c cs => simp [ends c rfl]

/-- What a dollar sign starts. -/
theorem Reads.dollar_cases (reads : Reads ('$' :: s) ps) :
    (∃ name rest later, s = '\x7b' :: (name ++ '\x7d' :: rest) ∧ '\x7d' ∉ name ∧
      Reads rest later ∧ ps = .braced name :: later) ∨
    (∃ rest, s = '\x7b' :: rest ∧ '\x7d' ∉ rest ∧ ps = [.unclosed rest]) ∨
    ∃ later, s.head? ≠ some '\x7b' ∧ Reads (s.dropWhile isNameChar) later ∧
      ps = (if s.takeWhile isNameChar = [] then .plain '$' else .bare (s.takeWhile isNameChar)) ::
        later := by
  cases reads with
  | plain other _ => exact absurd rfl other
  | lone ends later =>
      have stop := @takeWhile_name [] _ nofun fun c head => (ends c head).2
      rw [List.nil_append] at stop
      rw [stop.1, stop.2, if_pos rfl]
      exact .inr (.inr ⟨_, fun brace => (ends _ brace).1 rfl, later, rfl⟩)
  | @bare name rest _ filled inside ends later =>
      have stop := takeWhile_name inside ends
      rw [stop.1, stop.2, if_neg filled]
      refine .inr (.inr ⟨_, ?_, later, rfl⟩)
      obtain ⟨c, cs, rfl⟩ := List.exists_cons_of_ne_nil filled
      intro brace
      have named := inside c List.mem_cons_self
      obtain rfl := Option.some.inj brace
      cases named
  | braced inside later => exact .inl ⟨_, _, _, rfl, inside, later, rfl⟩
  | unclosed never => exact .inr (.inl ⟨_, rfl, never, rfl⟩)

theorem Reads.eq {ps' : List Piece} (reads : Reads s ps) (reads' : Reads s ps') : ps' = ps := by
  induction reads generalizing ps' with
  | nil =>
      cases reads'
      rfl
  | plain other _ ih =>
      cases reads' with
      | plain _ later' => rw [ih later']
      | lone | bare | braced | unclosed => exact absurd rfl other
  | lone ends _ ih =>
      obtain ⟨_, _, _, rfl, -⟩ | ⟨_, rfl, -⟩ | ⟨_, -, later', rfl⟩ := reads'.dollar_cases
      · exact absurd rfl (ends _ rfl).1
      · exact absurd rfl (ends _ rfl).1
      · have stop := @takeWhile_name [] _ nofun fun c head => (ends c head).2
        rw [List.nil_append] at stop
        rw [stop.2] at later'
        rw [stop.1, if_pos rfl, ih later']
  | @bare name rest _ filled inside ends _ ih =>
      have unbraced (tail : List Char) : name ++ rest ≠ '\x7b' :: tail := by
        obtain ⟨c, cs, rfl⟩ := List.exists_cons_of_ne_nil filled
        rintro ⟨⟩
        cases inside _ List.mem_cons_self
      obtain ⟨_, _, _, same, -⟩ | ⟨_, same, -⟩ | ⟨_, -, later', rfl⟩ := reads'.dollar_cases
      · exact absurd same (unbraced _)
      · exact absurd same (unbraced _)
      · have stop := takeWhile_name inside ends
        rw [stop.2] at later'
        rw [stop.1, if_neg filled, ih later']
  | @braced name rest _ inside _ ih =>
      obtain ⟨name', rest', _, same, inside', later', rfl⟩ | ⟨_, same, never, -⟩ | ⟨_, head, -⟩ :=
        reads'.dollar_cases
      · have cuts := congrArg (Text.cut (· = '\x7d')) (List.cons.inj same).2
        rw [Text.cut_char_append_cons inside, Text.cut_char_append_cons inside'] at cuts
        cases cuts
        rw [ih later']
      · obtain rfl := (List.cons.inj same).2
        simp at never
      · exact absurd rfl head
  | unclosed never =>
      obtain ⟨_, _, _, same, -⟩ | ⟨_, same, -, rfl⟩ | ⟨_, head, -⟩ := reads'.dollar_cases
      · obtain rfl := (List.cons.inj same).2
        simp at never
      · rw [(List.cons.inj same).2]
      · exact absurd rfl head

/-! Expanding goes piece by piece. -/

/-- What comes of a stretch when it is expanded. -/
def Piece.expanded (vars : Variables) : Piece → List Char
  | unclosed rest => resolveOr vars rest (unclosed rest).text
  | p => p.meaning vars

variable {vars : Variables}

theorem resolveOr_eq (vars : Variables) (name written : List Char) :
    resolveOr vars name written =
      ((if name = [] then none else vars (String.ofList name)).map String.toList).getD written := by
  rw [resolveOr, valueOf?]
  split
  · next found => rw [found, Option.map_some, Option.getD_some]
  · next unset => rw [unset, Option.map_none, Option.getD_none]

theorem expandChars_cons {c : Char} (other : c ≠ '$') (s : List Char) :
    expandChars vars (c :: s) = c :: expandChars vars s :=
  expandChars.eq_4 vars c s (fun _ dollar => absurd dollar other) other

theorem expandChars_dollar (unbraced : s.head? ≠ some '\x7b') :
    expandChars vars ('$' :: s) =
      resolveOr vars (s.takeWhile isNameChar) ('$' :: s.takeWhile isNameChar) ++
        expandChars vars (s.dropWhile isNameChar) :=
  expandChars.eq_3 vars s fun _ brace => unbraced (brace ▸ rfl)

theorem expandChars_lone (ends : ∀ c, s.head? = some c → c ≠ '\x7b' ∧ isNameChar c = false) :
    expandChars vars ('$' :: s) = '$' :: expandChars vars s := by
  have stop := @takeWhile_name [] _ nofun fun c head => (ends c head).2
  rw [List.nil_append] at stop
  rw [expandChars_dollar fun brace => (ends _ brace).1 rfl, stop.1, stop.2]
  rfl

theorem expandChars_bare {name : List Char} (filled : name ≠ [])
    (inside : ∀ c ∈ name, isNameChar c = true)
    (ends : ∀ c, s.head? = some c → isNameChar c = false) :
    expandChars vars ('$' :: (name ++ s)) =
      (Piece.bare name).expanded vars ++ expandChars vars s := by
  have stop := takeWhile_name inside ends
  have unbraced : (name ++ s).head? ≠ some '\x7b' := by
    obtain ⟨c, cs, rfl⟩ := List.exists_cons_of_ne_nil filled
    rintro ⟨⟩
    cases inside _ List.mem_cons_self
  rw [expandChars_dollar unbraced, stop.1, stop.2, resolveOr_eq]
  rfl

theorem expandChars_braced {name : List Char} (inside : '\x7d' ∉ name) (s : List Char) :
    expandChars vars ('$' :: '\x7b' :: (name ++ '\x7d' :: s)) =
      (Piece.braced name).expanded vars ++ expandChars vars s := by
  rw [expandChars, Text.cut_char_append_cons inside, Option.getD_some, resolveOr_eq]
  rfl

theorem expandChars_unclosed {rest : List Char} (never : '\x7d' ∉ rest) :
    expandChars vars ('$' :: '\x7b' :: rest) = (Piece.unclosed rest).expanded vars := by
  rw [expandChars, Text.cut_char_of_not_mem never]
  simp [Piece.expanded, Piece.text, expandChars]

theorem Reads.expandChars_eq (reads : Reads s ps) :
    expandChars vars s = ps.flatMap (Piece.expanded vars) := by
  induction reads with
  | nil => rw [expandChars, List.flatMap_nil]
  | plain other _ ih => rw [expandChars_cons other, ih]; rfl
  | lone ends _ ih => rw [expandChars_lone ends, ih]; rfl
  | bare filled inside ends _ ih => rw [expandChars_bare filled inside ends, ih]; rfl
  | braced inside _ ih => rw [expandChars_braced inside, ih]; rfl
  | unclosed never => rw [expandChars_unclosed never, List.flatMap_singleton]

namespace Piece

def IsClosed (p : Piece) : Prop :=
  ∀ rest, p ≠ unclosed rest

theorem IsClosed.expanded_eq {p : Piece} (closed : p.IsClosed) (vars : Variables) :
    p.expanded vars = p.meaning vars := by
  cases p with
  | plain | bare | braced => rfl
  | unclosed rest => exact absurd rfl (closed rest)

theorem flatMap_expanded {ps : List Piece} (closed : ∀ p ∈ ps, p.IsClosed) (vars : Variables) :
    ps.flatMap (expanded vars) = ps.flatMap (meaning vars) :=
  List.flatMap_congr fun p mem => (closed p mem).expanded_eq vars

/-- Where no variable is set a stretch stands for itself. -/
theorem expanded_of_unset (unset : ∀ name, vars name = none) (p : Piece) :
    p.expanded vars = p.text := by
  cases p with
  | plain => rfl
  | bare | braced | unclosed => simp [expanded, meaning, value?, resolveOr_eq, unset]

end Piece

/-- Only the last stretch may be unclosed. -/
theorem Reads.closed_or (reads : Reads s ps) :
    (∀ p ∈ ps, p.IsClosed) ∨
      ∃ front rest, ps = front ++ [.unclosed rest] ∧ ∀ p ∈ front, p.IsClosed := by
  have step {p : Piece} {ps : List Piece} (here : p.IsClosed)
      (later : (∀ p ∈ ps, p.IsClosed) ∨
        ∃ front rest, ps = front ++ [.unclosed rest] ∧ ∀ p ∈ front, p.IsClosed) :
      (∀ q ∈ p :: ps, q.IsClosed) ∨
        ∃ front rest, p :: ps = front ++ [.unclosed rest] ∧ ∀ q ∈ front, q.IsClosed := by
    obtain all | ⟨front, rest, rfl, closed⟩ := later
    · exact .inl (List.forall_mem_cons.mpr ⟨here, all⟩)
    · exact .inr ⟨p :: front, rest, rfl, List.forall_mem_cons.mpr ⟨here, closed⟩⟩
  induction reads with
  | nil => exact .inl nofun
  | plain _ _ ih | lone _ _ ih | bare _ _ _ _ ih | braced _ _ ih => exact step nofun ih
  | unclosed => exact .inr ⟨[], _, rfl, nofun⟩

theorem Reads.closed_front {front : List Piece} {rest : List Char}
    (reads : Reads s (front ++ [.unclosed rest])) : ∀ p ∈ front, p.IsClosed := by
  obtain closed | ⟨_, _, same, closed⟩ := reads.closed_or
  · exact fun p mem => closed p (List.mem_append_left _ mem)
  · rw [(List.append_inj' same rfl).1]
    exact closed

theorem Piece.expanded_unclosed_eq_text_iff {rest : List Char} :
    (unclosed rest).expanded vars = (unclosed rest).text ↔
      ∀ value, rest ≠ [] → vars (String.ofList rest) = some value →
        value.toList = (unclosed rest).text := by
  rw [expanded, resolveOr_eq]
  by_cases named : rest = []
  · simp [named]
  · cases set : vars (String.ofList rest) <;> simp [named]

theorem expand_of_unset (unset : ∀ name, vars name = none) (text : String) :
    expand vars text = text := by
  obtain ⟨ps, reads⟩ := exists_reads text.toList
  refine String.toList_inj.mp ?_
  rw [expand, String.toList_ofList, reads.expandChars_eq,
    List.flatMap_congr fun p _ => Piece.expanded_of_unset unset p, reads.flatMap_text]

/-- The references that are found from left to right are replaced by the values of their variables
and all else is copied, unless nothing closes a brace and the text after it names a variable. Such
a text ends in the value of that variable. -/
theorem expand_replaces_references (vars : Variables) (text : String) :
    ∃ ps, (∀ ps', Reads text.toList ps' ↔ ps' = ps) ∧
      ps.flatMap Piece.text = text.toList ∧
      ((expand vars text).toList = ps.flatMap (Piece.meaning vars) ↔
        ∀ rest value, Piece.unclosed rest ∈ ps → rest ≠ [] →
          vars (String.ofList rest) = some value → value.toList = (Piece.unclosed rest).text) ∧
      (∀ front rest value, ps = front ++ [.unclosed rest] → rest ≠ [] →
        vars (String.ofList rest) = some value →
          (expand vars text).toList = front.flatMap (Piece.meaning vars) ++ value.toList) ∧
      ((∀ name, vars name = none) → expand vars text = text) := by
  obtain ⟨ps, reads⟩ := exists_reads text.toList
  have expanded : (expand vars text).toList = ps.flatMap (Piece.expanded vars) := by
    rw [expand, String.toList_ofList, reads.expandChars_eq]
  refine ⟨ps, fun ps' => ⟨reads.eq, fun same => same ▸ reads⟩, reads.flatMap_text, ?_, ?_,
    fun unset => expand_of_unset unset text⟩
  · rw [expanded]
    obtain closed | ⟨front, rest, rfl, closed⟩ := reads.closed_or
    · refine iff_of_true (Piece.flatMap_expanded closed vars) ?_
      intro rest value mem
      exact absurd rfl (closed _ mem rest)
    · have last (r : List Char) : Piece.unclosed r ∈ front ++ [.unclosed rest] ↔ r = rest := by
        have absent : Piece.unclosed r ∉ front := fun mem => closed _ mem r rfl
        simp [absent]
      have copied : (Piece.unclosed rest).meaning vars = (Piece.unclosed rest).text := rfl
      simp only [List.flatMap_append, Piece.flatMap_expanded closed, List.append_cancel_left_eq,
        List.flatMap_singleton, copied, Piece.expanded_unclosed_eq_text_iff, last]
      exact ⟨fun same _ value here => here ▸ same value, fun same value => same rest value rfl⟩
  · rintro front rest value rfl named set
    rw [expanded, List.flatMap_append, Piece.flatMap_expanded reads.closed_front,
      List.flatMap_singleton, Piece.expanded, resolveOr_eq, if_neg named, set]
    rfl

/-- Without its closing brace a reference to a variable that is set is replaced all the same. -/
theorem expand_unclosed_replaced :
    let vars : Variables := fun name => if name = "A" then some "b" else none
    let ps := [Piece.plain 'x', .unclosed ['A']]
    Reads "x$\x7bA".toList ps ∧ (expand vars "x$\x7bA").toList = ['x', 'b'] ∧
      ps.flatMap (Piece.meaning vars) = "x$\x7bA".toList := by
  intro vars ps
  have reads : Reads "x$\x7bA".toList ps := .plain (by decide) (.unclosed (by decide))
  refine ⟨reads, ?_, rfl⟩
  rw [expand, String.toList_ofList, reads.expandChars_eq]
  rfl

end ChequeTeller.Settings
