import ChequeTeller.Url.Edit
import Mathlib.Data.List.Basic

/-!
Relative paths of plain names, resolved against a base: the names stand at the end of the path as
they are. What the base's path loses before them, and names that have a meaning of their own in
paths, are left apart.
-/

namespace ChequeTeller.Url

/-- Names that are no dots and no drive letters, and in which nothing needs to be encoded. -/
def isPlain (name : List Char) : Bool :=
  Percent.encode inPathSet (dropBreaks name) = String.ofList name && (cutDrive? name).isNone &&
    !isDoubleDot (String.ofList name) && !isSingleDot (String.ofList name) && !isDriveLetter name

theorem stepWritten_plain {name : List Char} (plain : isPlain name = true) (isFile last : Bool)
    (w : Walk) :
    w.stepWritten isFile name last = { w with segments := w.segments ++ [String.ofList name] } := by
  simp only [isPlain, Bool.and_eq_true, decide_eq_true_eq, Option.isNone_iff_eq_none,
    Bool.not_eq_true'] at plain
  obtain ⟨⟨⟨⟨written, uncut⟩, notDouble⟩, notSingle⟩, notDrive⟩ := plain
  simp only [Walk.stepWritten, uncut, ite_self, written, Walk.step, notDouble, notSingle,
    Bool.false_eq_true, if_false, String.toList_ofList, notDrive, Bool.and_false]

theorem stepWritten_dot (isFile : Bool) (w : Walk) : w.stepWritten isFile ['.'] false = w := by
  have written : Percent.encode inPathSet (dropBreaks ['.']) = "." := by rfl
  have uncut : cutDrive? ['.'] = none := by rfl
  simp only [Walk.stepWritten, uncut, ite_self, written, Walk.step]
  simp [isDoubleDot, isSingleDot]

theorem along_cons_cons (isFile : Bool) (w : Walk) (name next : List Char)
    (names : List (List Char)) :
    w.along isFile (name :: next :: names) =
      (w.stepWritten isFile name false).along isFile (next :: names) :=
  rfl

theorem along_plain {names : List (List Char)} (plain : ∀ name ∈ names, isPlain name = true)
    (isFile : Bool) (w : Walk) :
    w.along isFile names = { w with segments := w.segments ++ names.map String.ofList } := by
  induction names generalizing w with
  | nil => simp [Walk.along]
  | cons name names ih =>
      obtain ⟨here, later⟩ := List.forall_mem_cons.mp plain
      cases names with
      | nil => exact stepWritten_plain here isFile true w
      | cons next names =>
          rw [along_cons_cons, stepWritten_plain here, ih later]
          simp

/-- Empty segments go only from the front. -/
theorem dropEmptyFront_append {name : String} (h : name ≠ "") (front names : List String) :
    ∃ front', dropEmptyFront (front ++ name :: names) = front' ++ name :: names := by
  induction front with
  | nil => exact ⟨[], by simp [dropEmptyFront, h]⟩
  | cons segment front ih =>
      by_cases empty : segment = ""
      · subst empty
        obtain ⟨front', same⟩ := ih
        refine ⟨front', ?_⟩
        rw [← same]
        cases front <;> simp [dropEmptyFront]
      · exact ⟨segment :: front, by simp [dropEmptyFront, empty]⟩

theorem finish_append {name : String} (h : name ≠ "") (front names : List String)
    (isFile hostless : Bool) :
    ∃ front', (Walk.finish isFile ⟨front ++ name :: names, hostless⟩).segments =
      front' ++ name :: names := by
  cases isFile with
  | false => exact ⟨front, rfl⟩
  | true => exact dropEmptyFront_append h front names

/-- Where a relative path starts from: the base's path without its last segment, except for the
drive letter of a file. -/
def parent (base : Url) : List String :=
  match base.path with
  | .rootless _ => []
  | .rooted segments => if base.scheme = "file" then shorten segments else segments.dropLast

section

variable {base : Url} {reference : String} {name : List Char} {names : List (List Char)}
  (rooted : base.isBase = true)
  (pieces : segmentsOf base.isSpecial reference.toList = ['.'] :: name :: names)
  (plain : ∀ n ∈ name :: names, isPlain n = true)
include rooted pieces plain

theorem resolve_eq_finish :
    base.resolve reference =
      { base with
        path := .rooted (Walk.finish (base.scheme = "file")
          ⟨base.parent ++ (name :: names).map String.ofList, false⟩).segments
        query := none
        fragment := none } := by
  unfold isBase at rooted
  unfold resolve
  split
  · rename_i rootless
    rw [rootless] at rooted
    cases rooted
  · rename_i path
    have walk (isFile : Bool) (start : List String) :
        Walk.along isFile ⟨start, false⟩ (segmentsOf base.isSpecial reference.toList) =
          ⟨start ++ (name :: names).map String.ofList, false⟩ := by
      rw [pieces, along_cons_cons, stepWritten_dot, along_plain plain]
    simp only [walk, parent, path]

/-- Names after `./` come to stand at the end of the path. -/
theorem resolve_plain (filled : String.ofList name ≠ "") :
    ∃ front, base.resolve reference =
      { base with
        path := .rooted (front ++ (name :: names).map String.ofList)
        query := none
        fragment := none } := by
  obtain ⟨front, same⟩ := finish_append filled base.parent (names.map String.ofList)
    (base.scheme = "file") false
  exact ⟨front, by rw [resolve_eq_finish rooted pieces plain, List.map_cons, same]⟩

end

end ChequeTeller.Url
