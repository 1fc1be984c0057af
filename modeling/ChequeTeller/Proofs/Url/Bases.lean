import ChequeTeller.Proofs.Url.Appending
import ChequeTeller.Proofs.Url.Ending
import ChequeTeller.Proofs.Url.Resolution

/-!
The two ways below a base: a relative path starts from the base's path without its last segment,
appended segments from its path without an empty one at the end. If the path ends in a slash the two
are the same, but for a path of two slashes. Segments that are not plain names are left apart.
-/

namespace ChequeTeller.Url

/-! Where a relative path starts from. -/

theorem head?_shorten {segments : List String} {first : String}
    (head : (shorten segments).head? = some first) : segments.head? = some first := by
  unfold shorten at head
  split at head
  · split at head
    · exact head
    · rw [List.head?_dropLast] at head
      split at head
      · exact head
      · cases head
  · cases head

theorem frontStays_parent_of_parse {text : String} {base : Url}
    (parsed : Url.parse text = .ok base) : FrontStays (base.scheme = "file") base.parent := by
  intro file empty
  have file := of_decide_eq_true file
  obtain ⟨segments, rooted⟩ := rooted_of_parse_file parsed file
  simp only [parent, rooted, if_pos file] at empty
  rw [dropEmptyFront_eq_of_head? (head?_shorten empty)] at empty
  cases empty

theorem resolve_of_frontStays {base : Url} {reference : String} {name : List Char}
    {names : List (List Char)} (rooted : base.isBase = true)
    (stays : FrontStays (base.scheme = "file") base.parent)
    (pieces : segmentsOf base.isSpecial reference.toList = ['.'] :: name :: names)
    (plain : ∀ n ∈ name :: names, isPlain n = true) (filled : String.ofList name ≠ "") :
    base.resolve reference =
      { base with
        path := .rooted (base.parent ++ (name :: names).map String.ofList)
        query := none
        fragment := none } := by
  rw [resolve_eq_finish rooted pieces plain, List.map_cons, (stays.append filled _).finish]

/-! Paths that end in a slash. -/

theorem popIfEmpty_concat (front : List String) :
    popIfEmpty (front ++ [""]) = if front = [] then [""] else front := by
  cases front with
  | nil => rfl
  | cons segment front =>
      rw [popIfEmpty, List.getLast?_concat, List.dropLast_concat]
      simp

theorem parent_of_rooted_concat {base : Url} {front : List String}
    (path : base.path = .rooted (front ++ [""])) : base.parent = front := by
  simp only [parent, path]
  split
  · exact shorten_append_singleton rfl front
  · exact List.dropLast_concat

theorem stem_of_rooted_concat {base : Url} {front : List String}
    (path : base.path = .rooted (front ++ [""])) :
    base.stem = if front = [""] then [] else front := by
  simp only [stem, path, popIfEmpty_concat]
  cases front with
  | nil => rfl
  | cons segment front => rfl

section

variable {base : Url} (isOpen : base.path.IsOpen)
include isOpen

theorem parent_eq_stem_iff : base.parent = base.stem ↔ base.path ≠ .rooted ["", ""] := by
  obtain path | ⟨front, path⟩ := isOpen
  · simp [parent, stem, path, shorten, popIfEmpty]
  · rw [parent_of_rooted_concat path, stem_of_rooted_concat path, path]
    split
    · next double => simp [double]
    · next other => simp [List.append_eq_cons_iff, other]

theorem path_eq_of_open (other : base.path ≠ .rooted ["", ""]) :
    base.path = .rooted [] ∨ base.path = .rooted (base.stem ++ [""]) := by
  refine isOpen.imp_right ?_
  rintro ⟨front, path⟩
  rw [stem_of_rooted_concat path, path, if_neg]
  rintro rfl
  exact other path

/-- Segments below the base's own path stand after its text. -/
theorem text_append_of_open (other : base.path ≠ .rooted ["", ""]) (name : String)
    (names : List String) :
    ∃ more, (Path.rooted (base.stem ++ name :: names)).text = base.path.text ++ more := by
  obtain path | path := path_eq_of_open isOpen other
  · rw [path]
    exact ⟨_, (String.empty_append).symm⟩
  · refine ⟨name ++ (Path.rooted names).text, ?_⟩
    rw [path]
    simp [Path.text, String.append_assoc]

end

end ChequeTeller.Url
