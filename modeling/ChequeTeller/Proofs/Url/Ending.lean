import ChequeTeller.Proofs.Steps
import ChequeTeller.Proofs.Text.Split
import ChequeTeller.Url.Parser
import Mathlib.Data.List.Basic

/-!
How the URL of a text ends. It has a query or a fragment if and only if the text holds a question
mark or a number sign, and if a text without them ends in a slash then so does the path. What comes
before the path's end is left apart.
-/

namespace ChequeTeller.Url

open Steps

/-! What is kept of a text. -/

theorem mem_dropWhile {p : Char → Bool} {s : List Char} {c : Char} (kept : p c = false) :
    c ∈ s.dropWhile p ↔ c ∈ s := by
  refine ⟨fun mem => (List.dropWhile_sublist p).subset mem, ?_⟩
  intro mem
  rw [← List.takeWhile_append_dropWhile (p := p) (l := s)] at mem
  obtain dropped | mem := List.mem_append.mp mem
  · have padding := List.all_eq_true.mp List.all_takeWhile c dropped
    rw [kept] at padding
    cases padding
  · exact mem

theorem mem_trim {s : List Char} {c : Char} (visible : 0x20 < c.toNat) :
    c ∈ trim s ↔ c ∈ s := by
  have kept : (decide (c.toNat ≤ 0x20)) = false := by simpa using visible
  rw [trim, List.mem_reverse, mem_dropWhile kept, List.mem_reverse, mem_dropWhile kept]

theorem getLast?_of_suffix {s t : List Char} {c : Char} (suffix : t <:+ s)
    (last : s.getLast? = some c) : t = [] ∨ t.getLast? = some c := by
  obtain ⟨before, rfl⟩ := suffix
  rw [List.getLast?_append] at last
  cases ends : t.getLast? with
  | none => exact .inl (List.getLast?_eq_none_iff.mp ends)
  | some d =>
      rw [ends, Option.some_or] at last
      exact .inr last

theorem getLast?_dropWhile {p : Char → Bool} {s : List Char} {c : Char} (kept : p c = false)
    (last : s.getLast? = some c) : (s.dropWhile p).getLast? = some c := by
  obtain none | ends := getLast?_of_suffix (List.dropWhile_suffix p) last
  · have mem := (mem_dropWhile kept).mpr (List.mem_of_getLast? last)
    rw [none] at mem
    cases mem
  · exact ends

theorem getLast?_trim {s : List Char} {c : Char} (visible : 0x20 < c.toNat)
    (last : s.getLast? = some c) : (trim s).getLast? = some c := by
  have kept : (decide (c.toNat ≤ 0x20)) = false := by simpa using visible
  have front := getLast?_dropWhile (p := fun c => c.toNat ≤ 0x20) kept last
  rw [trim]
  generalize s.dropWhile (fun c => decide (c.toNat ≤ 0x20)) = rest at front ⊢
  obtain ⟨cs, rfl⟩ := List.getLast?_eq_some_iff.mp front
  simp [kept]

theorem getLast?_dropBreaks {s : List Char} {c : Char} (kept : isBreak c = false)
    (last : s.getLast? = some c) : (dropBreaks s).getLast? = some c := by
  obtain ⟨cs, rfl⟩ := List.getLast?_eq_some_iff.mp last
  simp [dropBreaks, kept]

/-! Schemes. -/

/-- A scheme holds none of the characters that start a query or a fragment. -/
theorem cutScheme?_eq_some {s rest : List Char} {scheme : String}
    (cut : cutScheme? s = some (scheme, rest)) :
    ∃ before, s = before ++ ':' :: rest ∧ '?' ∉ before ∧ '#' ∉ before := by
  rw [cutScheme?] at cut
  obtain absent | ⟨before, after, rfl, front⟩ := Text.eq_or_append_cons_char ':' s
  · rw [Text.cut_char_of_not_mem absent] at cut
    dsimp only at cut
    split at cut
    · next none => cases none
    · cases cut
  · rw [Text.cut_char_append_cons front] at cut
    dsimp only at cut
    split at cut
    · next d ds _ kept same =>
      obtain rfl := Option.some.inj same
      split at cut
      · next chars =>
        obtain ⟨letter, others⟩ := chars
        obtain ⟨-, rfl⟩ := Prod.mk.inj (Option.some.inj cut)
        have absent (e : Char) (unbroken : isBreak e = false) (noLetter : e.isAlpha = false)
            (noScheme : isSchemeChar e = false) : e ∉ before := by
          intro mem
          have mem : e ∈ dropBreaks before := List.mem_filter.mpr ⟨mem, by simp [unbroken]⟩
          rw [kept] at mem
          obtain rfl | mem := List.mem_cons.mp mem
          · rw [noLetter] at letter
            cases letter
          · have char := List.all_eq_true.mp others e mem
            rw [noScheme] at char
            cases char
        exact ⟨before, rfl, absent '?' rfl rfl rfl, absent '#' rfl rfl rfl⟩
      · cases cut
    · cases cut

/-! Queries and fragments. -/

theorem parse_eq_ok {text : String} {u : Url} (parsed : Url.parse text = .ok u) :
    ∃ before rest part query fragment, trim text.toList = before ++ ':' :: rest ∧
      '?' ∉ before ∧ '#' ∉ before ∧
      Text.cut (· = '#') rest = (part, fragment) ∧
      readParts u.scheme (Text.cut (· = '?') part).1 (query.isSome || fragment.isSome) =
        .ok (u.authority, u.path) ∧
      (Text.cut (· = '?') part).2 = query ∧
      u.query.isSome = query.isSome ∧ u.fragment.isSome = fragment.isSome := by
  rw [Url.parse] at parsed
  split at parsed
  · cases parsed
  · next scheme rest cut =>
    obtain ⟨before, whole, noQuery, noFragment⟩ := cutScheme?_eq_some cut
    simp only [bind_eq_ok_iff, pure_eq_ok_iff] at parsed
    obtain ⟨⟨authority, path⟩, read, rfl⟩ := parsed
    exact ⟨before, rest, _, _, _, whole, noQuery, noFragment, rfl, read, rfl, by simp, by simp⟩

theorem no_query_no_fragment_iff {text : String} {u : Url} (parsed : Url.parse text = .ok u) :
    u.query = none ∧ u.fragment = none ↔ '?' ∉ text.toList ∧ '#' ∉ text.toList := by
  obtain ⟨before, rest, part, query, fragment, whole, noQuery, noFragment, cut, -, asked, kept,
    kept'⟩ := parse_eq_ok parsed
  have isNone {x : Option String} {y : Option (List Char)} (same : x.isSome = y.isSome) :
      x = none ↔ ¬ y.isSome = true := by
    rw [← same]
    simp
  have held {c : Char} (visible : 0x20 < c.toNat) (absent : c ∉ before) (other : c ≠ ':') :
      c ∈ text.toList ↔ c ∈ rest := by
    rw [← mem_trim visible, whole]
    simp [absent, other]
  have fragment_iff : fragment.isSome = true ↔ '#' ∈ rest := by
    have cut_iff := @Text.isSome_cut_char_iff rest '#'
    rwa [cut] at cut_iff
  have query_iff : query.isSome = true ↔ '?' ∈ part := by
    rw [← asked, Text.isSome_cut_char_iff]
  rw [isNone kept, isNone kept', query_iff, fragment_iff, held (by decide) noQuery (by decide),
    held (by decide) noFragment (by decide)]
  -- Without a fragment the part before it is all there is.
  refine and_congr_left fun absent => ?_
  rw [Text.cut_char_of_not_mem absent] at cut
  rw [(Prod.mk.inj cut).1]

/-! Paths of texts that end in a slash. -/

/-- Nothing, or a text with a slash at its end. -/
def IsOpen (s : List Char) : Prop :=
  s = [] ∨ s.getLast? = some '/'

theorem IsOpen.of_suffix {s t : List Char} (suffix : t <:+ s) (isOpen : IsOpen s) : IsOpen t := by
  obtain rfl | last := isOpen
  · exact .inl (List.suffix_nil.mp suffix)
  · exact getLast?_of_suffix suffix last

/-- A path with a slash at its end, or none at all. -/
def Path.IsOpen (p : Path) : Prop :=
  p = .rooted [] ∨ ∃ front, p = .rooted (front ++ [""])

theorem segmentsOf_open (special : Bool) {s : List Char} (isOpen : IsOpen s) :
    ∃ pieces, segmentsOf special s = pieces ++ [[]] := by
  obtain rfl | last := isOpen
  · exact ⟨[], rfl⟩
  · obtain ⟨front, rfl⟩ := List.getLast?_eq_some_iff.mp last
    exact ⟨_, Text.split_append_cons (by simp [isSlash]) front []⟩

theorem along_concat_nil (isFile : Bool) (w : Walk) (pieces : List (List Char)) :
    ∃ front hostless, w.along isFile (pieces ++ [[]]) = ⟨front ++ [""], hostless⟩ := by
  induction pieces generalizing w with
  | nil => exact ⟨w.segments, w.hostless, by simp [Walk.along, Walk.stepWritten, cutDrive?,
      Text.cut, dropBreaks, Percent.encode, Walk.step, isDoubleDot, isSingleDot, isDriveLetter]⟩
  | cons piece pieces ih =>
      have later : w.along isFile (piece :: pieces ++ [[]]) =
          (w.stepWritten isFile piece false).along isFile (pieces ++ [[]]) := by
        cases pieces <;> rfl
      rw [later]
      exact ih _

theorem dropEmptyFront_concat (front : List String) :
    ∃ front', dropEmptyFront (front ++ [""]) = front' ++ [""] := by
  induction front with
  | nil => exact ⟨[], rfl⟩
  | cons segment front ih =>
      by_cases empty : segment = ""
      · obtain ⟨front', same⟩ := ih
        refine ⟨front', ?_⟩
        rw [← same, empty]
        cases front <;> rfl
      · exact ⟨segment :: front, by simp [dropEmptyFront, empty]⟩

theorem pathOf_open (special : Bool) {s : List Char} (isOpen : IsOpen s) :
    Path.IsOpen (.rooted (pathOf special s)) := by
  obtain ⟨pieces, split⟩ := segmentsOf_open special isOpen
  obtain ⟨front, _, walk⟩ := along_concat_nil false ⟨[], false⟩ pieces
  refine .inr ⟨front, ?_⟩
  rw [pathOf, split, walk]

theorem fileOf_open (host : Host) {s : List Char} (isOpen : IsOpen s) :
    (fileOf host s).2.IsOpen := by
  obtain ⟨pieces, split⟩ := segmentsOf_open true isOpen
  obtain ⟨front, hostless, walk⟩ := along_concat_nil true ⟨[], false⟩ pieces
  obtain ⟨front', same⟩ := dropEmptyFront_concat front
  refine .inr ⟨front', ?_⟩
  simp only [fileOf, split, walk, Walk.finish, if_true, same]

section

variable {scheme : String} {s : List Char} {more : Bool} {authority : Authority} {path : Path}

theorem rest_of_readPort_nil {port : Option UInt16} {rest : List Char}
    (read : readPort scheme [] = .ok (port, rest)) : rest = [] := by
  simp only [readPort, List.takeWhile_nil, List.dropWhile_nil] at read
  split at read
  · next none => exact (Prod.mk.inj (Except.ok.inj read)).2.symm
  · next some => cases some
  · cases read

theorem rest_of_readAuthority_nil {rest : List Char}
    (read : readAuthority scheme [] more = .ok (authority, rest)) : rest = [] := by
  have last : Text.cutLast (· = '@') [] = (none, []) := rfl
  have bare : cutPort false [] = ([], none) := rfl
  simp only [readAuthority, last, readHostAndPort, bare, Option.getD_none] at read
  cases special : isSpecialScheme scheme with
  | true =>
      rw [if_pos ⟨trivial, .inl special⟩] at read
      cases read
  | false =>
      simp only [special, Bool.false_eq_true, Option.isSome_none, or_self, and_false, if_false,
        bind_eq_ok_iff, pure_eq_ok_iff] at read
      obtain ⟨_, -, ⟨_, _⟩, port, same⟩ := read
      rw [← (Prod.mk.inj same).2]
      exact rest_of_readPort_nil port

theorem readHierarchy_open (isOpen : IsOpen s)
    (read : readHierarchy scheme s more = .ok (authority, path)) : path.IsOpen := by
  simp only [readHierarchy, bind_eq_ok_iff] at read
  obtain ⟨⟨authority', rest⟩, first, read⟩ := read
  have whole : IsOpen (rest ++ s.dropWhile (!isSlash (isSpecialScheme scheme) ·)) := by
    obtain rfl | last := isOpen
    · exact .inl (by simpa using rest_of_readAuthority_nil first)
    · refine .inr ?_
      rw [List.getLast?_append, getLast?_dropWhile (by simp [isSlash]) last, Option.some_or]
  generalize rest ++ s.dropWhile (!isSlash (isSpecialScheme scheme) ·) = text at whole read
  split at read
  · obtain ⟨-, rfl⟩ := Prod.mk.inj (pure_eq_ok_iff.mp read)
    split
    · exact .inr ⟨[], rfl⟩
    · exact .inl rfl
  · obtain ⟨-, rfl⟩ := Prod.mk.inj (pure_eq_ok_iff.mp read)
    split
    · exact pathOf_open _ (whole.of_suffix (List.suffix_cons _ _))
    · exact pathOf_open _ whole

theorem readFileHost_open {host : Host} {rest : List Char} (isOpen : IsOpen s)
    (read : readFileHost s = .ok (host, rest)) : IsOpen rest := by
  rw [readFileHost] at read
  split at read
  · obtain ⟨-, rfl⟩ := Prod.mk.inj (pure_eq_ok_iff.mp read)
    exact isOpen
  · obtain ⟨host', -, read⟩ := bind_eq_ok_iff.mp read
    refine isOpen.of_suffix ?_
    split at read <;> obtain ⟨-, rfl⟩ := Prod.mk.inj (pure_eq_ok_iff.mp read) <;>
      exact List.dropWhile_suffix _

theorem readFile_open (isOpen : IsOpen s) (read : readFile s = .ok (authority, path)) :
    path.IsOpen := by
  have made {host : Host} {rest : List Char} (left : IsOpen rest)
      (made : (pure (fileOf host rest) : Except Fault _) = .ok (authority, path)) :
      path.IsOpen := by
    have ends := fileOf_open host left
    rwa [pure_eq_ok_iff.mp made] at ends
  unfold readFile at read
  split at read
  · next c cs kept =>
    have isOpen' : IsOpen cs := isOpen.of_suffix
      ((List.suffix_cons c cs).trans (kept ▸ List.dropWhile_suffix _))
    split at read
    · split at read
      · next d ds kept' =>
        split at read
        · obtain ⟨⟨host, rest⟩, readHost, read⟩ := bind_eq_ok_iff.mp read
          have left := readFileHost_open (isOpen'.of_suffix
            ((List.suffix_cons d ds).trans (kept' ▸ List.dropWhile_suffix _))) readHost
          refine made ?_ read
          split
          · exact left
          · exact left.of_suffix (List.drop_suffix 1 rest)
        · exact made isOpen' read
      · exact made (.inl rfl) read
    · exact made isOpen read
  · exact made (.inl rfl) read

theorem readParts_open {authority : Option Authority} (last : s.getLast? = some '/')
    (read : readParts scheme s more = .ok (authority, path)) (rooted : ∀ t, path ≠ .rootless t) :
    path.IsOpen := by
  have last' := getLast?_dropBreaks rfl last
  rw [readParts] at read
  split at read
  · simp only [bind_eq_ok_iff, pure_eq_ok_iff] at read
    obtain ⟨⟨_, _⟩, read, same⟩ := read
    cases same
    exact readFile_open (.inr last) read
  split at read
  · simp only [bind_eq_ok_iff, pure_eq_ok_iff] at read
    obtain ⟨⟨_, _⟩, read, same⟩ := read
    cases same
    exact readHierarchy_open (.of_suffix (List.dropWhile_suffix _) (.inr last')) read
  generalize dropBreaks s = kept at last' read
  split at read
  · next rest =>
    simp only [bind_eq_ok_iff, pure_eq_ok_iff] at read
    obtain ⟨⟨_, _⟩, read, same⟩ := read
    cases same
    exact readHierarchy_open
      (.of_suffix ((List.suffix_cons _ _).trans (List.suffix_cons _ _)) (.inr last')) read
  · next rest _ =>
    obtain ⟨-, rfl⟩ := Prod.mk.inj (pure_eq_ok_iff.mp read)
    exact pathOf_open _ (.of_suffix (List.suffix_cons _ _) (.inr last'))
  · obtain ⟨-, rfl⟩ := Prod.mk.inj (pure_eq_ok_iff.mp read)
    exact absurd rfl (rooted _)

end

/-- If a text without query and fragment ends in a slash, so does the path, if it has segments. -/
theorem path_open_of_parse {text : String} {u : Url} (parsed : Url.parse text = .ok u)
    (last : text.toList.getLast? = some '/') (noQuery : '?' ∉ text.toList)
    (noFragment : '#' ∉ text.toList) (rooted : u.isBase = true) : u.path.IsOpen := by
  obtain ⟨before, rest, part, query, fragment, whole, -, -, cut, read, -⟩ := parse_eq_ok parsed
  have absent {c : Char} (visible : 0x20 < c.toNat) (absent : c ∉ text.toList) : c ∉ rest := by
    intro mem
    refine absent ((mem_trim visible).mp ?_)
    rw [whole]
    exact List.mem_append_right _ (List.mem_cons_of_mem _ mem)
  rw [Text.cut_char_of_not_mem (absent (by decide) noFragment)] at cut
  obtain ⟨rfl, -⟩ := Prod.mk.inj cut
  rw [Text.cut_char_of_not_mem (absent (by decide) noQuery)] at read
  refine readParts_open ?_ read ?_
  · have ends := getLast?_trim (by decide) last
    rw [whole] at ends
    rw [List.getLast?_append, List.getLast?_cons, Option.some_or, Option.some.injEq] at ends
    cases kept : rest.getLast? with
    | none =>
        rw [kept] at ends
        cases ends
    | some c =>
        rw [kept] at ends
        exact congrArg some ends
  · intro t rootless
    rw [isBase, rootless] at rooted
    cases rooted

end ChequeTeller.Url
