import ChequeTeller.Proofs.Steps
import ChequeTeller.Proofs.Url.Percent
import ChequeTeller.Url.Edit
import Mathlib.Data.List.Basic

/-!
Segments appended to the path of a base. Plain names stand after the base's own path as they are,
and of any other segment there stands what encodes it without its tabs and line breaks, unless dots
are left of it. What is appended to a base that no text is read as is left apart.
-/

namespace ChequeTeller.Url

/-! The path of a base. -/

/-- The segments of the path, without the empty one that a slash at its end makes. -/
def stem (base : Url) : List String :=
  match base.path with
  | .rootless _ => []
  | .rooted segments => if popIfEmpty segments = [""] then [] else popIfEmpty segments

/-- In a file URL the path starts with no empty segment, which would be dropped from it. -/
def FrontStays (isFile : Bool) (segments : List String) : Prop :=
  isFile = true → segments.head? ≠ some ""

section

variable {isFile : Bool} {segments : List String}

theorem FrontStays.append {name : String} (stays : FrontStays isFile segments)
    (filled : name ≠ "") (names : List String) :
    FrontStays isFile (segments ++ name :: names) := by
  intro file
  cases segments with
  | nil => simpa using filled
  | cons _ _ => exact stays file

theorem FrontStays.append_of_ne_nil (stays : FrontStays isFile segments) (filled : segments ≠ [])
    (more : List String) : FrontStays isFile (segments ++ more) := by
  intro file
  rw [List.head?_append_of_ne_nil _ filled]
  exact stays file

theorem dropEmptyFront_of_head?_ne (filled : segments.head? ≠ some "") :
    dropEmptyFront segments = segments := by
  unfold dropEmptyFront
  split
  · exact absurd rfl filled
  · rfl

theorem FrontStays.finish (stays : FrontStays isFile segments) (hostless : Bool) :
    (Walk.finish isFile ⟨segments, hostless⟩).segments = segments := by
  cases isFile with
  | false => rfl
  | true => exact dropEmptyFront_of_head?_ne (stays rfl)

theorem dropEmptyFront_eq_of_head? (empty : (dropEmptyFront segments).head? = some "") :
    dropEmptyFront segments = [""] := by
  fun_induction dropEmptyFront segments with
  | case1 segment rest ih => exact ih empty
  | case2 segments single =>
      obtain ⟨rest, rfl⟩ := List.head?_eq_some_iff.mp empty
      cases rest with
      | nil => rfl
      | cons segment rest => exact absurd rfl (single segment rest)

theorem head?_popIfEmpty (segments : List String) :
    (popIfEmpty segments).head? = segments.head? := by
  unfold popIfEmpty
  split
  · split
    · rfl
    · rename_i long
      rw [List.head?_dropLast, if_pos (by omega)]
  · rfl

end

/-! Bases that are read from a text. -/

open Steps

theorem rooted_of_readFile {s : List Char} {authority : Authority} {path : Path}
    (read : readFile s = .ok (authority, path)) :
    ∃ segments, path = .rooted (dropEmptyFront segments) := by
  have rooted {host : Host} {rest : List Char}
      (made : (pure (fileOf host rest) : Except Fault _) = .ok (authority, path)) :
      ∃ segments, path = .rooted (dropEmptyFront segments) := by
    cases pure_eq_ok_iff.mp made
    exact ⟨_, rfl⟩
  unfold readFile at read
  split at read
  · split at read
    · split at read
      · split at read
        · obtain ⟨_, -, made⟩ := bind_eq_ok_iff.mp read
          exact rooted made
        · exact rooted read
      · exact rooted read
    · exact rooted read
  · exact rooted read

theorem rooted_of_parse_file {text : String} {base : Url} (parsed : Url.parse text = .ok base)
    (file : base.scheme = "file") : ∃ segments, base.path = .rooted (dropEmptyFront segments) := by
  unfold Url.parse at parsed
  split at parsed
  · cases parsed
  · simp only [bind_eq_ok_iff, pure_eq_ok_iff] at parsed
    obtain ⟨⟨authority, path⟩, read, rfl⟩ := parsed
    simp only at file
    rw [readParts, if_pos file] at read
    simp only [bind_eq_ok_iff, pure_eq_ok_iff] at read
    obtain ⟨⟨_, _⟩, read, same⟩ := read
    cases same
    exact rooted_of_readFile read

theorem frontStays_stem_of_parse {text : String} {base : Url} (parsed : Url.parse text = .ok base) :
    FrontStays (base.scheme = "file") base.stem := by
  intro file
  obtain ⟨segments, rooted⟩ := rooted_of_parse_file parsed (of_decide_eq_true file)
  rw [stem, rooted]
  simp only
  split
  · nofun
  · rename_i more
    intro empty
    rw [head?_popIfEmpty] at empty
    rw [dropEmptyFront_eq_of_head? empty] at more
    exact more rfl

/-! Plain names. -/

/-- A name that is written as it is, and that is no dots and no drive letter. -/
def isPlainSegment (special : Bool) (name : String) : Bool :=
  Percent.encode (inSegmentSet special) (dropBreaks name.toList) = name && name ≠ "" &&
    !isDoubleDot name && !isSingleDot name && !isDriveLetter name.toList

theorem encode_of_forall {encoded : Char → Bool} {cs : List Char}
    (kept : ∀ c ∈ cs, encoded c = false) : Percent.encode encoded cs = String.ofList cs := by
  have each : ∀ c ∈ cs, Percent.encodeChar encoded c = [c] := fun c mem => by
    rw [Percent.encodeChar, kept c mem, if_neg Bool.false_ne_true]
  rw [Percent.encode, List.flatMap_congr each, List.flatMap_singleton']

/-- Spelled dots and drive letters are short. -/
theorem isPlainSegment_of_long {special : Bool} {name : String}
    (kept : ∀ c ∈ name.toList, inSegmentSet special c = false ∧ isBreak c = false)
    (long : 6 < name.toList.length) : isPlainSegment special name = true := by
  have short {names : List String} (bound : ∀ s ∈ names, s.toList.length ≤ 6) :
      names.contains name = false := by
    rw [← Bool.not_eq_true, List.contains_iff_mem]
    intro mem
    exact absurd (bound _ mem) (by omega)
  have whole : dropBreaks name.toList = name.toList :=
    List.filter_eq_self.mpr fun c mem => by simp [(kept c mem).2]
  have filled : name ≠ "" := by
    rintro rfl
    exact absurd long (by decide)
  have notDrive : isDriveLetter name.toList = false := by
    unfold isDriveLetter
    split
    · next two =>
      rw [two] at long
      simp at long
    · rfl
  rw [isPlainSegment, whole, encode_of_forall fun c mem => (kept c mem).1, String.ofList_toList,
    isDoubleDot, isSingleDot, short (by decide), short (by decide), notDrive]
  simp [filled]

section

variable {isFile special : Bool} {segments : List String}

theorem appendSegment_plain {name : String} (plain : isPlainSegment special name = true)
    (stays : FrontStays isFile segments) (below : segments ≠ [""]) :
    appendSegment isFile special segments name = segments ++ [name] := by
  simp only [isPlainSegment, Bool.and_eq_true, decide_eq_true_eq, Bool.not_eq_true'] at plain
  obtain ⟨⟨⟨⟨written, filled⟩, notDouble⟩, notSingle⟩, notDrive⟩ := plain
  have notDots : ¬ (name = "." ∨ name = "..") := by
    rintro (rfl | rfl)
    · cases notSingle
    · cases notDouble
  simp only [appendSegment, if_neg notDots, if_neg below, written, Walk.step, notDouble, notSingle,
    notDrive, Bool.false_eq_true, if_false, Bool.and_false]
  exact (stays.append filled []).finish false

theorem foldl_appendSegment_plain {names : List String}
    (plain : ∀ name ∈ names, isPlainSegment special name = true)
    (stays : FrontStays isFile segments) (below : segments ≠ [""]) :
    names.foldl (appendSegment isFile special) segments = segments ++ names := by
  induction names generalizing segments with
  | nil => simp
  | cons name names ih =>
      obtain ⟨here, later⟩ := List.forall_mem_cons.mp plain
      have filled : name ≠ "" := by
        rintro rfl
        simp [isPlainSegment] at here
      have below' : segments ++ [name] ≠ [""] := by
        intro same
        obtain ⟨-, empty⟩ | ⟨-, ⟨⟩⟩ := List.append_eq_singleton_iff.mp same
        exact filled (List.singleton_inj.mp empty)
      rw [List.foldl_cons, appendSegment_plain here stays below,
        ih later (stays.append filled []) below', List.append_assoc, List.singleton_append]

/-- The root's own segment gives way to the first name. -/
theorem appendSegment_of_root {name : String} (plain : isPlainSegment special name = true) :
    appendSegment isFile special [""] name = appendSegment isFile special [] name := by
  have notDots : ¬ (name = "." ∨ name = "..") := by
    rintro (rfl | rfl) <;> simp [isPlainSegment, isSingleDot, isDoubleDot] at plain
  simp only [appendSegment, if_neg notDots, if_true, List.nil_eq, reduceCtorEq, if_false]

end

/-- Plain names stand below the base's own path, and then come the others. -/
theorem appendSegments_plain_append {base : Url} (rooted : base.isBase = true)
    (stays : FrontStays (base.scheme = "file") base.stem) {name : String} {names : List String}
    (plain : ∀ n ∈ name :: names, isPlainSegment base.isSpecial n = true) (others : List String) :
    base.appendSegments (name :: names ++ others) =
      { base with
        path := .rooted (others.foldl (appendSegment (base.scheme = "file") base.isSpecial)
          (base.stem ++ name :: names)) } := by
  unfold isBase at rooted
  unfold appendSegments
  split
  · rename_i rootless
    rw [rootless] at rooted
    cases rooted
  · rename_i segments path
    have stem_eq : base.stem = if popIfEmpty segments = [""] then [] else popIfEmpty segments := by
      rw [stem, path]
    have first : (name :: names).foldl (appendSegment (base.scheme = "file") base.isSpecial)
        (popIfEmpty segments) = base.stem ++ name :: names := by
      split at stem_eq
      · rename_i root
        rw [root, List.foldl_cons, appendSegment_of_root (plain name List.mem_cons_self),
          ← List.foldl_cons]
        rw [stem_eq] at stays ⊢
        exact foldl_appendSegment_plain plain stays (by simp)
      · rename_i below
        rw [stem_eq] at stays ⊢
        exact foldl_appendSegment_plain plain stays below
    simp only [List.foldl_append, first]

/-! Any segment. -/

/-- What appending a segment comes to. -/
inductive Appended
  /-- It is passed over. -/
  | nothing
  /-- The last segment of the path is given up for an empty one. -/
  | back
  /-- These characters become a segment. -/
  | segment (kept : List Char)
  deriving DecidableEq

def appended (segment : String) : Appended :=
  if segment = "." ∨ segment = ".." then .nothing
  else if dropBreaks segment.toList = ['.', '.'] then .back
  else if dropBreaks segment.toList = ['.'] then .segment []
  else .segment (dropBreaks segment.toList)

/-- What then stands in the place of the path's last segment. -/
def Appended.after (special : Bool) (last : String) : Appended → List String
  | nothing => [last]
  | back => [""]
  | segment kept => [last, Percent.encode (inSegmentSet special) kept]

section

variable {isFile special : Bool} {cs : List Char}

theorem inSegmentSet_percent (special : Bool) : inSegmentSet special '%' = true := rfl

theorem isDoubleDot_encode_iff :
    isDoubleDot (Percent.encode (inSegmentSet special) cs) = true ↔ cs = ['.', '.'] := by
  refine ⟨?_, ?_⟩
  · -- Every spelling of two dots decodes to them, and what is encoded decodes to itself.
    intro dots
    have spelled : ∀ s ∈ (["..", "%2e%2e", "%2e%2E", "%2E%2e", "%2E%2E", "%2e.", "%2E.", ".%2e",
        ".%2E"] : List String), Percent.decodeText s = Text.octets ['.', '.'] := by
      decide
    rw [isDoubleDot, List.contains_iff_mem] at dots
    refine Text.octets_injective ?_
    rw [← Percent.decodeText_encode (inSegmentSet_percent special), spelled _ dots]
  · rintro rfl
    cases special <;> rfl

theorem isSingleDot_encode_iff :
    isSingleDot (Percent.encode (inSegmentSet special) cs) = true ↔ cs = ['.'] := by
  refine ⟨?_, ?_⟩
  · intro dot
    have spelled : ∀ s ∈ ([".", "%2e", "%2E"] : List String),
        Percent.decodeText s = Text.octets ['.'] := by
      decide
    rw [isSingleDot, List.contains_iff_mem] at dot
    refine Text.octets_injective ?_
    rw [← Percent.decodeText_encode (inSegmentSet_percent special), spelled _ dot]
  · rintro rfl
    cases special <;> rfl

theorem shorten_append_singleton {last : String} (notDrive : isDriveLetter last.toList = false)
    (before : List String) : shorten (before ++ [last]) = before := by
  simp [shorten, notDrive]

theorem appendSegment_append {before : List String} (stays : FrontStays isFile before)
    (filled : before ≠ []) {last : String} (notDrive : isDriveLetter last.toList = false)
    (special : Bool) (segment : String) :
    appendSegment isFile special (before ++ [last]) segment =
      before ++ (appended segment).after special last := by
  have settled (more : List String) :
      (Walk.finish isFile ⟨before ++ more, false⟩).segments = before ++ more :=
    (stays.append_of_ne_nil filled more).finish false
  have below : before ++ [last] ≠ [""] := by simp [List.append_eq_singleton_iff, filled]
  have notEmpty : before ++ [last] ≠ [] := by simp
  rw [appendSegment, appended, if_neg below]
  split
  · rfl
  simp only
  generalize dropBreaks segment.toList = kept
  -- What is left of the segment is walked along again, so dots among it still count.
  by_cases double : kept = ['.', '.']
  · simp only [Walk.step, isDoubleDot_encode_iff.mpr double, if_true, if_pos double,
      shorten_append_singleton notDrive]
    exact settled [""]
  by_cases single : kept = ['.']
  · simp only [Walk.step, isDoubleDot_encode_iff, if_neg double, isSingleDot_encode_iff.mpr single,
      if_true, if_pos single, List.append_assoc]
    exact settled [last, ""]
  · simp only [Walk.step, isDoubleDot_encode_iff, if_neg double, isSingleDot_encode_iff,
      if_neg single, notEmpty, decide_false, Bool.and_false, Bool.false_and, Bool.false_eq_true,
      if_false, List.append_assoc]
    exact settled [last, _]

theorem after_injective (special : Bool) {last : String} (filled : last ≠ "") :
    Function.Injective (Appended.after special last) := by
  intro a b same
  cases a <;> cases b <;> simp only [Appended.after, List.cons.injEq, reduceCtorEq, and_true,
    and_false, true_and] at same
  case nothing.nothing | back.back => rfl
  case nothing.back => exact absurd same filled
  case back.nothing => exact absurd same.symm filled
  case segment.segment =>
      rw [Percent.encode_injective (inSegmentSet_percent special) same]

end

/-- Neither one of the dots that are passed over, nor with characters that are dropped. -/
def IsIntact (segment : String) : Prop :=
  segment ≠ "." ∧ segment ≠ ".." ∧ segment.toList.any isBreak = false

instance (segment : String) : Decidable (IsIntact segment) :=
  inferInstanceAs (Decidable (_ ∧ _))

theorem dropBreaks_eq_self_iff {s : List Char} : dropBreaks s = s ↔ s.any isBreak = false := by
  simp [dropBreaks, List.filter_eq_self]

theorem appended_eq_segment_toList_iff {segment : String} :
    appended segment = .segment segment.toList ↔ IsIntact segment := by
  refine ⟨?_, ?_⟩
  · intro kept
    rw [appended] at kept
    split_ifs at kept with dots double single
    · injection kept with empty
      rw [← empty] at single
      cases single
    · injection kept with same
      exact ⟨fun dot => dots (.inl dot), fun dot => dots (.inr dot), dropBreaks_eq_self_iff.mp same⟩
  · rintro ⟨notOne, notTwo, unbroken⟩
    have notSingle : segment.toList ≠ ['.'] := fun same => notOne (String.toList_inj.mp same)
    have notDouble : segment.toList ≠ ['.', '.'] := fun same => notTwo (String.toList_inj.mp same)
    rw [appended, if_neg (not_or.mpr ⟨notOne, notTwo⟩), dropBreaks_eq_self_iff.mpr unbroken,
      if_neg notDouble, if_neg notSingle]

/-- What ends a segment in the text of a URL. -/
def isDelimiter (special : Bool) (c : Char) : Bool :=
  isSlash special c || c = '?' || c = '#'

theorem isDelimiter_eq_false_of_mem_encode {special : Bool} {cs : List Char} {c : Char}
    (mem : c ∈ (Percent.encode (inSegmentSet special) cs).toList) :
    isDelimiter special c = false := by
  have taken (d : Char) (held : inSegmentSet special d = true) (notPercent : d ≠ '%')
      (notDigit : ∀ n < 16, d ≠ Percent.upperDigit n) : c ≠ d := by
    rintro rfl
    exact Percent.not_mem_encode held notPercent notDigit cs mem
  simp only [isDelimiter, isSlash, Bool.or_eq_false_iff, Bool.and_eq_false_imp,
    decide_eq_false_iff_not]
  refine ⟨⟨⟨taken '/' rfl (by decide) (by decide), ?_⟩, taken '?' rfl (by decide) (by decide)⟩,
    taken '#' rfl (by decide) (by decide)⟩
  rintro rfl
  exact taken '\\' rfl (by decide) (by decide)

end ChequeTeller.Url
