import ChequeTeller.Proofs.Settings.Substitution.Strings

/-!
Gaps, keys and words of expanded text. No dollar sign is passed over but in comments, so these are
the same in the expanded text, and as far as they stop before a dollar sign they end where they do
in the text. Keys that hold dollar signs are left apart.
-/

namespace ChequeTeller.Settings

open Toml

variable {vars : Variables} {blocks : Bool} {s rest : List Char}

/-! Runs of characters. -/

theorem head?_expandChars (other : s.head? ≠ some '$') :
    (expandChars vars s).head? = s.head? := by
  cases s with
  | nil => rw [expandChars_nil]
  | cons c s => rw [expandChars_cons fun same => other (congrArg some same), List.head?_cons,
      List.head?_cons]

theorem expandChars_ne_cons {c : Char} (other : s.head? ≠ some '$') (absent : ∀ t, s ≠ c :: t)
    (t : List Char) : expandChars vars s ≠ c :: t := by
  intro same
  have head := @head?_expandChars vars s other
  rw [same] at head
  obtain ⟨r, whole⟩ := List.head?_eq_some_iff.mp head.symm
  exact absent r whole

theorem expandChars_of_not_mem (absent : '$' ∉ s) : expandChars vars s = s := by
  induction s with
  | nil => exact expandChars_nil
  | cons c s ih =>
      obtain ⟨here, later⟩ := not_or.mp (List.mem_cons.not.mp absent)
      rw [expandChars_cons (Ne.symm here), ih later]

section

variable {p : Char → Bool} (dollar : p '$' = false)
include dollar

theorem span_expand (stops : (s.dropWhile p).head? ≠ some '$') :
    (expandChars vars s).takeWhile p = s.takeWhile p ∧
      (expandChars vars s).dropWhile p = expandChars vars (s.dropWhile p) := by
  induction s with
  | nil => simp [expandChars_nil]
  | cons c s ih =>
      by_cases passes : p c = true
      · have other : c ≠ '$' := by
          rintro rfl
          rw [dollar] at passes
          cases passes
        rw [List.dropWhile_cons_of_pos passes] at stops
        rw [expandChars_cons other, List.takeWhile_cons_of_pos passes,
          List.takeWhile_cons_of_pos passes, List.dropWhile_cons_of_pos passes,
          List.dropWhile_cons_of_pos passes]
        exact (ih stops).imp_left (congrArg _)
      · rw [List.dropWhile_cons_of_neg passes] at stops
        rw [expandChars_cons fun same => stops (congrArg some same),
          List.takeWhile_cons_of_neg passes, List.takeWhile_cons_of_neg passes,
          List.dropWhile_cons_of_neg passes, List.dropWhile_cons_of_neg passes,
          expandChars_cons fun same => stops (congrArg some same)]
        exact ⟨rfl, rfl⟩

theorem Tame.left_dropWhile (tame : Tame vars blocks s) :
    Left vars blocks s (s.dropWhile p) := by
  induction s with
  | nil => exact tame.left
  | cons c s ih =>
      by_cases passes : p c = true
      · have other : c ≠ '$' := by
          rintro rfl
          rw [dollar] at passes
          cases passes
        rw [List.dropWhile_cons_of_pos passes]
        exact (ih (tame.of_cons other).2).cons other
      · rw [List.dropWhile_cons_of_neg passes]
        exact tame.left

end

theorem skipBlanks_expand (stops : (skipBlanks s).head? ≠ some '$') :
    skipBlanks (expandChars vars s) = expandChars vars (skipBlanks s) :=
  (span_expand rfl stops).2

theorem Tame.left_skipBlanks (tame : Tame vars blocks s) : Left vars blocks s (skipBlanks s) :=
  tame.left_dropWhile rfl

/-- After blanks there is neither a reference nor a quote. -/
def Settled (s : List Char) : Prop :=
  ∀ c, (skipBlanks s).head? = some c → c ≠ '$' ∧ c ≠ '\x22' ∧ c ≠ '\x27'

theorem skipBlanks_cons {c : Char} (other : isBlank c = false) (s : List Char) :
    skipBlanks (c :: s) = c :: s := by
  rw [skipBlanks, List.dropWhile_cons_of_neg (by simp [other])]

theorem Settled.head {c : Char} (settled : Settled s) (head : s.head? = some c) :
    c ≠ '$' ∧ c ≠ '\x22' ∧ c ≠ '\x27' := by
  obtain ⟨t, rfl⟩ := List.head?_eq_some_iff.mp head
  by_cases blank : isBlank c = true
  · refine ⟨?_, ?_, ?_⟩ <;> rintro rfl <;> cases blank
  · refine settled c ?_
    rw [skipBlanks_cons (by simpa using blank)]
    rfl

theorem Settled.head_ne (settled : Settled s) : s.head? ≠ some '$' :=
  fun head => (settled.head head).1 rfl

theorem Settled.skip_ne (settled : Settled s) : (skipBlanks s).head? ≠ some '$' :=
  fun head => (settled _ head).1 rfl

/-! Gaps. -/

theorem skipGap_feed (inComment : Bool) (s : List Char) :
    skipGap inComment ('\n' :: s) = skipGap false s := by
  rw [skipGap]

theorem skipGap_return_feed (inComment : Bool) (head : s.head? = some '\n') :
    skipGap inComment ('\r' :: s) = skipGap false s := by
  obtain ⟨t, rfl⟩ := List.head?_eq_some_iff.mp head
  rw [skipGap, skipGap_feed]

theorem skipGap_cons {c : Char} (notFeed : c ≠ '\n')
    (notReturn : c = '\r' → s.head? ≠ some '\n') (inComment : Bool) :
    skipGap inComment (c :: s) =
      if inComment then if isPlain c then skipGap true s else none
      else if isBlank c then skipGap false s
      else if c = '#' then skipGap true s
      else if c = '\r' then none
      else some (c :: s) := by
  rw [skipGap]
  · rintro t rfl rfl
    exact notReturn rfl rfl
  · exact notFeed

theorem ne_breaks_of_isPlain {c : Char} (plain : isPlain c = true) : c ≠ '\n' ∧ c ≠ '\r' := by
  refine ⟨?_, ?_⟩ <;> rintro rfl <;> cases plain

theorem isPlain_of_isContent {c : Char} (content : isContent c = true) : isPlain c = true :=
  (isContent_iff.mp content).1

theorem skipGap_content {w : List Char} (content : ∀ c ∈ w, isContent c = true)
    (s : List Char) : skipGap true (w ++ s) = skipGap true s := by
  induction w with
  | nil => rfl
  | cons c w ih =>
      obtain ⟨here, later⟩ := List.forall_mem_cons.mp content
      have plain := isPlain_of_isContent here
      obtain ⟨notFeed, notReturn⟩ := ne_breaks_of_isPlain plain
      rw [List.cons_append, skipGap_cons notFeed (fun same => absurd same notReturn), if_pos rfl,
        if_pos plain, ih later]

theorem skipGap_cons_expand {c : Char} (other : c ≠ '$') (tame : Tame vars blocks (c :: s))
    (later : ∀ {inComment : Bool}, skipGap inComment s = some rest →
      skipGap inComment (expandChars vars s) = some (expandChars vars rest) ∧
        Left vars blocks s rest)
    {inComment : Bool} (read : skipGap inComment (c :: s) = some rest) :
    skipGap inComment (expandChars vars (c :: s)) = some (expandChars vars rest) ∧
      Left vars blocks (c :: s) rest := by
  have on {inComment' : Bool} (read : skipGap inComment' s = some rest)
      (step : skipGap inComment (c :: expandChars vars s) =
        skipGap inComment' (expandChars vars s)) :
      skipGap inComment (expandChars vars (c :: s)) = some (expandChars vars rest) ∧
        Left vars blocks (c :: s) rest := by
    obtain ⟨read', left⟩ := later read
    rw [expandChars_cons other, step]
    exact ⟨read', left.cons other⟩
  by_cases feed : c = '\n'
  · rw [feed, skipGap_feed] at read
    exact on read (by rw [feed, skipGap_feed])
  by_cases returned : c = '\r' ∧ s.head? = some '\n'
  · obtain ⟨rfl, head⟩ := returned
    rw [skipGap_return_feed _ head] at read
    refine on read (skipGap_return_feed _ ?_)
    rw [head?_expandChars (by rw [head]; decide), head]
  have notReturn (same : c = '\r') : s.head? ≠ some '\n' := fun head => returned ⟨same, head⟩
  rw [skipGap_cons feed notReturn] at read
  have notReturn : c ≠ '\r' := by
    rintro rfl
    cases inComment <;> cases read
  have step := skipGap_cons feed (s := expandChars vars s) (fun same => absurd same notReturn)
    inComment
  cases inComment with
  | true =>
      by_cases plain : isPlain c = true
      · rw [if_pos rfl, if_pos plain] at read step
        exact on read step
      · rw [if_pos rfl, if_neg plain] at read
        cases read
  | false =>
      rw [if_neg Bool.false_ne_true] at read step
      by_cases blank : isBlank c = true
      · rw [if_pos blank] at read step
        exact on read step
      rw [if_neg blank] at read step
      by_cases comment : c = '#'
      · rw [if_pos comment] at read step
        exact on read step
      rw [if_neg comment, if_neg notReturn] at read step
      cases read
      rw [expandChars_cons other, step]
      exact ⟨rfl, tame.left⟩

theorem skipGap_expand (tame : Tame vars blocks s) {inComment : Bool}
    (read : skipGap inComment s = some rest) (stops : rest.head? ≠ some '$') :
    skipGap inComment (expandChars vars s) = some (expandChars vars rest) ∧
      Left vars blocks s rest := by
  induction tame generalizing inComment with
  | nil =>
      cases inComment <;> cases read
      rw [expandChars_nil]
      exact ⟨rfl, Tame.nil.left⟩
  | plain other stands later ih =>
      exact skipGap_cons_expand other (.plain other stands later) ih read
  | @reference name value s content content' filled expands later ih =>
      cases inComment with
      | true =>
          have dollar : ∀ c ∈ '$' :: name, isContent c = true :=
            List.forall_mem_cons.mpr ⟨rfl, content⟩
          rw [← List.cons_append, skipGap_content dollar] at read
          obtain ⟨read', left⟩ := ih read
          rw [expands s (.refl s), skipGap_content content']
          exact ⟨read', left.reference expands⟩
      | false =>
          cases read
          exact absurd rfl stops

/-! Ends of lines. -/

theorem dropWhile_content {w : List Char} (content : ∀ c ∈ w, isContent c = true)
    (s : List Char) : (w ++ s).dropWhile isPlain = s.dropWhile isPlain :=
  List.dropWhile_append_of_pos fun c mem => isPlain_of_isContent (content c mem)

theorem comment_expand (tame : Tame vars blocks s) :
    (expandChars vars s).dropWhile isPlain = expandChars vars (s.dropWhile isPlain) ∧
      Left vars blocks s (s.dropWhile isPlain) := by
  induction tame with
  | nil => simpa [expandChars_nil] using Tame.nil.left
  | @plain c s other stands later ih =>
      obtain ⟨same, left⟩ := ih
      by_cases plain : isPlain c = true
      · rw [expandChars_cons other, List.dropWhile_cons_of_pos plain,
          List.dropWhile_cons_of_pos plain]
        exact ⟨same, left.cons other⟩
      · rw [List.dropWhile_cons_of_neg plain, expandChars_cons other,
          List.dropWhile_cons_of_neg plain]
        exact ⟨rfl, (Tame.plain other stands later).left⟩
  | @reference name value s content content' filled expands later ih =>
      obtain ⟨same, left⟩ := ih
      have dollar : ∀ c ∈ '$' :: name, isContent c = true :=
        List.forall_mem_cons.mpr ⟨rfl, content⟩
      rw [expands s (.refl s), dropWhile_content content', ← List.cons_append,
        dropWhile_content dollar]
      exact ⟨same, left.reference expands⟩

def dropComment : List Char → List Char
  | '#' :: s => s.dropWhile isPlain
  | s => s

def cutLineEnd : List Char → Option (List Char)
  | [] => some []
  | '\n' :: s | '\r' :: '\n' :: s => some s
  | _ => none

theorem readLineEnd_eq (s : List Char) :
    readLineEnd s = cutLineEnd (dropComment (skipBlanks s)) := rfl

theorem dropComment_of_ne (other : s.head? ≠ some '#') : dropComment s = s := by
  unfold dropComment
  split
  · exact absurd rfl other
  · rfl

theorem dropComment_expand (tame : Tame vars blocks s) (stops : s.head? ≠ some '$') :
    dropComment (expandChars vars s) = expandChars vars (dropComment s) ∧
      Left vars blocks s (dropComment s) := by
  by_cases comment : s.head? = some '#'
  · obtain ⟨t, rfl⟩ := List.head?_eq_some_iff.mp comment
    rw [expandChars_cons (by decide)]
    exact (comment_expand (tame.of_cons (by decide)).2).imp_right (Left.cons (by decide))
  · rw [dropComment_of_ne comment, dropComment_of_ne (by rwa [head?_expandChars stops])]
    exact ⟨rfl, tame.left⟩

theorem cutLineEnd_expand (tame : Tame vars blocks s) (read : cutLineEnd s = some rest) :
    cutLineEnd (expandChars vars s) = some (expandChars vars rest) ∧ Left vars blocks s rest ∧
      (rest ≠ [] → (expandChars vars rest).length < (expandChars vars s).length) := by
  unfold cutLineEnd at read
  split at read
  · cases read
    rw [expandChars_nil]
    exact ⟨rfl, tame.left, fun filled => absurd rfl filled⟩
  · cases read
    rw [expandChars_cons (by decide)]
    exact ⟨rfl, (tame.left.tail (by decide)).1, fun _ => Nat.lt_succ_self _⟩
  · cases read
    obtain ⟨later, shorter⟩ := (tame.left.tail (by decide)).1.tail (by decide)
    refine ⟨?_, later, fun _ => shorter⟩
    rw [expandChars_cons (by decide), expandChars_cons (by decide)]
    rfl
  · cases read

theorem settled_of_readLineEnd (read : readLineEnd s = some rest) : Settled s := by
  intro c head
  obtain ⟨t, skipped⟩ := List.head?_eq_some_iff.mp head
  rw [readLineEnd_eq, skipped] at read
  refine ⟨?_, ?_, ?_⟩ <;> rintro rfl <;> cases read

theorem expandChars_ne_nil (filled : s ≠ []) (other : s.head? ≠ some '$') :
    expandChars vars s ≠ [] := by
  obtain ⟨c, t, rfl⟩ := List.exists_cons_of_ne_nil filled
  rw [expandChars_cons fun same => other (congrArg some same)]
  exact List.cons_ne_nil _ _

theorem readLineEnd_expand (tame : Tame vars blocks s) (read : readLineEnd s = some rest) :
    readLineEnd (expandChars vars s) = some (expandChars vars rest) ∧ Left vars blocks s rest ∧
      (s ≠ [] → (expandChars vars rest).length < (expandChars vars s).length) := by
  have settled := settled_of_readLineEnd read
  rw [readLineEnd_eq] at read
  obtain ⟨dropped, left⟩ := dropComment_expand tame.left_skipBlanks.tame settled.skip_ne
  have before := tame.left_skipBlanks.trans left
  obtain ⟨ends, left', shorter⟩ := cutLineEnd_expand left.tame read
  rw [readLineEnd_eq, skipBlanks_expand settled.skip_ne, dropped, ends]
  refine ⟨rfl, before.trans left', fun filled => ?_⟩
  by_cases last : rest = []
  · rw [last, expandChars_nil]
    exact List.length_pos_iff.mpr (expandChars_ne_nil filled settled.head_ne)
  · exact Nat.lt_of_lt_of_le (shorter last) before.shorter

/-! Keys. -/

theorem span_bareKey (filled : s.takeWhile isBareKeyChar ≠ []) :
    readSimpleKey s =
      some (String.ofList (s.takeWhile isBareKeyChar), s.dropWhile isBareKeyChar) := by
  cases s with
  | nil => exact absurd rfl filled
  | cons c s =>
      have bare : isBareKeyChar c = true := by
        by_contra other
        exact filled (List.takeWhile_cons_of_neg other)
      unfold readSimpleKey
      split
      · next same =>
        cases same
        cases bare
      · next same =>
        cases same
        cases bare
      · split
        · next none => exact absurd none filled
        · rfl

theorem readSimpleKey_cases {key : String} (read : readSimpleKey s = some (key, rest)) :
    (∃ quote t cs, (quote = '\x22' ∨ quote = '\x27') ∧ s = quote :: cs ∧
      lineRest quote .plain cs = some (t, rest) ∧ key = String.ofList t) ∨
    (s.takeWhile isBareKeyChar ≠ [] ∧ key = String.ofList (s.takeWhile isBareKeyChar) ∧
      rest = s.dropWhile isBareKeyChar) := by
  unfold readSimpleKey at read
  split at read
  · next cs =>
    obtain ⟨⟨t, r⟩, read, same⟩ := Option.map_eq_some_iff.mp read
    cases same
    exact .inl ⟨_, t, cs, .inl rfl, rfl, read, rfl⟩
  · next cs =>
    obtain ⟨⟨t, r⟩, read, same⟩ := Option.map_eq_some_iff.mp read
    cases same
    exact .inl ⟨_, t, cs, .inr rfl, rfl, read, rfl⟩
  · split at read
    · cases read
    · next filled =>
      cases read
      exact .inr ⟨filled, rfl, rfl⟩

theorem readSimpleKey_quote {quote : Char} (isQuote : quote = '\x22' ∨ quote = '\x27')
    (cs : List Char) : readSimpleKey (quote :: cs) =
      (lineRest quote .plain cs).map fun (key, rest) => (String.ofList key, rest) := by
  obtain rfl | rfl := isQuote <;> rfl

theorem readSimpleKey_expand (tame : Tame vars blocks s) {key : String}
    (free : '$' ∉ key.toList) (stops : rest.head? ≠ some '$')
    (read : readSimpleKey s = some (key, rest)) :
    readSimpleKey (expandChars vars s) = some (key, expandChars vars rest) ∧
      Left vars blocks s rest ∧ s.head? ≠ some '$' := by
  obtain ⟨quote, t, cs, isQuote, rfl, line, rfl⟩ | ⟨filled, rfl, rfl⟩ := readSimpleKey_cases read
  · have other := quote_ne_dollar isQuote
    have near : LineNear .plain cs := trivial
    have inner := lineRest_expand isQuote (tame.of_cons other).2 near line
    rw [String.toList_ofList] at free
    rw [expandChars_cons other, readSimpleKey_quote isQuote, inner.read,
      expandChars_of_not_mem free]
    exact ⟨rfl, inner.left.cons other, fun same => other (Option.some.inj same)⟩
  · obtain ⟨taken, dropped⟩ := @span_expand vars s isBareKeyChar rfl stops
    refine ⟨?_, tame.left_dropWhile rfl, ?_⟩
    · rw [span_bareKey (by rwa [taken]), taken, dropped]
    · intro head
      obtain ⟨t, rfl⟩ := List.head?_eq_some_iff.mp head
      exact filled rfl

theorem head?_skipBlanks_of_dollar (head : s.head? = some '$') :
    (skipBlanks s).head? = some '$' := by
  obtain ⟨t, rfl⟩ := List.head?_eq_some_iff.mp head
  rw [skipBlanks_cons rfl]
  rfl

theorem readSimpleKey_nil : readSimpleKey [] = none := rfl

theorem readSimpleKey_skipBlanks (tame : Tame vars blocks s) {key : String}
    (free : '$' ∉ key.toList) (stops : (skipBlanks rest).head? ≠ some '$')
    (read : readSimpleKey (skipBlanks s) = some (key, rest)) :
    readSimpleKey (skipBlanks (expandChars vars s)) = some (key, expandChars vars rest) ∧
      Left vars blocks s (skipBlanks rest) ∧ (expandChars vars s).length ≠ 0 := by
  have blanks := tame.left_skipBlanks
  obtain ⟨read', left, head⟩ := readSimpleKey_expand blanks.tame free
    (fun head => stops (head?_skipBlanks_of_dollar head)) read
  have filled : skipBlanks s ≠ [] := by
    intro none
    rw [none, readSimpleKey_nil] at read
    cases read
  have something := List.length_pos_iff.mpr (@expandChars_ne_nil vars _ filled head)
  rw [skipBlanks_expand head]
  exact ⟨read', (blanks.trans left).trans left.tame.left_skipBlanks,
    Nat.ne_zero_of_lt (Nat.lt_of_lt_of_le something blanks.shorter)⟩

/-- However much fuel the text was read with, the expanded text needs as much as it is long. -/
theorem readDottedKeys_expand (tame : Tame vars blocks s) {fuel : Nat} {keys : List String}
    (free : ∀ key ∈ keys, '$' ∉ key.toList) (stops : rest.head? ≠ some '$')
    (read : readDottedKeys fuel s = some (keys, rest)) {fuel' : Nat}
    (enough : (expandChars vars s).length ≤ fuel') :
    readDottedKeys fuel' (expandChars vars s) = some (keys, expandChars vars rest) ∧
      Left vars blocks s rest := by
  induction fuel generalizing s keys fuel' with
  | zero => cases read
  | succ fuel ih =>
      obtain ⟨⟨key, after⟩, simple, read⟩ := Option.bind_eq_some_iff.mp read
      dsimp only at read
      split at read
      · next later dot =>
        obtain ⟨⟨keys', r⟩, dotted, same⟩ := Option.bind_eq_some_iff.mp read
        cases same
        obtain ⟨here, others⟩ := List.forall_mem_cons.mp free
        have next : (skipBlanks after).head? ≠ some '$' := by simp [dot]
        obtain ⟨simple', left, filled⟩ := readSimpleKey_skipBlanks tame here next simple
        obtain ⟨fuel', rfl⟩ := Nat.exists_eq_add_one_of_ne_zero (show fuel' ≠ 0 by omega)
        rw [dot] at left
        obtain ⟨left, shorter⟩ := left.tail (by decide)
        obtain ⟨dotted', left'⟩ := ih left.tame others dotted
          (show (expandChars vars later).length ≤ fuel' by omega)
        refine ⟨?_, left.trans left'⟩
        rw [readDottedKeys, simple', Option.bind_eq_bind, Option.bind_some]
        dsimp only
        rw [skipBlanks_expand next, dot, expandChars_cons (by decide)]
        change (readDottedKeys fuel' _).bind (fun r => some (key :: r.1, r.2)) = _
        rw [dotted']
        rfl
      · next noDot =>
        cases read
        obtain ⟨simple', left, filled⟩ :=
          readSimpleKey_skipBlanks tame (free key List.mem_cons_self) stops simple
        obtain ⟨fuel', rfl⟩ := Nat.exists_eq_add_one_of_ne_zero (show fuel' ≠ 0 by omega)
        refine ⟨?_, left⟩
        rw [readDottedKeys, simple', Option.bind_eq_bind, Option.bind_some]
        dsimp only
        rw [skipBlanks_expand stops]
        split
        · next dot => exact absurd dot (expandChars_ne_cons stops noDot _)
        · rfl

theorem readKey_expand (tame : Tame vars blocks s) {keys : List String}
    (free : ∀ key ∈ keys, '$' ∉ key.toList) (stops : rest.head? ≠ some '$')
    (read : readKey s = some (keys, rest)) :
    readKey (expandChars vars s) = some (keys, expandChars vars rest) ∧
      Left vars blocks s rest := by
  obtain ⟨read, shallow⟩ := Option.filter_eq_some_iff.mp read
  obtain ⟨read', left⟩ := readDottedKeys_expand tame free stops read (Nat.le_refl _)
  exact ⟨Option.filter_eq_some_iff.mpr ⟨read', shallow⟩, left⟩

/-! Words. -/

theorem cutWord_of_blank {c : Char} {cs : List Char}
    (blank : s.dropWhile isWordChar = ' ' :: c :: cs) :
    cutWord s =
      if isDate (s.takeWhile isWordChar) ∧ isDigit c then
        (s.takeWhile isWordChar ++ ' ' :: (c :: cs).takeWhile isWordChar,
          (c :: cs).dropWhile isWordChar)
      else (s.takeWhile isWordChar, ' ' :: c :: cs) := by
  unfold cutWord
  simp only [blank]

theorem cutWord_of_not_blank (noBlank : ∀ c cs, s.dropWhile isWordChar ≠ ' ' :: c :: cs) :
    cutWord s = (s.takeWhile isWordChar, s.dropWhile isWordChar) := by
  unfold cutWord
  dsimp only
  split
  · next c cs blank => exact absurd blank (noBlank c cs)
  · rfl

theorem cutWord_expand (tame : Tame vars blocks s) {word : List Char} (settled : Settled rest)
    (cut : cutWord s = (word, rest)) :
    cutWord (expandChars vars s) = (word, expandChars vars rest) ∧ Left vars blocks s rest := by
  have left := tame.left_dropWhile (p := isWordChar) rfl
  have run (stops : (s.dropWhile isWordChar).head? ≠ some '$') :=
    @span_expand vars s isWordChar rfl stops
  by_cases blank : ∃ c cs, s.dropWhile isWordChar = ' ' :: c :: cs
  · obtain ⟨c, cs, blank⟩ := blank
    obtain ⟨taken, dropped⟩ := run (by simp [blank])
    rw [blank] at left dropped
    rw [cutWord_of_blank blank] at cut
    have expanded (other : c ≠ '$') := cutWord_of_blank (c := c) (s := expandChars vars s)
      (by rw [dropped, expandChars_cons (by decide), expandChars_cons other])
    by_cases date : isDate (s.takeWhile isWordChar) ∧ isDigit c
    · rw [if_pos date] at cut
      cases cut
      have other : c ≠ '$' := by
        rintro rfl
        cases date.2
      obtain ⟨taken', dropped'⟩ := @span_expand vars _ isWordChar rfl settled.head_ne
      have time := (left.tame.of_cons (by decide)).2.left_dropWhile (p := isWordChar) rfl
      rw [expanded other, taken, if_pos date, ← expandChars_cons other, taken', dropped']
      exact ⟨rfl, left.trans (time.cons (by decide))⟩
    · rw [if_neg date] at cut
      cases cut
      have other : c ≠ '$' := by
        rintro rfl
        exact settled.skip_ne rfl
      rw [expanded other, taken, if_neg date, ← expandChars_cons other,
        ← expandChars_cons (by decide)]
      exact ⟨rfl, left⟩
  · have noBlank (c : Char) (cs : List Char) : s.dropWhile isWordChar ≠ ' ' :: c :: cs :=
      fun same => blank ⟨c, cs, same⟩
    rw [cutWord_of_not_blank noBlank] at cut
    cases cut
    obtain ⟨taken, dropped⟩ := run settled.head_ne
    refine ⟨?_, left⟩
    rw [cutWord_of_not_blank, taken, dropped]
    rw [dropped]
    -- Nothing but a blank at the text's end would leave a lone blank here.
    intro c cs same
    have head := @head?_expandChars vars _ settled.head_ne
    rw [same] at head
    obtain ⟨t, whole⟩ := List.head?_eq_some_iff.mp head.symm
    cases t with
    | nil =>
        rw [whole, expandChars_cons (by decide), expandChars_nil] at same
        cases same
    | cons d t => exact noBlank d t whole

theorem readScalar_expand (tame : Tame vars blocks s) {v : Value} (settled : Settled rest)
    (read : readScalar s = some (v, rest)) :
    readScalar (expandChars vars s) = some (v, expandChars vars rest) ∧
      Left vars blocks s rest := by
  rw [readScalar] at read
  generalize cut : cutWord s = w at read
  obtain ⟨word, r⟩ := w
  obtain ⟨_, scalar, same⟩ := Option.map_eq_some_iff.mp read
  cases same
  obtain ⟨cut', left⟩ := cutWord_expand tame settled cut
  refine ⟨?_, left⟩
  rw [readScalar, cut']
  dsimp only
  rw [scalar]
  rfl

end ChequeTeller.Settings
