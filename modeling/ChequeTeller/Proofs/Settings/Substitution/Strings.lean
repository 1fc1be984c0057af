import ChequeTeller.Proofs.Settings.References
import ChequeTeller.Toml.Expression

/-!
Strings, keys and gaps of expanded text. In a tame text a reference can only be content of a string
or a comment, and so can what stands for it. What is read from the text is then read from the
expanded text too, with the strings expanded. Which texts are tame is left apart.
-/

namespace ChequeTeller.Settings

open Toml

/-- What is content of a string as it is, of whatever form the string may be. -/
def isContent (c : Char) : Bool :=
  isPlain c && c ≠ '\x22' && c ≠ '\x27' && c ≠ '\\'

/-- A character after which a name without braces has ended, and a dollar sign stands alone. -/
def isEnd (c : Char) : Bool :=
  !isNameChar c && c ≠ '\x7b' && c ≠ '$'

/-- After a backslash these make a number, or line ends that do not count. -/
def farEscapes : List Char := ['u', 'U', ' ', '\t', '\n', '\r']

/-- Where `t` stands in the place of `s`, a reference before `s` does not run on into it. -/
def Follows (s t : List Char) : Prop :=
  ∀ c, t.head? = some c → s ≠ [] ∧ (isEnd c = true ∨ s.head? = some c)

/-- A character that may stand before a text. -/
structure Stands (blocks : Bool) (c : Char) (s : List Char) : Prop where
  escape : c = '\\' → ∀ d, s.head? = some d → d ∉ farEscapes
  single : blocks = false → c = '\x22' ∨ c = '\x27' → ∀ rest, s ≠ c :: c :: rest

/-- A text whose references are content, and so is what stands for them. Where there may be blocks,
something stands for each. -/
inductive Tame (vars : Variables) (blocks : Bool) : List Char → Prop
  | nil : Tame vars blocks []
  | plain {c : Char} {s : List Char} (other : c ≠ '$') (stands : Stands blocks c s)
      (later : Tame vars blocks s) : Tame vars blocks (c :: s)
  | reference {name value s : List Char} (content : ∀ c ∈ name, isContent c = true)
      (content' : ∀ c ∈ value, isContent c = true) (filled : blocks = true → value ≠ [])
      (expands : ∀ t, Follows s t →
        expandChars vars ('$' :: (name ++ t)) = value ++ expandChars vars t)
      (later : Tame vars blocks s) : Tame vars blocks ('$' :: (name ++ s))

variable {vars : Variables} {blocks : Bool} {s rest : List Char}

theorem expandChars_nil : expandChars vars [] = [] := by
  rw [expandChars]

theorem Follows.refl (s : List Char) : Follows s s := by
  intro c head
  refine ⟨?_, .inr head⟩
  rintro rfl
  cases head

theorem Tame.of_cons {c : Char} (tame : Tame vars blocks (c :: s)) (other : c ≠ '$') :
    Stands blocks c s ∧ Tame vars blocks s := by
  cases tame with
  | plain _ stands later => exact ⟨stands, later⟩
  | reference => exact absurd rfl other

/-- What is left of a text when some of it has been read. -/
structure Left (vars : Variables) (blocks : Bool) (s rest : List Char) : Prop where
  tame : Tame vars blocks rest
  shorter : (expandChars vars rest).length ≤ (expandChars vars s).length

theorem Tame.left (tame : Tame vars blocks s) : Left vars blocks s s :=
  ⟨tame, Nat.le_refl _⟩

theorem Left.trans {t : List Char} (first : Left vars blocks s t)
    (later : Left vars blocks t rest) : Left vars blocks s rest :=
  ⟨later.tame, Nat.le_trans later.shorter first.shorter⟩

theorem Left.cons {c : Char} (other : c ≠ '$') (left : Left vars blocks s rest) :
    Left vars blocks (c :: s) rest := by
  refine ⟨left.tame, ?_⟩
  rw [expandChars_cons other]
  exact Nat.le_succ_of_le left.shorter

theorem Left.tail {c : Char} (other : c ≠ '$') (left : Left vars blocks s (c :: rest)) :
    Left vars blocks s rest ∧ (expandChars vars rest).length < (expandChars vars s).length := by
  have shorter := left.shorter
  rw [expandChars_cons other, List.length_cons] at shorter
  exact ⟨⟨(left.tame.of_cons other).2, Nat.le_of_succ_le shorter⟩, shorter⟩

theorem Left.reference {name value : List Char}
    (expands : ∀ t, Follows s t →
      expandChars vars ('$' :: (name ++ t)) = value ++ expandChars vars t)
    (left : Left vars blocks s rest) : Left vars blocks ('$' :: (name ++ s)) rest := by
  refine ⟨left.tame, ?_⟩
  rw [expands s (.refl s), List.length_append]
  exact Nat.le_add_left_of_le left.shorter

/-! What a string goes on with. -/

section

variable {State : Type} {reader : State → List Char → Quoted} {start : State}

/-- In the expanded text the rest of a string is read to where it ends in the text, and is the
expanded content. -/
structure RestRead (reader : State → List Char → Quoted) (start : State) (vars : Variables)
    (blocks : Bool) (st : State) (s t rest : List Char) : Prop where
  read : reader st (expandChars vars s) = some (expandChars vars t, expandChars vars rest)
  left : Left vars blocks s rest
  starts : ∀ c, t.head? = some c → isEnd c = true ∨ st = start ∧ s.head? = some c

namespace RestRead

variable {st st' : State} {c e : Char} {t : List Char}

/-- One more character of content. -/
theorem cons (other : c ≠ '$') (other' : e ≠ '$')
    (later : ∀ {t}, reader start s = some (t, rest) →
      RestRead reader start vars blocks start s t rest)
    (step : ∀ s, reader st (c :: s) = (reader start s).cons e)
    (starts : isEnd e = true ∨ st = start ∧ c = e)
    (read : reader st (c :: s) = some (t, rest)) :
    RestRead reader start vars blocks st (c :: s) t rest := by
  rw [step] at read
  obtain ⟨⟨t', r⟩, read, same⟩ := Option.map_eq_some_iff.mp read
  cases same
  have inner := later read
  refine ⟨?_, inner.left.cons other, ?_⟩
  · rw [expandChars_cons other, step, inner.read, expandChars_cons other']
    rfl
  · rintro d ⟨⟩
    exact starts.imp_right (And.imp_right (congrArg some))

/-- A character that is no content by itself. -/
theorem skip (other : c ≠ '$')
    (later : ∀ {t}, reader st' s = some (t, rest) →
      RestRead reader start vars blocks st' s t rest)
    (begun : st' ≠ start) (step : ∀ s, reader st (c :: s) = reader st' s)
    (read : reader st (c :: s) = some (t, rest)) :
    RestRead reader start vars blocks st (c :: s) t rest := by
  rw [step] at read
  have inner := later read
  refine ⟨?_, inner.left.cons other, fun d head => .inl ?_⟩
  · rw [expandChars_cons other, step, inner.read]
  · obtain ends | ⟨same, -⟩ := inner.starts d head
    · exact ends
    · exact absurd same begun

theorem reference {name value : List Char}
    (copies : ∀ w : List Char, (∀ c ∈ w, isContent c = true) → ∀ s,
      reader start (w ++ s) = (reader start s).map fun (t, rest) => (w ++ t, rest))
    (ends : reader start [] = none) (content : ∀ c ∈ name, isContent c = true)
    (content' : ∀ c ∈ value, isContent c = true)
    (expands : ∀ t, Follows s t →
      expandChars vars ('$' :: (name ++ t)) = value ++ expandChars vars t)
    (later : ∀ {t}, reader start s = some (t, rest) →
      RestRead reader start vars blocks start s t rest)
    (read : reader start ('$' :: (name ++ s)) = some (t, rest)) :
    RestRead reader start vars blocks start ('$' :: (name ++ s)) t rest := by
  have dollar : ∀ c ∈ '$' :: name, isContent c = true :=
    List.forall_mem_cons.mpr ⟨rfl, content⟩
  rw [← List.cons_append, copies _ dollar] at read
  obtain ⟨⟨t', r⟩, read, same⟩ := Option.map_eq_some_iff.mp read
  cases same
  have inner := later read
  have filled : s ≠ [] := by
    rintro rfl
    rw [ends] at read
    cases read
  have inPlace : Follows s t' := fun c head => ⟨filled, (inner.starts c head).imp_right (·.2)⟩
  refine ⟨?_, inner.left.reference expands, fun e head => .inr ⟨rfl, head⟩⟩
  rw [expands s (.refl s), copies _ content', inner.read, Option.map_some, List.cons_append,
    expands t' inPlace]

end RestRead

end

/-! Strings on one line. -/

theorem isContent_iff {c : Char} :
    isContent c = true ↔ isPlain c = true ∧ c ≠ '\x22' ∧ c ≠ '\x27' ∧ c ≠ '\\' := by
  simp [isContent, and_assoc]

theorem escape?_char {c e : Char} (escape : escape? c = some (.char e)) :
    c ≠ '$' ∧ isEnd e = true := by
  unfold escape? at escape
  refine ⟨?_, ?_⟩
  · rintro rfl
    cases escape
  · split_ifs at escape <;> cases escape
    all_goals first
      | rfl
      | rename_i same
        obtain rfl | rfl := same <;> rfl

theorem escape?_number {c : Char} {digits : Nat} (escape : escape? c = some (.number digits)) :
    c ∈ farEscapes := by
  unfold escape? at escape
  split_ifs at escape <;> cases escape <;> simp [farEscapes, *]

theorem ne_dollar_of_isEnd {c : Char} (ends : isEnd c = true) : c ≠ '$' := by
  rintro rfl
  cases ends

section

variable {quote : Char} (isQuote : quote = '\x22' ∨ quote = '\x27')
include isQuote

theorem ne_quote {c : Char} (content : isContent c = true) : c ≠ quote := by
  obtain ⟨-, double, single, -⟩ := isContent_iff.mp content
  obtain rfl | rfl := isQuote
  · exact double
  · exact single

theorem lineRest_content {w : List Char} (content : ∀ c ∈ w, isContent c = true)
    (s : List Char) :
    lineRest quote .plain (w ++ s) =
      (lineRest quote .plain s).map fun (t, rest) => (w ++ t, rest) := by
  induction w with
  | nil => simp
  | cons c w ih =>
      obtain ⟨here, later⟩ := List.forall_mem_cons.mp content
      have notQuote := ne_quote isQuote here
      obtain ⟨plain, -, -, notBackslash⟩ := isContent_iff.mp here
      rw [List.cons_append, lineRest, if_neg notQuote, if_neg (fun both => notBackslash both.1),
        if_pos plain, ih later, Quoted.cons, Option.map_map]
      rfl

theorem quote_ne_dollar : quote ≠ '$' := by
  obtain rfl | rfl := isQuote <;> decide

/-- Near escapes alone are read, and one that has begun is one. -/
def LineNear : LineState → List Char → Prop
  | .plain, _ => True
  | .escaped, s => ∀ d, s.head? = some d → d ∉ farEscapes
  | .digits _ _, _ => False

theorem lineRest_expand (tame : Tame vars blocks s) {st : LineState} {t : List Char}
    (near : LineNear st s) (read : lineRest quote st s = some (t, rest)) :
    RestRead (lineRest quote) .plain vars blocks st s t rest := by
  induction tame generalizing st t with
  | nil => cases st <;> cases read
  | @plain c s other stands later ih =>
      have fresh : LineNear .plain s := trivial
      cases st with
      | plain =>
          by_cases closes : c = quote
          · rw [lineRest, if_pos closes] at read
            cases read
            refine ⟨?_, later.left.cons other, nofun⟩
            rw [expandChars_cons other, lineRest, if_pos closes, expandChars_nil]
          by_cases escapes : c = '\\' ∧ quote = '\x22'
          · have near : LineNear .escaped s := stands.escape escapes.1
            exact .skip other (ih near) nofun
              (fun s => by rw [lineRest, if_neg closes, if_pos escapes]) read
          by_cases plain : isPlain c = true
          · exact .cons other other (ih fresh)
              (fun s => by rw [lineRest, if_neg closes, if_neg escapes, if_pos plain])
              (.inr ⟨rfl, rfl⟩) read
          · rw [lineRest, if_neg closes, if_neg escapes, if_neg plain] at read
            cases read
      | escaped =>
          cases escape : escape? c with
          | none =>
              rw [lineRest, escape] at read
              cases read
          | some e =>
              cases e with
              | char e =>
                  obtain ⟨-, ends⟩ := escape?_char escape
                  exact .cons other (ne_dollar_of_isEnd ends) (ih fresh)
                    (fun s => by rw [lineRest, escape]) (.inl ends) read
              | number digits => exact absurd (escape?_number escape) (near c rfl)
      | digits => exact near.elim
  | @reference name value s content content' filled expands later ih =>
      have fresh : LineNear .plain s := trivial
      cases st with
      | plain =>
          exact .reference (fun _ => lineRest_content isQuote) rfl content content' expands
            (ih fresh) read
      | escaped => cases read
      | digits => exact near.elim

/-! Blocks. -/

theorem isEnd_quote : isEnd quote = true := by
  obtain rfl | rfl := isQuote <;> rfl

theorem expandChars_quotes (n : Nat) (s : List Char) :
    expandChars vars (List.replicate n quote ++ s) =
      List.replicate n quote ++ expandChars vars s := by
  induction n with
  | zero => rfl
  | succ n ih =>
      rw [List.replicate_succ, List.cons_append, expandChars_cons (quote_ne_dollar isQuote), ih,
        List.cons_append]

omit isQuote in
theorem afterQuotes_none (q : Quoted) : Quoted.afterQuotes quote 0 q = q := by
  cases q <;> rfl

omit isQuote in
/-- Quotes that close nothing are content before what follows them. -/
theorem blockRest_afterQuotes {c : Char} (content : c ≠ quote) {quotes : Nat} (few : quotes < 3)
    (s : List Char) :
    blockRest quote (.plain quotes) (c :: s) =
      Quoted.afterQuotes quote quotes (blockRest quote (.plain 0) (c :: s)) := by
  have closed : ¬ 3 ≤ quotes := by omega
  have open_ : ¬ 3 ≤ 0 := by omega
  simp only [blockRest, if_neg content, if_neg closed, if_neg open_, afterQuotes_none]

omit isQuote in
theorem blockRest_of_content {c : Char} (content : c ≠ quote) (s : List Char) :
    blockRest quote (.plain 0) (c :: s) =
      if c = '\\' ∧ quote = '\x22' then blockRest quote .escaped s
      else if c = '\n' then (blockRest quote (.plain 0) s).cons '\n'
      else if c = '\r' then blockRest quote .returned s
      else if isPlain c then (blockRest quote (.plain 0) s).cons c
      else none := by
  have open_ : ¬ 3 ≤ 0 := by omega
  simp only [blockRest, if_neg content, if_neg open_, afterQuotes_none]

omit isQuote in
theorem blockRest_closes {c : Char} (content : c ≠ quote) {quotes : Nat} (many : 3 ≤ quotes)
    (s : List Char) :
    blockRest quote (.plain quotes) (c :: s) = closeBlock quote quotes (c :: s) := by
  rw [blockRest, if_neg content, if_pos many]

theorem blockRest_content {w : List Char} (content : ∀ c ∈ w, isContent c = true)
    (s : List Char) :
    blockRest quote (.plain 0) (w ++ s) =
      (blockRest quote (.plain 0) s).map fun (t, rest) => (w ++ t, rest) := by
  induction w with
  | nil => simp
  | cons c w ih =>
      obtain ⟨here, later⟩ := List.forall_mem_cons.mp content
      have notQuote := ne_quote isQuote here
      obtain ⟨plain, -, -, notBackslash⟩ := isContent_iff.mp here
      have notFeed : c ≠ '\n' := by
        rintro rfl
        cases plain
      have notReturn : c ≠ '\r' := by
        rintro rfl
        cases plain
      rw [List.cons_append, blockRest, if_neg notQuote, if_neg (by omega),
        if_neg (fun both => notBackslash both.1), if_neg notFeed, if_neg notReturn, if_pos plain,
        ih later]
      cases blockRest quote (.plain 0) s <;> rfl

/-- Near escapes alone are read, and one that has begun is one. -/
def BlockNear : BlockState → List Char → Prop
  | .plain _, _ | .returned, _ => True
  | .escaped, s => ∀ d, s.head? = some d → d ∉ farEscapes
  | _, _ => False

omit isQuote in
theorem closeBlock_eq_some {quotes : Nat} {s t rest : List Char}
    (closes : closeBlock quote quotes s = some (t, rest)) :
    rest = s ∧ t = List.replicate (quotes - 3) quote ∧
      ∀ s', closeBlock quote quotes s' = some (t, s') := by
  rw [closeBlock] at closes
  split at closes
  · next run =>
    cases closes
    exact ⟨rfl, rfl, fun s' => by rw [closeBlock, if_pos run]⟩
  · cases closes

theorem blockRead_of_closes {quotes : Nat} {t : List Char} (tame : Tame vars true s)
    (closes : closeBlock quote quotes s = some (t, rest))
    (closes' : blockRest quote (.plain quotes) (expandChars vars s) =
      closeBlock quote quotes (expandChars vars s)) :
    RestRead (blockRest quote) (.plain 0) vars true (.plain quotes) s t rest := by
  obtain ⟨rfl, rfl, same⟩ := closeBlock_eq_some closes
  have expanded := @expandChars_quotes vars quote isQuote (quotes - 3) []
  rw [List.append_nil, expandChars_nil, List.append_nil] at expanded
  refine ⟨by rw [closes', same, expanded], tame.left, fun c head => .inl ?_⟩
  rw [List.eq_of_mem_replicate (List.mem_of_head? head)]
  exact isEnd_quote isQuote

/-- After quotes a text is read as it is without them, if it starts with content. -/
theorem blockRead_of_content {c d : Char} {u v : List Char} (whole : s = c :: u)
    (whole' : expandChars vars s = d :: v) (content : c ≠ quote) (content' : d ≠ quote)
    (tame : Tame vars true s)
    (bare : ∀ {t}, blockRest quote (.plain 0) s = some (t, rest) →
      RestRead (blockRest quote) (.plain 0) vars true (.plain 0) s t rest)
    {quotes : Nat} {t : List Char} (read : blockRest quote (.plain quotes) s = some (t, rest)) :
    RestRead (blockRest quote) (.plain 0) vars true (.plain quotes) s t rest := by
  by_cases few : quotes < 3
  · rw [whole, blockRest_afterQuotes content few, ← whole] at read
    obtain ⟨⟨t', r⟩, read, same⟩ := Option.map_eq_some_iff.mp read
    cases same
    have inner := bare read
    refine ⟨?_, inner.left, fun e head => ?_⟩
    · rw [whole', blockRest_afterQuotes content' few, ← whole', inner.read,
        expandChars_quotes isQuote]
      rfl
    · cases quotes with
      | zero => exact inner.starts e head
      | succ quotes =>
          obtain rfl := Option.some.inj head
          exact .inl (isEnd_quote isQuote)
  · have many : 3 ≤ quotes := Nat.le_of_not_lt few
    rw [whole, blockRest_closes content many, ← whole] at read
    refine blockRead_of_closes isQuote tame read ?_
    rw [whole', blockRest_closes content' many]

section

variable {c : Char} {t : List Char} (other : c ≠ '$')
  (later : ∀ {st : BlockState} {t : List Char}, BlockNear st s →
    blockRest quote st s = some (t, rest) →
      RestRead (blockRest quote) (.plain 0) vars true st s t rest)
include other later

omit isQuote in
theorem blockRead_cons (stands : Stands true c s) (unquoted : c ≠ quote)
    (read : blockRest quote (.plain 0) (c :: s) = some (t, rest)) :
    RestRead (blockRest quote) (.plain 0) vars true (.plain 0) (c :: s) t rest := by
  have fresh : BlockNear (.plain 0) s := trivial
  have step := blockRest_of_content unquoted
  by_cases escapes : c = '\\' ∧ quote = '\x22'
  · have near : BlockNear .escaped s := stands.escape escapes.1
    exact .skip other (later near) nofun (fun s => by rw [step, if_pos escapes]) read
  by_cases feed : c = '\n'
  · exact .cons (e := '\n') other (by decide) (later fresh)
      (fun s => by rw [step, if_neg escapes, if_pos feed]) (.inr ⟨rfl, feed⟩) read
  by_cases returns : c = '\r'
  · have near : BlockNear .returned s := trivial
    exact .skip other (later near) nofun
      (fun s => by rw [step, if_neg escapes, if_neg feed, if_pos returns]) read
  by_cases plain : isPlain c = true
  · exact .cons other other (later fresh)
      (fun s => by rw [step, if_neg escapes, if_neg feed, if_neg returns, if_pos plain])
      (.inr ⟨rfl, rfl⟩) read
  · rw [step, if_neg escapes, if_neg feed, if_neg returns, if_neg plain] at read
    cases read

omit isQuote in
theorem blockRead_escaped (near : c ∉ farEscapes)
    (read : blockRest quote .escaped (c :: s) = some (t, rest)) :
    RestRead (blockRest quote) (.plain 0) vars true .escaped (c :: s) t rest := by
  have fresh : BlockNear (.plain 0) s := trivial
  have far := near
  simp only [farEscapes, List.mem_cons, List.not_mem_nil, or_false, not_or] at far
  obtain ⟨-, -, blank, tab, feed, returns⟩ := far
  have noFold := not_or.mpr ⟨blank, tab⟩
  cases escape : escape? c with
  | none =>
      rw [blockRest, if_neg feed, if_neg returns, if_neg noFold, escape] at read
      cases read
  | some e =>
      cases e with
      | char e =>
          obtain ⟨-, ends⟩ := escape?_char escape
          exact .cons other (ne_dollar_of_isEnd ends) (later fresh)
            (fun s => by rw [blockRest, if_neg feed, if_neg returns, if_neg noFold, escape])
            (.inl ends) read
      | number digits => exact absurd (escape?_number escape) near

end

theorem blockRest_expand (tame : Tame vars true s) {st : BlockState} {t : List Char}
    (near : BlockNear st s) (read : blockRest quote st s = some (t, rest)) :
    RestRead (blockRest quote) (.plain 0) vars true st s t rest := by
  induction tame generalizing st t with
  | nil =>
      cases st with
      | plain quotes =>
          rw [blockRest] at read
          exact blockRead_of_closes isQuote .nil read (by rw [expandChars_nil, blockRest])
      | returned | escaped | digits | lineEnding | folding | foldingReturned => cases read
  | @plain c s other stands later ih =>
      have whole : expandChars vars (c :: s) = c :: expandChars vars s := expandChars_cons other s
      cases st with
      | plain quotes =>
          by_cases quoted : c = quote
          · have near : BlockNear (.plain (quotes + 1)) s := trivial
            exact .skip other (ih near) nofun (fun s => by rw [blockRest, if_pos quoted]) read
          · exact blockRead_of_content isQuote rfl whole quoted quoted (.plain other stands later)
              (blockRead_cons other ih stands quoted) read
      | returned =>
          have fresh : BlockNear (.plain 0) s := trivial
          by_cases feed : c = '\n'
          · exact .cons (e := '\n') other (by decide) (ih fresh)
              (fun s => by rw [blockRest, if_pos feed]) (.inl rfl) read
          · rw [blockRest, if_neg feed] at read
            cases read
      | escaped => exact blockRead_escaped other ih (near c rfl) read
      | digits | lineEnding | folding | foldingReturned => exact near.elim
  | @reference name value s content content' filled expands later ih =>
      cases st with
      | plain quotes =>
          have fresh : BlockNear (.plain 0) s := trivial
          obtain ⟨d, v, rfl⟩ := List.exists_cons_of_ne_nil (filled rfl)
          have first := ne_quote isQuote (content' d List.mem_cons_self)
          refine blockRead_of_content isQuote rfl (expands s (.refl s))
            (quote_ne_dollar isQuote).symm first
            (.reference content content' filled expands later) (fun read => ?_) read
          exact .reference (fun _ => blockRest_content isQuote) rfl content content' expands
            (ih fresh) read
      | returned | escaped => cases read
      | digits | lineEnding | folding | foldingReturned => exact near.elim

/-! Strings of any form. -/

omit isQuote in
/-- Expanding puts nothing at the front that is no content. -/
theorem head?_expandChars_ne {c : Char} (tame : Tame vars true s) (noContent : isContent c = false)
    (absent : s.head? ≠ some c) : (expandChars vars s).head? ≠ some c := by
  cases tame with
  | nil => simp [expandChars_nil]
  | plain other =>
      rw [expandChars_cons other]
      exact absent
  | reference _ content' filled expands =>
      obtain ⟨d, v, rfl⟩ := List.exists_cons_of_ne_nil (filled rfl)
      rw [expands _ (.refl _)]
      rintro ⟨⟩
      rw [content' c List.mem_cons_self] at noContent
      cases noContent

omit isQuote in
theorem dropLineEnd_of_ne (notFeed : s.head? ≠ some '\n')
    (notReturn : ∀ t, s ≠ '\r' :: '\n' :: t) : dropLineEnd s = s := by
  unfold dropLineEnd
  split
  · exact absurd rfl notFeed
  · exact absurd rfl (notReturn _)
  · rfl

omit isQuote in
theorem dropLineEnd_expand (tame : Tame vars true s) :
    dropLineEnd (expandChars vars s) = expandChars vars (dropLineEnd s) ∧
      Left vars true s (dropLineEnd s) := by
  by_cases feed : s.head? = some '\n'
  · obtain ⟨t, rfl⟩ := List.head?_eq_some_iff.mp feed
    rw [expandChars_cons (by decide)]
    exact ⟨rfl, (tame.left.tail (by decide)).1⟩
  by_cases returned : ∃ t, s = '\r' :: '\n' :: t
  · obtain ⟨t, rfl⟩ := returned
    have later := (tame.left.tail (by decide)).1
    rw [expandChars_cons (by decide), expandChars_cons (by decide)]
    exact ⟨rfl, (later.tail (by decide)).1⟩
  · have notReturn (t : List Char) : s ≠ '\r' :: '\n' :: t := fun same => returned ⟨t, same⟩
    rw [dropLineEnd_of_ne feed notReturn]
    refine ⟨dropLineEnd_of_ne (head?_expandChars_ne tame rfl feed) ?_, tame.left⟩
    intro t same
    have head : s.head? = some '\r' := by
      by_contra absent
      exact head?_expandChars_ne tame rfl absent (same ▸ rfl)
    obtain ⟨s', rfl⟩ := List.head?_eq_some_iff.mp head
    rw [expandChars_cons (by decide)] at same
    have next : s'.head? ≠ some '\n' := by
      intro feed
      obtain ⟨t, rfl⟩ := List.head?_eq_some_iff.mp feed
      exact notReturn t rfl
    refine head?_expandChars_ne (tame.of_cons (by decide)).2 rfl next ?_
    rw [(List.cons.inj same).2]
    rfl

omit isQuote in
theorem readString_of_line (line : ∀ t, s ≠ quote :: quote :: t) :
    readString quote s = lineRest quote .plain s := by
  unfold readString
  split
  · next c d cs =>
    rw [if_neg]
    rintro ⟨rfl, rfl⟩
    exact line cs rfl
  · rfl

/-- What follows a string is neither a quote nor a reference. -/
theorem readString_expand (tame : Tame vars blocks (quote :: s)) {t : List Char}
    (settled : ∀ c, rest.head? = some c → c ≠ '$' ∧ c ≠ quote)
    (read : readString quote s = some (t, rest)) :
    readString quote (expandChars vars s) = some (expandChars vars t, expandChars vars rest) ∧
      Left vars blocks s rest := by
  obtain ⟨stands, tame⟩ := tame.of_cons (quote_ne_dollar isQuote)
  by_cases block : ∃ u, s = quote :: quote :: u
  · obtain ⟨u, rfl⟩ := block
    have allowed : blocks = true := by
      rw [← Bool.not_eq_false]
      exact fun single => stands.single single isQuote u rfl
    subst allowed
    have other := (quote_ne_dollar isQuote)
    have later := ((tame.of_cons other).2.of_cons other).2
    obtain ⟨dropped, left⟩ := dropLineEnd_expand later
    have step (u : List Char) :
        readString quote (quote :: quote :: u) = blockRest quote (.plain 0) (dropLineEnd u) := by
      rw [readString, if_pos ⟨rfl, rfl⟩]
    have near : BlockNear (.plain 0) (dropLineEnd u) := trivial
    rw [step] at read
    have inner := blockRest_expand isQuote left.tame near read
    rw [expandChars_cons other, expandChars_cons other, step, dropped]
    exact ⟨inner.read, ((left.trans inner.left).cons other).cons other⟩
  · have line (u : List Char) : s ≠ quote :: quote :: u := fun same => block ⟨u, same⟩
    have near : LineNear .plain s := trivial
    rw [readString_of_line line] at read
    have inner := lineRest_expand isQuote tame near read
    refine ⟨?_, inner.left⟩
    rw [readString_of_line, inner.read]
    -- Two quotes in a row would end the string with a quote after it.
    intro u same
    have read' := inner.read
    rw [same, lineRest, if_pos rfl] at read'
    have ends := (Prod.mk.inj (Option.some.inj read')).2
    cases rest with
    | nil =>
        rw [expandChars_nil] at ends
        cases ends
    | cons c rest =>
        obtain ⟨notDollar, notQuote⟩ := settled c rfl
        rw [expandChars_cons notDollar] at ends
        exact notQuote (List.cons.inj ends).1.symm

end

end ChequeTeller.Settings
