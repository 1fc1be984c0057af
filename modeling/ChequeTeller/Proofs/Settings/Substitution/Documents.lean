import ChequeTeller.Proofs.Settings.Substitution.Words
import ChequeTeller.Proofs.Toml.Tree

/-!
Values and lines of expanded text. If no key holds a dollar sign, what is read from a tame text is
read from the expanded text too, with all strings in it expanded. What is then made of the document
is left apart.
-/

namespace ChequeTeller.Settings

open Toml

variable {vars : Variables} {blocks : Bool} {s rest : List Char}

/-! What values start with, and what may follow them. -/

theorem readScalar_dollar (s : List Char) : readScalar ('$' :: s) = none := by
  rfl

theorem head?_of_readValue {fuel depth : Nat} {v : Value}
    (read : readValue fuel depth s = some (v, rest)) : s.head? ≠ some '$' := by
  intro head
  obtain ⟨t, rfl⟩ := List.head?_eq_some_iff.mp head
  cases fuel with
  | zero => cases read
  | succ fuel =>
      simp [readValue, readScalar_dollar] at read

theorem skipGap_skipBlanks (s : List Char) : skipGap false (skipBlanks s) = skipGap false s := by
  induction s with
  | nil => rfl
  | cons c s ih =>
      by_cases blank : isBlank c = true
      · have notFeed : c ≠ '\n' := by
          rintro rfl
          cases blank
        have notReturn : c ≠ '\r' := by
          rintro rfl
          cases blank
        rw [skipBlanks, List.dropWhile_cons_of_pos blank,
          skipGap_cons notFeed (fun same => absurd same notReturn), if_neg Bool.false_ne_true,
          if_pos blank]
        exact ih
      · rw [skipBlanks_cons (by simpa using blank)]

theorem settled_of_skipGap (read : skipGap false s = some rest)
    (ends : ∀ c, rest.head? = some c → c ≠ '$' ∧ c ≠ '\x22' ∧ c ≠ '\x27') : Settled s := by
  intro c head
  obtain ⟨t, skipped⟩ := List.head?_eq_some_iff.mp head
  rw [← skipGap_skipBlanks, skipped] at read
  -- Each of these is left as it is, and would be the first that is left.
  refine ⟨?_, ?_, ?_⟩ <;> rintro rfl <;> cases read
  · exact (ends _ rfl).1 rfl
  · exact (ends _ rfl).2.1 rfl
  · exact (ends _ rfl).2.2 rfl

theorem mapText_of_scalar {word : List Char} {v : Value} (f : String → String)
    (scalar : scalar? word = some v) : v.mapText f = v := by
  unfold scalar? at scalar
  split_ifs at scalar
  iterate 4 (cases scalar; rfl)
  obtain ⟨n, -, rfl⟩ := Option.map_eq_some_iff.mp scalar
  rfl

/-! Values. -/

/-- No key among these holds a dollar sign. -/
def Undollared (keys : List String) : Prop :=
  ∀ key ∈ keys, '$' ∉ key.toList

def ValueCarries (vars : Variables) (blocks : Bool) (fuel : Nat) : Prop :=
  ∀ {depth : Nat} {s rest : List Char} {v : Value}, Tame vars blocks s → Settled rest →
    Undollared v.keys → readValue fuel depth s = some (v, rest) →
    ∀ {fuel' : Nat}, 2 * (expandChars vars s).length < fuel' →
      readValue fuel' depth (expandChars vars s) =
        some (v.mapText (expand vars), expandChars vars rest) ∧ Left vars blocks s rest

def ItemsCarry (vars : Variables) (blocks : Bool) (fuel : Nat) : Prop :=
  ∀ {depth : Nat} {s rest : List Char} {vs : List Value}, Tame vars blocks s →
    Undollared (textKeys vs) → readItems fuel depth s = some (vs, rest) →
    ∀ {fuel' : Nat}, 2 * (expandChars vars s).length + 1 < fuel' →
      readItems fuel' depth (expandChars vars s) =
        some (mapTexts (expand vars) vs, expandChars vars rest) ∧ Left vars blocks s rest

def MembersCarry (vars : Variables) (blocks : Bool) (fuel : Nat) : Prop :=
  ∀ {depth : Nat} {s rest : List Char} {ms : List (List String × Value)}, Tame vars blocks s →
    (∀ m ∈ ms, Undollared (m.1 ++ m.2.keys)) → readMembers fuel depth s = some (ms, rest) →
    ∀ {fuel' : Nat}, 2 * (expandChars vars s).length + 1 < fuel' →
      readMembers fuel' depth (expandChars vars s) =
        some (ms.map (Prod.map id (Value.mapText (expand vars))), expandChars vars rest) ∧
          Left vars blocks s rest

theorem expand_ofList (t : List Char) :
    expand vars (String.ofList t) = String.ofList (expandChars vars t) := by
  rw [expand, String.toList_ofList]

theorem head?_of_readKey {keys : List String} (read : readKey s = some (keys, rest)) :
    s.head? ≠ some '$' := by
  intro head
  obtain ⟨t, skipped⟩ := List.head?_eq_some_iff.mp (head?_skipBlanks_of_dollar head)
  obtain ⟨read, -⟩ := Option.filter_eq_some_iff.mp read
  cases s with
  | nil => cases read
  | cons c s =>
      obtain ⟨⟨key, after⟩, simple, -⟩ := Option.bind_eq_some_iff.mp read
      rw [skipped] at simple
      cases simple

theorem head?_of_readMembers {fuel depth : Nat} {ms : List (List String × Value)}
    (read : readMembers fuel depth s = some (ms, rest)) : s.head? ≠ some '$' := by
  cases fuel with
  | zero => cases read
  | succ fuel =>
      rw [readMembers] at read
      obtain ⟨⟨keys, after⟩, key, -⟩ := Option.bind_eq_some_iff.mp read
      exact head?_of_readKey key

theorem readTable_expand {fuel fuel' depth : Nat} {v : Value}
    (members : MembersCarry vars blocks fuel) (tame : Tame vars blocks s)
    (free : Undollared v.keys) (read : readValue (fuel + 1) depth ('\x7b' :: s) = some (v, rest))
    (enough : 2 * (expandChars vars s).length + 1 < fuel') :
    readValue (fuel' + 1) depth ('\x7b' :: expandChars vars s) =
        some (v.mapText (expand vars), expandChars vars rest) ∧ Left vars blocks s rest := by
  rw [readValue, if_neg (by decide), if_neg (by decide), if_pos rfl] at read ⊢
  split at read
  · next shallow =>
    rw [if_pos shallow]
    have blanks := tame.left_skipBlanks
    split at read
    · next r closed =>
      cases read
      rw [skipBlanks_expand (by simp [closed]), closed, expandChars_cons (by decide)]
      rw [closed] at blanks
      exact ⟨rfl, (blanks.tail (by decide)).1⟩
    · next open_ =>
      obtain ⟨⟨ms, r⟩, inside, read⟩ := Option.bind_eq_some_iff.mp read
      obtain ⟨record, made, same⟩ := Option.bind_eq_some_iff.mp read
      cases same
      have keys := keys_subset_inlineTable made
      have stops : (skipBlanks s).head? ≠ some '$' := head?_of_readMembers inside
      have shorter := blanks.shorter
      obtain ⟨inside', left⟩ := members blanks.tame
        (fun m mem key here => free key (keys m mem here)) inside
        (show 2 * (expandChars vars (skipBlanks s)).length + 1 < fuel' by omega)
      rw [skipBlanks_expand stops]
      split
      · next closed => exact absurd closed (expandChars_ne_cons stops open_ _)
      · rw [inside', Option.bind_eq_bind, Option.bind_some]
        dsimp only
        rw [inlineTable_map, made]
        exact ⟨rfl, blanks.trans left⟩
  · cases read

theorem valueCarries_succ {fuel : Nat} (items : ItemsCarry vars blocks fuel)
    (members : MembersCarry vars blocks fuel) : ValueCarries vars blocks (fuel + 1) := by
  intro depth s rest v tame settled free read fuel' enough
  obtain ⟨fuel', rfl⟩ := Nat.exists_eq_add_one_of_ne_zero (show fuel' ≠ 0 by omega)
  have other := head?_of_readValue read
  cases s with
  | nil => cases read
  | cons c s =>
      have other : c ≠ '$' := fun same => other (congrArg some same)
      obtain ⟨-, later⟩ := tame.of_cons other
      have whole : expandChars vars (c :: s) = c :: expandChars vars s := expandChars_cons other s
      rw [whole, List.length_cons] at enough
      rw [whole]
      by_cases quoted : c = '\x22' ∨ c = '\x27'
      · rw [readValue, if_pos quoted] at read ⊢
        obtain ⟨⟨t, r⟩, string, same⟩ := Option.map_eq_some_iff.mp read
        cases same
        have after (d : Char) (head : rest.head? = some d) : d ≠ '$' ∧ d ≠ c := by
          obtain ⟨notDollar, notDouble, notSingle⟩ := settled.head head
          refine ⟨notDollar, ?_⟩
          obtain rfl | rfl := quoted
          · exact notDouble
          · exact notSingle
        obtain ⟨string', left⟩ := readString_expand quoted tame after string
        rw [string', Value.mapText, expand_ofList]
        exact ⟨rfl, left.cons other⟩
      by_cases array : c = '['
      · rw [readValue, if_neg quoted, if_pos array] at read ⊢
        split at read
        · next shallow =>
          obtain ⟨⟨vs, r⟩, inside, same⟩ := Option.bind_eq_some_iff.mp read
          cases same
          obtain ⟨inside', left⟩ := items later free inside
            (show 2 * (expandChars vars s).length + 1 < fuel' by omega)
          rw [if_pos shallow, inside']
          exact ⟨rfl, left.cons other⟩
        · cases read
      by_cases table : c = '\x7b'
      · subst table
        obtain ⟨read', left⟩ := readTable_expand members later free read
          (show 2 * (expandChars vars s).length + 1 < fuel' by omega)
        exact ⟨read', left.cons other⟩
      · rw [readValue, if_neg quoted, if_neg array, if_neg table] at read ⊢
        obtain ⟨read', left⟩ := readScalar_expand tame settled read
        obtain ⟨_, scalar, same⟩ := Option.map_eq_some_iff.mp read
        cases same
        rw [← whole, read', mapText_of_scalar _ scalar]
        exact ⟨rfl, left⟩

theorem readItem_expand {fuel fuel' depth : Nat} {item : Value} {after : List Char}
    (value : ValueCarries vars blocks fuel) (tame : Tame vars blocks s)
    (free : Undollared item.keys) (read : readValue fuel depth s = some (item, after))
    (gap : skipGap false after = some rest)
    (ends : ∀ c, rest.head? = some c → c = ',' ∨ c = ']')
    (enough : 2 * (expandChars vars s).length < fuel') :
    readValue fuel' depth (expandChars vars s) =
        some (item.mapText (expand vars), expandChars vars after) ∧
      skipGap false (expandChars vars after) = some (expandChars vars rest) ∧
      Left vars blocks s rest := by
  have settled : Settled after := settled_of_skipGap gap fun c head => by
    obtain rfl | rfl := ends c head <;> decide
  obtain ⟨read', left⟩ := value tame settled free read enough
  obtain ⟨gap', left'⟩ := skipGap_expand left.tame gap fun head => by
    obtain same | same := ends _ head <;> cases same
  exact ⟨read', gap', left.trans left'⟩

theorem itemsCarry_succ {fuel : Nat} (value : ValueCarries vars blocks fuel)
    (items : ItemsCarry vars blocks fuel) : ItemsCarry vars blocks (fuel + 1) := by
  intro depth s rest vs tame free read fuel' enough
  obtain ⟨fuel', rfl⟩ := Nat.exists_eq_add_one_of_ne_zero (show fuel' ≠ 0 by omega)
  rw [readItems] at read ⊢
  obtain ⟨start, gap, read⟩ := Option.bind_eq_some_iff.mp read
  split at read
  · next r =>
    cases read
    obtain ⟨gap', left⟩ := skipGap_expand tame gap (by simp)
    rw [gap', expandChars_cons (by decide)]
    exact ⟨rfl, (left.tail (by decide)).1⟩
  · next more =>
    obtain ⟨⟨item, after⟩, first, read⟩ := Option.bind_eq_some_iff.mp read
    obtain ⟨next, gap', read⟩ := Option.bind_eq_some_iff.mp read
    have stops := head?_of_readValue first
    obtain ⟨gapExpanded, left⟩ := skipGap_expand tame gap stops
    have shorter := left.shorter
    have budget : 2 * (expandChars vars start).length < fuel' := by omega
    rw [gapExpanded, Option.bind_eq_bind, Option.bind_some]
    split
    · next closed => exact absurd closed (expandChars_ne_cons stops more _)
    split at read
    · next r =>
      obtain ⟨⟨vs', r'⟩, others, same⟩ := Option.bind_eq_some_iff.mp read
      cases same
      obtain ⟨first', gap'', left'⟩ := readItem_expand value left.tame
        (fun key mem => free key (List.mem_append_left _ mem)) first gap' (by simp) budget
      obtain ⟨left', shorter'⟩ := left'.tail (by decide)
      obtain ⟨others', left''⟩ := items left'.tame
        (fun key mem => free key (List.mem_append_right _ mem)) others
        (show 2 * (expandChars vars r).length + 1 < fuel' by omega)
      refine ⟨?_, left.trans (left'.trans left'')⟩
      rw [first', Option.bind_eq_bind, Option.bind_some]
      dsimp only
      rw [gap'', Option.bind_some, expandChars_cons (by decide)]
      change (readItems fuel' depth _).bind
        (fun r => some (item.mapText (expand vars) :: r.1, r.2)) = _
      rw [others']
      rfl
    · next r =>
      cases read
      obtain ⟨first', gap'', left'⟩ := readItem_expand value left.tame
        (fun key mem => free key (List.mem_append_left _ mem)) first gap' (by simp) budget
      refine ⟨?_, left.trans (left'.tail (by decide)).1⟩
      rw [first', Option.bind_eq_bind, Option.bind_some]
      dsimp only
      rw [gap'', Option.bind_some, expandChars_cons (by decide)]
      rfl
    · cases read

theorem readKey_before {c : Char} (other : c ≠ '$') (tame : Tame vars blocks s)
    {keys : List String} (free : Undollared keys) (read : readKey s = some (keys, c :: rest)) :
    readKey (expandChars vars s) = some (keys, c :: expandChars vars rest) ∧
      Left vars blocks s rest ∧
      (expandChars vars rest).length < (expandChars vars s).length := by
  have stops : (c :: rest).head? ≠ some '$' := fun head => other (Option.some.inj head)
  obtain ⟨read', left⟩ := readKey_expand tame free stops read
  rw [expandChars_cons other] at read'
  exact ⟨read', left.tail other⟩

theorem readAssigned_expand {fuel fuel' depth : Nat} {v : Value}
    (value : ValueCarries vars blocks fuel) (tame : Tame vars blocks s) (free : Undollared v.keys)
    (settled : Settled rest) (read : readValue fuel depth (skipBlanks s) = some (v, rest))
    (enough : 2 * (expandChars vars s).length < fuel') :
    readValue fuel' depth (skipBlanks (expandChars vars s)) =
        some (v.mapText (expand vars), expandChars vars rest) ∧ Left vars blocks s rest := by
  have blanks := tame.left_skipBlanks
  have shorter := blanks.shorter
  obtain ⟨read', left⟩ := value blanks.tame settled free read
    (show 2 * (expandChars vars (skipBlanks s)).length < fuel' by omega)
  rw [skipBlanks_expand (head?_of_readValue read)]
  exact ⟨read', blanks.trans left⟩

theorem membersCarry_succ {fuel : Nat} (value : ValueCarries vars blocks fuel)
    (members : MembersCarry vars blocks fuel) : MembersCarry vars blocks (fuel + 1) := by
  intro depth s rest ms tame free read fuel' enough
  obtain ⟨fuel', rfl⟩ := Nat.exists_eq_add_one_of_ne_zero (show fuel' ≠ 0 by omega)
  rw [readMembers] at read ⊢
  obtain ⟨⟨keys, after⟩, key, read⟩ := Option.bind_eq_some_iff.mp read
  dsimp only at read
  split at read
  · next assigned =>
    obtain ⟨⟨v, after⟩, first, read⟩ := Option.bind_eq_some_iff.mp read
    dsimp only at read
    have member (free : Undollared (keys ++ v.keys))
        (ends : ∀ c, (skipBlanks after).head? = some c → c = ',' ∨ c = '\x7d') :
        readKey (expandChars vars s) = some (keys, '=' :: expandChars vars assigned) ∧
          readValue fuel' depth (skipBlanks (expandChars vars assigned)) =
            some (v.mapText (expand vars), expandChars vars after) ∧
          skipBlanks (expandChars vars after) = expandChars vars (skipBlanks after) ∧
          Left vars blocks s (skipBlanks after) := by
      have settled : Settled after := fun c head => by
        obtain rfl | rfl := ends c head <;> decide
      obtain ⟨key', left, shorter⟩ := readKey_before (by decide) tame
        (fun key mem => free key (List.mem_append_left _ mem)) key
      obtain ⟨first', left'⟩ := readAssigned_expand value left.tame
        (fun key mem => free key (List.mem_append_right _ mem)) settled first
        (show 2 * (expandChars vars assigned).length < fuel' by omega)
      exact ⟨key', first', skipBlanks_expand settled.skip_ne,
        left.trans (left'.trans left'.tame.left_skipBlanks)⟩
    split at read
    · next r comma =>
      obtain ⟨⟨ms', r'⟩, others, same⟩ := Option.bind_eq_some_iff.mp read
      cases same
      obtain ⟨here, later⟩ := List.forall_mem_cons.mp free
      obtain ⟨key', first', blanks, left⟩ := member here (by simp [comma])
      rw [comma] at blanks left
      rw [expandChars_cons (by decide)] at blanks
      obtain ⟨left, shorter⟩ := left.tail (by decide)
      obtain ⟨others', left'⟩ := members left.tame later others
        (show 2 * (expandChars vars r).length + 1 < fuel' by omega)
      refine ⟨?_, left.trans left'⟩
      rw [key', Option.bind_eq_bind, Option.bind_some]
      change (readValue fuel' depth _).bind _ = _
      rw [first', Option.bind_some]
      dsimp only
      rw [blanks]
      change (readMembers fuel' depth _).bind
        (fun r => some ((keys, v.mapText (expand vars)) :: r.1, r.2)) = _
      rw [others']
      rfl
    · next r brace =>
      cases read
      obtain ⟨key', first', blanks, left⟩ := member (free _ List.mem_cons_self) (by simp [brace])
      rw [brace] at blanks left
      rw [expandChars_cons (by decide)] at blanks
      refine ⟨?_, (left.tail (by decide)).1⟩
      rw [key', Option.bind_eq_bind, Option.bind_some]
      change (readValue fuel' depth _).bind _ = _
      rw [first', Option.bind_some]
      dsimp only
      rw [blanks]
      rfl
    · cases read
  · cases read

/-- Values, items and members are read within each other, so one induction is for all of them. -/
theorem carry (vars : Variables) (blocks : Bool) (fuel : Nat) :
    ValueCarries vars blocks fuel ∧ ItemsCarry vars blocks fuel ∧
      MembersCarry vars blocks fuel := by
  induction fuel with
  | zero =>
      refine ⟨?_, ?_, ?_⟩
      · intro _ _ _ _ _ _ _ read
        cases read
      · intro _ _ _ _ _ _ read
        cases read
      · intro _ _ _ _ _ _ read
        cases read
  | succ fuel ih =>
      obtain ⟨value, items, members⟩ := ih
      exact ⟨valueCarries_succ items members, itemsCarry_succ value items,
        membersCarry_succ value members⟩

/-! Lines. -/

/-- A line that is neither blank nor a header. -/
def readMember (s : List Char) : Option (Option Expression × List Char) := do
  match ← readKey s with
  | (key, '=' :: rest) =>
    let (value, rest) ← readValue (2 * rest.length + 2) 0 (skipBlanks rest)
    return (some (.member key value), ← readLineEnd rest)
  | _ => none

def readHeader (s : List Char) : Option (Option Expression × List Char) := do
  match ← readKey s with
  | (path, ']' :: rest) => return (some (.header path), ← readLineEnd rest)
  | _ => none

def readArrayHeader (s : List Char) : Option (Option Expression × List Char) := do
  match ← readKey s with
  | (path, ']' :: ']' :: rest) => return (some (.arrayHeader path), ← readLineEnd rest)
  | _ => none

def readBlank (s : List Char) : Option (Option Expression × List Char) := do
  let rest ← readLineEnd s
  return (none, rest)

/-- A line by what it starts with, and the text that it starts. -/
def readLine (s : List Char) : List Char → Option (Option Expression × List Char)
  | [] | '#' :: _ | '\n' :: _ | '\r' :: _ => readBlank s
  | '[' :: '[' :: cs => readArrayHeader cs
  | '[' :: cs => readHeader cs
  | cs => readMember cs

theorem readLine_header (single : ∀ t, rest ≠ '[' :: t) :
    readLine s ('[' :: rest) = readHeader rest := by
  unfold readLine
  split
  case h_6 same =>
      cases same
      rfl
  case h_5 same =>
      cases same
      exact absurd rfl (single _)
  case h_7 none => exact absurd rfl (none rest)
  all_goals next same => cases same

theorem readLine_member {c : Char} (other : c ∉ ['#', '\n', '\r', '[']) :
    readLine s (c :: rest) = readMember (c :: rest) := by
  unfold readLine
  split
  all_goals first
    | rfl
    | next same => cases same <;> simp at other

theorem readExpression_eq (s : List Char) : readExpression s = readLine s (skipBlanks s) := by
  unfold readExpression
  split
  case h_6 single line =>
      rw [line, readLine_header single]
      rfl
  case h_7 empty comment feed returned _ header =>
      obtain ⟨c, t, line⟩ := List.exists_cons_of_ne_nil empty
      rw [line, readLine_member]
      · rfl
      · simp only [List.mem_cons, List.not_mem_nil, or_false]
        rintro (rfl | rfl | rfl | rfl)
        · exact comment t line
        · exact feed t line
        · exact returned t line
        · exact header t line
  all_goals
    next line =>
      rw [line]
      rfl

/-- In the expanded text a line is read to where it ends in the text, with its strings expanded. -/
structure LineCarries (vars : Variables) (blocks : Bool)
    (reader : List Char → Option (Option Expression × List Char)) (s rest : List Char)
    (e : Option Expression) : Prop where
  read : reader (expandChars vars s) =
    some (e.map (Expression.mapText (expand vars)), expandChars vars rest)
  left : Left vars blocks s rest
  shorter : s ≠ [] → (expandChars vars rest).length < (expandChars vars s).length

variable {e : Option Expression}

theorem readBlank_expand (tame : Tame vars blocks s) (read : readBlank s = some (e, rest)) :
    LineCarries vars blocks readBlank s rest e := by
  obtain ⟨r, ends, same⟩ := Option.bind_eq_some_iff.mp read
  cases same
  obtain ⟨ends', left, shorter⟩ := readLineEnd_expand tame ends
  refine ⟨?_, left, shorter⟩
  rw [readBlank, ends']
  rfl

theorem readMember_expand (tame : Tame vars blocks s)
    (free : ∀ e' ∈ e, Undollared e'.keys) (read : readMember s = some (e, rest)) :
    LineCarries vars blocks readMember s rest e := by
  obtain ⟨⟨keys, after⟩, key, read⟩ := Option.bind_eq_some_iff.mp read
  dsimp only at read
  split at read
  · next assigned same =>
    cases same
    obtain ⟨⟨v, after⟩, first, read⟩ := Option.bind_eq_some_iff.mp read
    obtain ⟨r, ends, same⟩ := Option.bind_eq_some_iff.mp read
    cases same
    have free := free _ rfl
    obtain ⟨key', left, shorter⟩ := readKey_before (by decide) tame
      (fun key mem => free key (List.mem_append_left _ mem)) key
    obtain ⟨value, -, -⟩ := carry vars blocks (2 * assigned.length + 2)
    obtain ⟨first', left'⟩ := readAssigned_expand value left.tame
      (fun key mem => free key (List.mem_append_right _ mem)) (settled_of_readLineEnd ends) first
      (show 2 * (expandChars vars assigned).length <
        2 * (expandChars vars assigned).length + 2 by omega)
    obtain ⟨ends', left'', -⟩ := readLineEnd_expand left'.tame ends
    have inside := left'.trans left''
    refine ⟨?_, left.trans inside, fun _ => Nat.lt_of_le_of_lt inside.shorter shorter⟩
    rw [readMember, key', Option.bind_eq_bind, Option.bind_some]
    change (readValue (2 * (expandChars vars assigned).length + 2) 0 _).bind _ = _
    rw [first', Option.bind_some]
    dsimp only
    rw [ends']
    rfl
  · cases read

theorem readHeader_expand (tame : Tame vars blocks s)
    (free : ∀ e' ∈ e, Undollared e'.keys) (read : readHeader s = some (e, rest)) :
    LineCarries vars blocks readHeader s rest e := by
  obtain ⟨⟨path, after⟩, key, read⟩ := Option.bind_eq_some_iff.mp read
  split at read
  · next closed same =>
    cases same
    obtain ⟨r, ends, same⟩ := Option.bind_eq_some_iff.mp read
    cases same
    obtain ⟨key', left, shorter⟩ := readKey_before (by decide) tame (free _ rfl) key
    obtain ⟨ends', left', -⟩ := readLineEnd_expand left.tame ends
    refine ⟨?_, left.trans left', fun _ => Nat.lt_of_le_of_lt left'.shorter shorter⟩
    rw [readHeader, key', Option.bind_eq_bind, Option.bind_some]
    change (readLineEnd _).bind _ = _
    rw [ends']
    rfl
  · cases read

theorem readArrayHeader_expand (tame : Tame vars blocks s)
    (free : ∀ e' ∈ e, Undollared e'.keys) (read : readArrayHeader s = some (e, rest)) :
    LineCarries vars blocks readArrayHeader s rest e := by
  obtain ⟨⟨path, after⟩, key, read⟩ := Option.bind_eq_some_iff.mp read
  split at read
  · next closed same =>
    cases same
    obtain ⟨r, ends, same⟩ := Option.bind_eq_some_iff.mp read
    cases same
    obtain ⟨key', left, -⟩ := readKey_before (by decide) tame (free _ rfl) key
    obtain ⟨left, shorter⟩ := left.tail (by decide)
    obtain ⟨ends', left', -⟩ := readLineEnd_expand left.tame ends
    refine ⟨?_, left.trans left', fun _ => Nat.lt_of_le_of_lt left'.shorter shorter⟩
    rw [readArrayHeader, key', expandChars_cons (by decide), Option.bind_eq_bind,
      Option.bind_some]
    change (readLineEnd _).bind _ = _
    rw [ends']
    rfl
  · cases read

theorem head?_of_readLine {line : List Char} (read : readLine s line = some (e, rest)) :
    line.head? ≠ some '$' := by
  intro head
  obtain ⟨t, rfl⟩ := List.head?_eq_some_iff.mp head
  rw [readLine_member (by decide), readMember] at read
  obtain ⟨⟨keys, after⟩, key, -⟩ := Option.bind_eq_some_iff.mp read
  exact head?_of_readKey key head

theorem readExpression_expand (tame : Tame vars blocks s)
    (free : ∀ e' ∈ e, Undollared e'.keys) (read : readExpression s = some (e, rest)) :
    LineCarries vars blocks readExpression s rest e := by
  rw [readExpression_eq] at read
  have stops := head?_of_readLine read
  have blanks := tame.left_skipBlanks
  have expanded : readExpression (expandChars vars s) =
      readLine (expandChars vars s) (expandChars vars (skipBlanks s)) := by
    rw [readExpression_eq, skipBlanks_expand stops]
  generalize skipBlanks s = line at read stops blanks expanded
  have blank (read : readBlank s = some (e, rest))
      (same : readExpression (expandChars vars s) = readBlank (expandChars vars s)) :
      LineCarries vars blocks readExpression s rest e := by
    obtain ⟨read', left, shorter⟩ := readBlank_expand tame read
    exact ⟨same.trans read', left, shorter⟩
  have started {cs : List Char} {reader : List Char → Option (Option Expression × List Char)}
      (left : Left vars blocks s ('[' :: cs)) (inner : LineCarries vars blocks reader cs rest e)
      (same : readExpression (expandChars vars s) = reader (expandChars vars cs)) :
      LineCarries vars blocks readExpression s rest e := by
    obtain ⟨left, shorter⟩ := left.tail (by decide)
    exact ⟨same.trans inner.read, left.trans inner.left,
      fun _ => Nat.lt_of_le_of_lt inner.left.shorter shorter⟩
  unfold readLine at read
  split at read
  case h_1 => exact blank read (by rw [expanded, expandChars_nil]; rfl)
  case h_2 | h_3 | h_4 => exact blank read (by rw [expanded, expandChars_cons (by decide)]; rfl)
  case h_5 =>
      have inside := (blanks.tail (by decide)).1
      refine started inside
        (readArrayHeader_expand (inside.tame.of_cons (by decide)).2 free read) ?_
      rw [expanded, expandChars_cons (by decide), expandChars_cons (by decide)]
      rfl
  case h_6 cs single =>
      have inner := readHeader_expand (blanks.tame.of_cons (by decide)).2 free read
      obtain ⟨⟨path, after⟩, key, -⟩ := Option.bind_eq_some_iff.mp read
      refine started blanks inner ?_
      rw [expanded, expandChars_cons (by decide),
        readLine_header (expandChars_ne_cons (head?_of_readKey key) single)]
  case h_7 empty comment feed returned _ header =>
      obtain ⟨c, t, rfl⟩ := List.exists_cons_of_ne_nil empty
      have other : c ≠ '$' := fun same => stops (congrArg some same)
      have inner := readMember_expand blanks.tame free read
      refine ⟨?_, blanks.trans inner.left, fun _ =>
        Nat.lt_of_lt_of_le (inner.shorter (List.cons_ne_nil _ _)) blanks.shorter⟩
      rw [expanded, expandChars_cons other, readLine_member, ← expandChars_cons other, inner.read]
      simp only [List.mem_cons, List.not_mem_nil, or_false]
      rintro (rfl | rfl | rfl | rfl)
      · exact comment t rfl
      · exact feed t rfl
      · exact returned t rfl
      · exact header t rfl

theorem readExpressions_succ (filled : s ≠ []) (fuel : Nat) :
    readExpressions (fuel + 1) s =
      (readExpression s).bind fun (e, rest) =>
        (readExpressions fuel rest).map (e.toList ++ ·) := by
  rw [readExpressions]
  · cases readExpression s with
    | none => rfl
    | some read => cases h : readExpressions fuel read.2 <;> simp [h]
  · exact filled

theorem head?_of_readExpressions {fuel : Nat} {es : List Expression}
    (read : readExpressions fuel s = some es) : s.head? ≠ some '$' := by
  intro head
  have filled : s ≠ [] := by
    rintro rfl
    cases head
  cases fuel with
  | zero =>
      unfold readExpressions at read
      cases read
  | succ fuel =>
      rw [readExpressions_succ filled] at read
      obtain ⟨⟨e, after⟩, first, -⟩ := Option.bind_eq_some_iff.mp read
      rw [readExpression_eq] at first
      exact head?_of_readLine first (head?_skipBlanks_of_dollar head)

theorem readExpressions_expand (tame : Tame vars blocks s) {fuel : Nat} {es : List Expression}
    (free : ∀ e ∈ es, Undollared e.keys) (read : readExpressions fuel s = some es) {fuel' : Nat}
    (enough : (expandChars vars s).length < fuel') :
    readExpressions fuel' (expandChars vars s) =
      some (es.map (Expression.mapText (expand vars))) := by
  induction fuel generalizing s es fuel' with
  | zero => cases s <;> cases read
  | succ fuel ih =>
      obtain ⟨fuel', rfl⟩ := Nat.exists_eq_add_one_of_ne_zero (show fuel' ≠ 0 by omega)
      have stops := head?_of_readExpressions read
      by_cases filled : s = []
      · subst filled
        cases read
        rw [expandChars_nil]
        rfl
      rw [readExpressions_succ filled] at read
      obtain ⟨⟨e, after⟩, first, read⟩ := Option.bind_eq_some_iff.mp read
      obtain ⟨es', others, rfl⟩ := Option.map_eq_some_iff.mp read
      have line := readExpression_expand tame
        (fun e' mem => free e' (List.mem_append_left _ (Option.mem_toList.mpr mem))) first
      have shorter := line.shorter filled
      have others' := ih line.left.tame (fun e' mem => free e' (List.mem_append_right _ mem)) others
        (show (expandChars vars after).length < fuel' by omega)
      rw [readExpressions_succ (expandChars_ne_nil filled stops), line.read, Option.bind_some]
      dsimp only
      rw [others', List.map_append]
      cases e <;> rfl

def dropMark : List Char → List Char
  | '\uFEFF' :: s => s
  | s => s

theorem parse_eq (text : String) :
    Toml.parse text =
      (readExpressions ((dropMark text.toList).length + 1) (dropMark text.toList)).bind
        document := rfl

theorem dropMark_expand (tame : Tame vars blocks s) (stops : (dropMark s).head? ≠ some '$') :
    dropMark (expandChars vars s) = expandChars vars (dropMark s) ∧
      Tame vars blocks (dropMark s) := by
  by_cases mark : ∃ t, s = '\uFEFF' :: t
  · obtain ⟨t, rfl⟩ := mark
    rw [expandChars_cons (by decide)]
    exact ⟨rfl, (tame.of_cons (by decide)).2⟩
  · have same {s : List Char} (noMark : ∀ t, s ≠ '\uFEFF' :: t) : dropMark s = s := by
      unfold dropMark
      split
      · exact absurd rfl (noMark _)
      · rfl
    have noMark (t : List Char) : s ≠ '\uFEFF' :: t := fun same => mark ⟨t, same⟩
    rw [same noMark] at stops ⊢
    exact ⟨same (expandChars_ne_cons stops noMark), tame⟩

/-- If no key of the document holds a dollar sign, it is read from the expanded text too, with all
strings in it expanded. -/
theorem parse_expand {text : String} (tame : Tame vars blocks text.toList)
    {record : List (String × Value)} (free : Undollared (memberKeys record))
    (read : Toml.parse text = some record) :
    Toml.parse (expand vars text) = some (mapMembers (expand vars) record) := by
  rw [parse_eq] at read
  obtain ⟨es, lines, made⟩ := Option.bind_eq_some_iff.mp read
  have keys := keys_subset_document made
  obtain ⟨marked, tame⟩ := dropMark_expand tame (head?_of_readExpressions lines)
  have inside (e : Expression) (mem : e ∈ es) : Undollared e.keys :=
    fun key here => free key (keys e mem here)
  have lines' := readExpressions_expand tame inside lines (Nat.lt_succ_self _)
  rw [parse_eq, expand, String.toList_ofList, marked, lines', Option.bind_some, document_map, made]
  rfl

end ChequeTeller.Settings
