import ChequeTeller.Proofs.Net.Address
import ChequeTeller.Proofs.Settings.Substitution.Documents
import ChequeTeller.Proofs.Settings.Texts

/-!
Settings in expanded text. Variables are expanded in a document's text and not in its strings, which
comes to the same if no reference, and nothing that stands for one, means anything in TOML. Of the
settings only the four texts are then expanded. What other references and values do to a document is
left apart.
-/

namespace ChequeTeller.Settings

open Toml Toml.Value

variable {vars : Variables} {blocks : Bool} {s : List Char} {ps : List Piece}

/-! Harmless references. -/

/-- A stretch for which something else stands if a variable is set. -/
def Piece.IsReference : Piece → Prop
  | .plain _ => False
  | .bare _ | .braced _ | .unclosed _ => True

instance : DecidablePred Piece.IsReference
  | .plain _ => .isFalse id
  | .bare _ | .braced _ | .unclosed _ => .isTrue trivial

/-- The references of a text, and what stands for them, can only be content of its strings and
comments. -/
structure Inert (vars : Variables) (blocks : Bool) (s : List Char) (ps : List Piece) : Prop where
  content : ∀ p ∈ ps, p.IsReference → (p.text ++ p.expanded vars).all isContent = true
  /-- What is empty leaves two quotes side by side, which matters where three begin a block. -/
  filled : blocks = true → ∀ p ∈ ps, p.expanded vars ≠ []
  single : blocks = false → ∀ quote ∈ ['\x22', '\x27'], ¬ [quote, quote, quote] <:+: s
  /-- Dollar signs and names are written as such, and on one line. -/
  escapes : ∀ c ∈ farEscapes, ¬ ['\\', c] <:+: s

/-- A document in which references are content of strings and comments, and so is what stands for
them. -/
structure Harmless (vars : Variables) (text : String) : Prop where
  inert : ∃ blocks ps, Reads text.toList ps ∧ Inert vars blocks text.toList ps
  keys : ∀ record, Toml.parse text = some record → Undollared (memberKeys record)

theorem Inert.tail {whole : List Char} {p : Piece} (inert : Inert vars blocks whole (p :: ps))
    (suffix : s <:+ whole) : Inert vars blocks s ps where
  content q mem := inert.content q (List.mem_cons_of_mem _ mem)
  filled on q mem := inert.filled on q (List.mem_cons_of_mem _ mem)
  single off quote mem has := inert.single off quote mem (has.trans suffix.isInfix)
  escapes c mem has := inert.escapes c mem (has.trans suffix.isInfix)

theorem Inert.stands {c : Char} (inert : Inert vars blocks (c :: s) ps) : Stands blocks c s where
  escape := by
    rintro rfl d head far
    obtain ⟨t, rfl⟩ := List.head?_eq_some_iff.mp head
    exact inert.escapes d far ⟨[], t, rfl⟩
  single := by
    rintro off isQuote t rfl
    refine inert.single off c ?_ ⟨[], t, rfl⟩
    simpa using isQuote

theorem Inert.reference {p : Piece} (inert : Inert vars blocks s (p :: ps)) (isRef : p.IsReference)
    {name : List Char} (text : p.text = '$' :: name) :
    (∀ c ∈ name, isContent c = true) ∧ (∀ c ∈ p.expanded vars, isContent c = true) ∧
      (blocks = true → p.expanded vars ≠ []) := by
  have all := List.all_eq_true.mp (inert.content p List.mem_cons_self isRef)
  refine ⟨fun c mem => all c ?_, fun c mem => all c (List.mem_append_right _ mem),
    fun on => inert.filled on p List.mem_cons_self⟩
  rw [text]
  exact List.mem_append_left _ (List.mem_cons_of_mem _ mem)

theorem Reads.append {front : List Char} (plain : '$' ∉ front) (later : Reads s ps) :
    Reads (front ++ s) (front.map .plain ++ ps) := by
  induction front with
  | nil => exact later
  | cons c front ih =>
      obtain ⟨other, plain⟩ := List.ne_and_not_mem_of_not_mem_cons plain
      exact .plain other.symm (ih plain)

/-- What ends a name ends it in what follows, too. -/
theorem Follows.ends {t : List Char} (follows : Follows s t) {stops : Char → Prop}
    (ends : ∀ c, s.head? = some c → stops c) (also : ∀ c, isEnd c = true → stops c) (c : Char)
    (head : t.head? = some c) : stops c :=
  (follows c head).2.elim (also c) (ends c)

theorem isEnd_iff {c : Char} :
    isEnd c = true ↔ isNameChar c = false ∧ c ≠ '\x7b' ∧ c ≠ '$' := by
  simp [isEnd, and_assoc]

theorem tame_of_reads (reads : Reads s ps) (inert : Inert vars blocks s ps) :
    Tame vars blocks s := by
  induction reads with
  | nil => exact .nil
  | @plain c s _ other _ ih =>
      exact .plain other inert.stands (ih (inert.tail (List.suffix_cons c s)))
  | @lone s _ ends _ ih =>
      have later := ih (inert.tail (List.suffix_cons '$' s))
      have isDollar : ∀ c ∈ ['$'], isContent c = true := List.forall_mem_singleton.mpr rfl
      refine @Tame.reference _ _ [] ['$'] s nofun isDollar nofun (fun t follows => ?_) later
      refine expandChars_lone (follows.ends ends fun c stop => ?_)
      exact ⟨(isEnd_iff.mp stop).2.1, (isEnd_iff.mp stop).1⟩
  | @bare name s _ filled inside ends _ ih =>
      have later := ih (inert.tail ((List.suffix_append name s).trans (List.suffix_cons _ _)))
      obtain ⟨content, content', something⟩ := inert.reference trivial rfl
      refine .reference content content' something (fun t follows => ?_) later
      exact expandChars_bare filled inside (follows.ends ends fun c stop => (isEnd_iff.mp stop).1)
  | @braced name s _ inside _ ih =>
      have whole (t : List Char) : '$' :: (('\x7b' :: (name ++ ['\x7d'])) ++ t) =
          '$' :: '\x7b' :: (name ++ '\x7d' :: t) := by simp
      rw [← whole] at inert ⊢
      have later := ih (inert.tail ((List.suffix_append _ s).trans (List.suffix_cons _ _)))
      obtain ⟨content, content', something⟩ := inert.reference trivial rfl
      refine .reference content content' something (fun t _ => ?_) later
      rw [whole, expandChars_braced inside]
  | @unclosed rest never =>
      obtain ⟨content, content', something⟩ := inert.reference trivial rfl
      rw [← List.append_nil ('\x7b' :: rest)]
      refine .reference content content' something (fun t follows => ?_) .nil
      have nothing : t = [] := by
        cases t with
        | nil => rfl
        | cons c t => exact absurd rfl (follows c rfl).1
      rw [nothing, List.append_nil, expandChars_unclosed never, expandChars_nil, List.append_nil]

theorem Harmless.tame {text : String} (harmless : Harmless vars text) :
    ∃ blocks, Tame vars blocks text.toList := by
  obtain ⟨blocks, ps, reads, inert⟩ := harmless.inert
  exact ⟨blocks, tame_of_reads reads inert⟩

/-! What is read from the expanded text. -/

/-- No address has a dollar sign in it. -/
theorem asAddress?_expand {v : Value} {a : Net.Address} (read : v.asAddress? = some a) :
    (v.mapText (expand vars)).asAddress? = some a := by
  obtain ⟨text, isText, read'⟩ := Option.bind_eq_some_iff.mp read
  rw [asAddress?, asText?_mapText, isText, Option.map_some, Option.bind_some, expand,
    expandChars_of_not_mem, String.ofList_toList, read']
  intro dollar
  cases Net.Address.isAddressText_of_ofText? read' '$' dollar

theorem host_expand {record : List (String × Value)} {a : Net.Address}
    (read : fieldOr? record "host" asAddress? (.v4 ⟨0, 0, 0, 0⟩) = some a) :
    fieldOr? (mapMembers (expand vars) record) "host" asAddress? (.v4 ⟨0, 0, 0, 0⟩) = some a := by
  rw [fieldOr?] at read ⊢
  rw [lookup_mapMembers]
  cases found : record.lookup "host" with
  | none => rwa [found] at read
  | some v =>
      rw [found] at read
      exact asAddress?_expand read

theorem ofRecord?_expand {record : List (String × Value)} {s : Settings}
    (read : ofRecord? record = some s) :
    ofRecord? (mapMembers (expand vars) record) =
      some { s with lightning := s.lightning.mapText (expand vars) } := by
  simp only [ofRecord?, Option.bind_eq_bind, Option.bind_eq_some_iff, Option.pure_def] at read
  obtain ⟨host, readHost, port, readPort, lightning, readLightning, terms, readTerms, ⟨⟩⟩ := read
  simp only [ofRecord?, Option.bind_eq_bind, host_expand readHost,
    fieldOr?_mapMembers_same asWord16?_mapText, readPort,
    field?_mapMembers LightningSettings.ofToml?_mapText, readLightning,
    fieldOr?_mapMembers_same Terms.ofToml?_mapText, readTerms, Option.map_some, Option.bind_some,
    Option.pure_def]

/-- Where references are content of strings and comments, and so is what stands for them, reading
the expanded text yields the settings of the text, with their texts expanded. -/
theorem parse_expanded_of_harmless {text : String} {s : Settings} (harmless : Harmless vars text)
    (read : parse? (fun _ => none) text = some s) :
    parse? vars text = some { s with lightning := s.lightning.mapText (expand vars) } := by
  rw [parse?, expand_of_unset fun _ => rfl] at read
  obtain ⟨record, parsed, fields⟩ := Option.bind_eq_some_iff.mp read
  obtain ⟨blocks, tame⟩ := harmless.tame
  rw [parse?, parse_expand tame (harmless.keys record parsed) parsed, Option.bind_some,
    ofRecord?_expand fields]

theorem parse_expanded_of_nodeName :
    let vars : Variables := fun name => if name = "NODE" then some "node.example" else none
    let text := "[lightning]\nbase_url = \"https://$NODE:8080\""
    Harmless vars text ∧
      parse? (fun _ => none) text =
        some { lightning := { baseUrl := "https://$NODE:8080" } } ∧
      parse? vars text = some { lightning := { baseUrl := "https://node.example:8080" } } := by
  intro vars text
  let front := "[lightning]\nbase_url = \"https://".toList
  let back := ":8080\"".toList
  have reads : Reads (front ++ '$' :: ("NODE".toList ++ (back ++ []))) _ :=
    .append (by decide) (.bare (by decide) (List.all_eq_true.mp rfl) (by rintro c ⟨⟩; rfl)
      (.append (by decide) .nil))
  have whole : front ++ '$' :: ("NODE".toList ++ (back ++ [])) = text.toList := by decide +kernel
  rw [whole] at reads
  have keys : (Toml.parse text).map memberKeys = some ["lightning", "base_url"] := by
    decide +kernel
  have harmless : Harmless vars text := by
    refine ⟨⟨true, _, reads, ?_⟩, ?_⟩
    · refine ⟨by decide +kernel, by decide +kernel, nofun, ?_⟩
      simp only [farEscapes, List.forall_mem_cons, List.not_mem_nil, false_imp_iff, implies_true]
      decide +kernel
    · intro record parsed key mem
      rw [parsed] at keys
      rw [Option.some.inj keys] at mem
      revert key
      decide
  have read : parse? (fun _ => none) text =
      some { lightning := { baseUrl := "https://$NODE:8080" } } := by
    decide +kernel
  exact ⟨harmless, read, (parse_expanded_of_harmless harmless read).trans (by decide +kernel)⟩

/-- The value of a variable may end the string it stands in. It can then make a document
unreadable, and state another setting. -/
theorem parse_of_quote_in_value :
    let vars (value : String) : Variables := fun name => if name = "M" then some value else none
    let text := "[lightning]\nbase_url = \"https://node\"\nmacaroon_hex = \"$M\""
    let settings (macaroon : String) (timeout : UInt64) : Settings :=
      { lightning :=
        { baseUrl := "https://node", macaroonHex := some macaroon, timeoutSecs := timeout } }
    parse? (fun _ => none) text = some (settings "$M" 60) ∧
      parse? (vars "02\"01") text = none ∧
      parse? (vars "0201\"\ntimeout_secs = 5 #") text = some (settings "0201" 5) := by
  decide +kernel

end ChequeTeller.Settings
