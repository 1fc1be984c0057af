import ChequeTeller.Toml.Tree
import Mathlib.Data.List.Basic

/-!
What the tables of a document hold. The texts among its values do not bear on how the tables come
out: with other texts in their places the tables are the same but for these. The keys that lines
name are all there in the end. Which lines go together at all is left apart.
-/

namespace ChequeTeller.Toml

/-! Texts in the place of others. -/

mutual

/-- The value with its texts replaced at any depth. Keys stay as they are. -/
def Value.mapText (f : String → String) : Value → Value
  | .string text => .string (f text)
  | .integer n => .integer n
  | .float text => .float text
  | .bool b => .bool b
  | .dateTime text => .dateTime text
  | .array items => .array (mapTexts f items)
  | .table members => .table (mapMembers f members)

def mapTexts (f : String → String) : List Value → List Value
  | [] => []
  | v :: vs => v.mapText f :: mapTexts f vs

def mapMembers (f : String → String) : List (String × Value) → List (String × Value)
  | [] => []
  | (key, v) :: rest => (key, v.mapText f) :: mapMembers f rest

end

mutual

def Item.mapText (f : String → String) : Item → Item
  | .value v => .value (v.mapText f)
  | .table kind members => .table kind (mapItems f members)
  | .tables all => .tables (mapTables f all)

def mapItems (f : String → String) : Members → Members
  | [] => []
  | (key, item) :: rest => (key, item.mapText f) :: mapItems f rest

def mapTables (f : String → String) : List Members → List Members
  | [] => []
  | members :: rest => mapItems f members :: mapTables f rest

end

section

variable (f : String → String)

theorem mapTexts_eq (vs : List Value) : mapTexts f vs = vs.map (Value.mapText f) := by
  induction vs with
  | nil => rfl
  | cons v vs ih => rw [mapTexts, ih, List.map_cons]

theorem mapMembers_eq (ms : List (String × Value)) :
    mapMembers f ms = ms.map (Prod.map id (Value.mapText f)) := by
  induction ms with
  | nil => rfl
  | cons m ms ih => rw [mapMembers, ih, List.map_cons, Prod.map, id]

theorem mapItems_eq (ms : Members) : mapItems f ms = ms.map (Prod.map id (Item.mapText f)) := by
  induction ms with
  | nil => rfl
  | cons m ms ih => rw [mapItems, ih, List.map_cons, Prod.map, id]

theorem mapTables_eq (all : List Members) : mapTables f all = all.map (mapItems f) := by
  induction all with
  | nil => rfl
  | cons ms all ih => rw [mapTables, ih, List.map_cons]

theorem lookup_map_snd {α β : Type} (g : α → β) (name : String) (ms : List (String × α)) :
    (ms.map (Prod.map id g)).lookup name = (ms.lookup name).map g := by
  induction ms with
  | nil => rfl
  | cons m ms ih =>
      rw [List.map_cons, List.lookup_cons, List.lookup_cons, ih]
      simp only [Prod.map, id]
      split <;> rfl

theorem lookup_mapItems (name : String) (ms : Members) :
    (mapItems f ms).lookup name = (ms.lookup name).map (Item.mapText f) := by
  rw [mapItems_eq, lookup_map_snd]

theorem mapItems_append (ms ms' : Members) :
    mapItems f (ms ++ ms') = mapItems f ms ++ mapItems f ms' := by
  simp only [mapItems_eq, List.map_append]

theorem mapTables_append (all all' : List Members) :
    mapTables f (all ++ all') = mapTables f all ++ mapTables f all' := by
  simp only [mapTables_eq, List.map_append]

theorem replace_mapItems (key : String) (item : Item) (ms : Members) :
    replace key (item.mapText f) (mapItems f ms) = mapItems f (replace key item ms) := by
  induction ms with
  | nil => rfl
  | cons m ms ih =>
      obtain ⟨name, old⟩ := m
      simp only [mapItems, replace]
      split
      · rw [mapItems]
      · rw [mapItems, ih]

mutual

theorem Item.toValue_mapText : ∀ i : Item, (i.mapText f).toValue = i.toValue.mapText f
  | .value _ => rfl
  | .table _ members => congrArg Value.table (membersToValues_mapItems members)
  | .tables all => congrArg Value.array (tablesToValues_mapTables all)

theorem membersToValues_mapItems : ∀ ms : List (String × Item),
    membersToValues (mapItems f ms) = mapMembers f (membersToValues ms)
  | [] => rfl
  | (key, item) :: rest => by
      rw [mapItems, membersToValues, membersToValues, mapMembers, item.toValue_mapText,
        membersToValues_mapItems rest]

theorem tablesToValues_mapTables : ∀ all : List (List (String × Item)),
    tablesToValues (mapTables f all) = mapTexts f (tablesToValues all)
  | [] => rfl
  | members :: rest => by
      rw [mapTables, tablesToValues, tablesToValues, mapTexts, Value.mapText,
        membersToValues_mapItems members, tablesToValues_mapTables rest]

end

/-! Lines with other texts. -/

variable {f} {byKey : Bool} {act act' : TableKind → Members → Option Members}

theorem change_mapItems
    (natural : ∀ kind ms, act' kind (mapItems f ms) = (act kind ms).map (mapItems f))
    (kind : TableKind) (path : List String) (ms : Members) :
    change byKey act' kind path (mapItems f ms) =
      (change byKey act kind path ms).map (mapItems f) := by
  induction path generalizing kind ms with
  | nil => exact natural kind ms
  | cons key path ih =>
      rw [change, change, lookup_mapItems]
      cases ms.lookup key with
      | none =>
          have inner := ih (if byKey then .dotted else .implied) []
          rw [mapItems] at inner
          simp only [Option.map_none, inner]
          cases change byKey act (if byKey then .dotted else .implied) path [] with
          | none => rfl
          | some inner => simp [mapItems_append, mapItems, Item.mapText]
      | some item =>
          cases item with
          | value v => rfl
          | table kind inner =>
              simp only [Option.map_some, Item.mapText]
              split
              · rfl
              · rw [ih]
                cases change byKey act kind path inner with
                | none => rfl
                | some inner => simp [← replace_mapItems, Item.mapText]
          | tables all =>
              simp only [Option.map_some, Item.mapText, mapTables_eq, List.getLast?_map]
              cases all.getLast? with
              | none => rfl
              | some last =>
                  simp only [Option.map_some, Option.bind_eq_bind, Option.bind_some, ih]
                  cases change byKey act .stated path last with
                  | none => rfl
                  | some inner =>
                      simp [← replace_mapItems, Item.mapText, mapTables_eq, List.map_dropLast]

theorem addMember_mapItems (key : List String) (v : Value) (ms : Members) :
    addMember key (v.mapText f) (mapItems f ms) = (addMember key v ms).map (mapItems f) := by
  rw [addMember, addMember]
  cases key.getLast? with
  | none => rfl
  | some name =>
      refine change_mapItems (fun kind ms => ?_) .stated key.dropLast ms
      simp only [lookup_mapItems, Option.isSome_map]
      split
      · rfl
      · split
        · rfl
        · simp [mapItems_append, mapItems, Item.mapText]

theorem changeAt_mapItems {act act' : String → Members → Option Members}
    (natural : ∀ name ms, act' name (mapItems f ms) = (act name ms).map (mapItems f))
    (path : List String) (ms : Members) :
    changeAt path act' (mapItems f ms) = (changeAt path act ms).map (mapItems f) := by
  rw [changeAt, changeAt]
  cases path.getLast? with
  | none => rfl
  | some name => exact change_mapItems (fun _ => natural name) .stated path.dropLast ms

theorem addTable_mapItems (name : String) (ms : Members) :
    addTable name (mapItems f ms) = (addTable name ms).map (mapItems f) := by
  rw [addTable, addTable, lookup_mapItems]
  cases ms.lookup name with
  | none => simp [mapItems_append, mapItems, Item.mapText]
  | some item =>
      cases item with
      | value | tables => rfl
      | table kind inner =>
          cases kind with
          | stated | dotted => rfl
          | implied => simp [← replace_mapItems, Item.mapText]

theorem addToTables_mapItems (name : String) (ms : Members) :
    addToTables name (mapItems f ms) = (addToTables name ms).map (mapItems f) := by
  rw [addToTables, addToTables, lookup_mapItems]
  cases ms.lookup name with
  | none => simp [mapItems_append, mapItems, mapTables, Item.mapText]
  | some item =>
      cases item with
      | value | table => rfl
      | tables all => simp [← replace_mapItems, Item.mapText, mapTables_append, mapTables, mapItems]

def Expression.mapText (f : String → String) : Expression → Expression
  | .member key v => .member key (v.mapText f)
  | .header path => .header path
  | .arrayHeader path => .arrayHeader path

def Draft.mapText (f : String → String) (d : Draft) : Draft :=
  { d with members := mapItems f d.members }

theorem Draft.add_mapText (d : Draft) (e : Expression) :
    (d.mapText f).add (e.mapText f) = (d.add e).map (Draft.mapText f) := by
  cases e with
  | member key v =>
      have same : change false (fun _ => addMember key (v.mapText f)) .stated d.path
          (mapItems f d.members) =
            (change false (fun _ => addMember key v) .stated d.path d.members).map (mapItems f) :=
        change_mapItems (fun _ => addMember_mapItems key v) .stated d.path d.members
      simp only [Expression.mapText, Draft.add, Draft.mapText, same]
      cases change false (fun _ => addMember key v) .stated d.path d.members <;> rfl
  | header path =>
      have same := changeAt_mapItems (addTable_mapItems (f := f)) path d.members
      simp only [Expression.mapText, Draft.add, Draft.mapText, same]
      cases changeAt path addTable d.members <;> rfl
  | arrayHeader path =>
      have same := changeAt_mapItems (addToTables_mapItems (f := f)) path d.members
      simp only [Expression.mapText, Draft.add, Draft.mapText, same]
      cases changeAt path addToTables d.members <;> rfl

/-- Steps that keep to a change of the state, taken one after the other. -/
theorem foldlM_map {α β α' β' : Type} {step : β → α → Option β} {step' : β' → α' → Option β'}
    {g : α → α'} {h : β → β'} (natural : ∀ b a, step' (h b) (g a) = (step b a).map h)
    (as : List α) (b : β) : (as.map g).foldlM step' (h b) = (as.foldlM step b).map h := by
  induction as generalizing b with
  | nil => rfl
  | cons a as ih =>
      rw [List.map_cons, List.foldlM_cons, List.foldlM_cons, natural]
      cases step b a with
      | none => rfl
      | some b => exact ih b

theorem document_map (es : List Expression) :
    document (es.map (Expression.mapText f)) = (document es).map (mapMembers f) := by
  have run := foldlM_map (Draft.add_mapText (f := f)) es ⟨[], []⟩
  have empty : Draft.mapText f ⟨[], []⟩ = ⟨[], []⟩ := rfl
  rw [empty] at run
  rw [document, document, run]
  cases es.foldlM Draft.add ⟨[], []⟩ with
  | none => rfl
  | some d => exact congrArg some (membersToValues_mapItems f d.members)

theorem inlineTable_map (ms : List (List String × Value)) :
    inlineTable (ms.map (Prod.map id (Value.mapText f))) =
      (inlineTable ms).map (mapMembers f) := by
  have folds (ms : List (List String × Value)) : inlineTable ms =
      (ms.foldlM (fun ms m => addMember m.1 m.2 ms) []).map membersToValues := by
    rw [inlineTable, Option.bind_eq_bind, Option.map_eq_bind]
    rfl
  have run : (ms.map (Prod.map id (Value.mapText f))).foldlM
      (fun ms m => addMember m.1 m.2 ms) (mapItems f []) =
        (ms.foldlM (fun ms m => addMember m.1 m.2 ms) []).map (mapItems f) :=
    foldlM_map (fun b a => addMember_mapItems a.1 a.2 b) ms []
  rw [mapItems] at run
  rw [folds, folds, run, Option.map_map, Option.map_map]
  exact congrArg (Option.map · _) (funext (membersToValues_mapItems f))

end

/-! Keys. -/

mutual

/-- The keys in a value, at any depth. -/
def Value.keys : Value → List String
  | .array items => textKeys items
  | .table members => memberKeys members
  | _ => []

def textKeys : List Value → List String
  | [] => []
  | v :: vs => v.keys ++ textKeys vs

def memberKeys : List (String × Value) → List String
  | [] => []
  | (key, v) :: rest => key :: v.keys ++ memberKeys rest

end

mutual

def Item.keys : Item → List String
  | .value v => v.keys
  | .table _ members => itemKeys members
  | .tables all => tableKeys all

def itemKeys : Members → List String
  | [] => []
  | (key, item) :: rest => key :: item.keys ++ itemKeys rest

def tableKeys : List Members → List String
  | [] => []
  | members :: rest => itemKeys members ++ tableKeys rest

end

mutual

theorem Item.keys_toValue : ∀ i : Item, i.toValue.keys = i.keys
  | .value _ => rfl
  | .table _ members => memberKeys_membersToValues members
  | .tables all => textKeys_tablesToValues all

theorem memberKeys_membersToValues : ∀ ms : List (String × Item),
    memberKeys (membersToValues ms) = itemKeys ms
  | [] => rfl
  | (key, item) :: rest => by
      rw [membersToValues, memberKeys, itemKeys, item.keys_toValue,
        memberKeys_membersToValues rest]

theorem textKeys_tablesToValues : ∀ all : List (List (String × Item)),
    textKeys (tablesToValues all) = tableKeys all
  | [] => rfl
  | members :: rest => by
      rw [tablesToValues, textKeys, tableKeys, Value.keys, memberKeys_membersToValues members,
        textKeys_tablesToValues rest]

end

theorem itemKeys_append (ms ms' : Members) :
    itemKeys (ms ++ ms') = itemKeys ms ++ itemKeys ms' := by
  induction ms with
  | nil => rfl
  | cons m ms ih =>
      obtain ⟨key, item⟩ := m
      rw [List.cons_append, itemKeys, itemKeys, ih, List.append_assoc]

theorem tableKeys_append (all all' : List Members) :
    tableKeys (all ++ all') = tableKeys all ++ tableKeys all' := by
  induction all with
  | nil => rfl
  | cons ms all ih => rw [List.cons_append, tableKeys, tableKeys, ih, List.append_assoc]

/-- No key is lost, and these are among them. -/
def Gains (more : List String) (before after : List String) : Prop :=
  before ++ more ⊆ after

theorem gains_replace {ms : Members} {key : String} {old new : Item} {more : List String}
    (found : ms.lookup key = some old) (gains : Gains more old.keys new.keys) :
    Gains (key :: more) (itemKeys ms) (itemKeys (replace key new ms)) := by
  induction ms with
  | nil => cases found
  | cons m ms ih =>
      obtain ⟨name, item⟩ := m
      unfold Gains at gains ih ⊢
      rw [replace, itemKeys]
      by_cases same : name = key
      · subst same
        rw [List.lookup_cons, beq_self_eq_true] at found
        obtain rfl := Option.some.inj found
        rw [if_pos rfl, itemKeys]
        grind
      · have other : (key == name) = false := by simpa using Ne.symm same
        rw [List.lookup_cons, other] at found
        have later := ih found
        rw [if_neg same, itemKeys]
        grind

theorem gains_change {byKey : Bool} {act : TableKind → Members → Option Members}
    {more : List String} (acts : ∀ kind ms ms', act kind ms = some ms' →
      Gains more (itemKeys ms) (itemKeys ms'))
    {kind : TableKind} {path : List String} {ms ms' : Members}
    (changed : change byKey act kind path ms = some ms') :
    Gains (path ++ more) (itemKeys ms) (itemKeys ms') := by
  induction path generalizing kind ms ms' with
  | nil => exact acts kind ms ms' changed
  | cons key path ih =>
      rw [change] at changed
      split at changed
      · obtain ⟨inner, made, same⟩ := Option.bind_eq_some_iff.mp changed
        cases same
        have inside := ih made
        unfold Gains at inside ⊢
        rw [itemKeys_append, itemKeys, Item.keys]
        grind
      · cases changed
      · next kind inner found =>
        split at changed
        · cases changed
        · obtain ⟨inner', made, same⟩ := Option.bind_eq_some_iff.mp changed
          cases same
          exact gains_replace found (ih made)
      · next all found =>
        obtain ⟨last, ends, changed⟩ := Option.bind_eq_some_iff.mp changed
        obtain ⟨inner', made, same⟩ := Option.bind_eq_some_iff.mp changed
        cases same
        refine gains_replace found (show Gains (path ++ more) _ _ from ?_)
        have inside := ih made
        obtain ⟨front, rfl⟩ := List.getLast?_eq_some_iff.mp ends
        unfold Gains at inside ⊢
        rw [List.dropLast_concat, Item.keys, Item.keys, tableKeys_append, tableKeys_append,
          tableKeys, tableKeys, tableKeys]
        grind

theorem gains_append (ms : Members) (key : String) (item : Item) :
    Gains (key :: item.keys) (itemKeys ms) (itemKeys (ms ++ [(key, item)])) := by
  rw [Gains, itemKeys_append, itemKeys, itemKeys, List.append_nil]
  exact List.Subset.refl _

theorem Gains.mono {more less before after : List String} (gains : Gains more before after)
    (fewer : less ⊆ more) : Gains less before after := by
  unfold Gains at gains ⊢
  grind

theorem dropLast_append_of_getLast? {path : List String} {name : String}
    (ends : path.getLast? = some name) : path.dropLast ++ [name] = path := by
  obtain ⟨front, rfl⟩ := List.getLast?_eq_some_iff.mp ends
  rw [List.dropLast_concat]

theorem gains_addMember {key : List String} {v : Value} {ms ms' : Members}
    (added : addMember key v ms = some ms') :
    Gains (key ++ v.keys) (itemKeys ms) (itemKeys ms') := by
  obtain ⟨name, ends, added⟩ := Option.bind_eq_some_iff.mp added
  rw [← dropLast_append_of_getLast? ends, List.append_assoc]
  refine gains_change (fun kind ms ms' acted => ?_) added
  split at acted
  · cases acted
  · split at acted
    · cases acted
    · cases acted
      exact gains_append ms name (.value v)

theorem gains_changeAt {act : String → Members → Option Members} {path : List String}
    {ms ms' : Members} (acts : ∀ name ms ms', act name ms = some ms' →
      Gains [name] (itemKeys ms) (itemKeys ms'))
    (changed : changeAt path act ms = some ms') : Gains path (itemKeys ms) (itemKeys ms') := by
  obtain ⟨name, ends, changed⟩ := Option.bind_eq_some_iff.mp changed
  rw [← dropLast_append_of_getLast? ends]
  exact gains_change (fun _ => acts name) changed

theorem gains_addTable {name : String} {ms ms' : Members} (added : addTable name ms = some ms') :
    Gains [name] (itemKeys ms) (itemKeys ms') := by
  rw [addTable] at added
  split at added
  · cases added
    exact gains_append ms name (.table .stated [])
  · next inner found =>
    cases added
    exact gains_replace found (by rw [Gains, List.append_nil]; exact List.Subset.refl _)
  · cases added

theorem gains_addToTables {name : String} {ms ms' : Members}
    (added : addToTables name ms = some ms') : Gains [name] (itemKeys ms) (itemKeys ms') := by
  rw [addToTables] at added
  split at added
  · cases added
    exact gains_append ms name (.tables [[]])
  · next all found =>
    cases added
    refine gains_replace found ?_
    rw [Gains, Item.keys, Item.keys, tableKeys_append, tableKeys, tableKeys, itemKeys]
    exact List.Subset.refl _
  · cases added

def Expression.keys : Expression → List String
  | .member key v => key ++ v.keys
  | .header path => path
  | .arrayHeader path => path

theorem gains_add {d d' : Draft} {e : Expression} (added : d.add e = some d') :
    Gains e.keys (itemKeys d.members) (itemKeys d'.members) := by
  cases e with
  | member key v =>
      obtain ⟨ms, changed, same⟩ := Option.bind_eq_some_iff.mp added
      cases same
      exact (gains_change (fun _ _ _ => gains_addMember) changed).mono
        (List.subset_append_right _ _)
  | header path =>
      obtain ⟨ms, changed, same⟩ := Option.bind_eq_some_iff.mp added
      cases same
      exact gains_changeAt (fun _ _ _ => gains_addTable) changed
  | arrayHeader path =>
      obtain ⟨ms, changed, same⟩ := Option.bind_eq_some_iff.mp added
      cases same
      exact gains_changeAt (fun _ _ _ => gains_addToTables) changed

/-- What each step gains is there after all of them. -/
theorem gains_foldlM {α β : Type} {step : β → α → Option β} {named : α → List String}
    {held : β → List String}
    (gains : ∀ b a b', step b a = some b' → Gains (named a) (held b) (held b'))
    {as : List α} {b b' : β} (run : as.foldlM step b = some b') :
    held b ⊆ held b' ∧ ∀ a ∈ as, named a ⊆ held b' := by
  induction as generalizing b with
  | nil =>
      cases run
      exact ⟨List.Subset.refl _, nofun⟩
  | cons a as ih =>
      rw [List.foldlM_cons] at run
      obtain ⟨b₁, first, rest⟩ := Option.bind_eq_some_iff.mp run
      obtain ⟨kept, later⟩ := ih rest
      have here := List.Subset.trans (gains b a b₁ first) kept
      exact ⟨List.Subset.trans (List.subset_append_left _ _) here, List.forall_mem_cons.mpr
        ⟨List.Subset.trans (List.subset_append_right _ _) here, later⟩⟩

theorem keys_subset_document {es : List Expression} {record : List (String × Value)}
    (made : document es = some record) : ∀ e ∈ es, e.keys ⊆ memberKeys record := by
  obtain ⟨d, run, same⟩ := Option.bind_eq_some_iff.mp made
  cases same
  rw [memberKeys_membersToValues]
  exact (gains_foldlM (fun _ _ _ => gains_add) run).2

theorem keys_subset_inlineTable {ms : List (List String × Value)}
    {record : List (String × Value)} (made : inlineTable ms = some record) :
    ∀ m ∈ ms, m.1 ++ m.2.keys ⊆ memberKeys record := by
  obtain ⟨d, run, same⟩ := Option.bind_eq_some_iff.mp made
  cases same
  rw [memberKeys_membersToValues]
  have gains (ms : Members) (m : List String × Value) (ms' : Members)
      (added : addMember m.1 m.2 ms = some ms') :
      Gains (m.1 ++ m.2.keys) (itemKeys ms) (itemKeys ms') :=
    gains_addMember added
  exact (gains_foldlM gains run).2

end ChequeTeller.Toml
