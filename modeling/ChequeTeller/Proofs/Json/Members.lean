import ChequeTeller.Json.Reading
import ChequeTeller.Proofs.Steps
import Mathlib.Data.List.Nodup

/-!
Members of the objects that are read from a text. No two of a value have one name: of several in
the text the last counts, in the place of the first. A value can be passed over as it can be read.
-/

namespace ChequeTeller.Json

open Steps

theorem lookup_cons_eq_ite {α β : Type} [BEq α] [LawfulBEq α] [DecidableEq α] (a other : α)
    (b : β) (rest : List (α × β)) :
    ((a, b) :: rest).lookup other = if other = a then some b else rest.lookup other := by
  by_cases same : other = a
  · subst same
    rw [List.lookup_cons_self, if_pos rfl]
  · rw [List.lookup_cons, beq_false_of_ne same, if_neg same]

variable {name : String} {value : Json} {members : List (String × Json)}

theorem lookup_put (other : String) :
    (put name value members).lookup other =
      if other = name then some value else members.lookup other := by
  induction members with
  | nil => exact lookup_cons_eq_ite name other value []
  | cons m members ih =>
      obtain ⟨first, _⟩ := m
      by_cases here : first = name
      · subst here
        simp only [put, if_true, lookup_cons_eq_ite]
        split <;> rfl
      · simp only [put, here, if_false, lookup_cons_eq_ite, ih]
        split_ifs with same same' <;> simp_all

theorem mem_names_of_lookup (found : members.lookup name = some value) :
    name ∈ members.map (·.1) := by
  rw [List.lookup_eq_some_iff] at found
  obtain ⟨before, after, rfl, -⟩ := found
  simp

theorem mem_names_put {other : String} :
    other ∈ (put name value members).map (·.1) ↔ other = name ∨ other ∈ members.map (·.1) := by
  induction members with
  | nil => simp [put]
  | cons m members ih =>
      by_cases here : m.1 = name
      · simp [put, here]
      · simp only [put, here, if_false, List.map_cons, List.mem_cons, ih]
        exact or_left_comm

theorem nodup_names_put (distinct : (members.map (·.1)).Nodup) :
    ((put name value members).map (·.1)).Nodup := by
  induction members with
  | nil => simp [put]
  | cons m members ih =>
      rw [List.map_cons, List.nodup_cons] at distinct
      by_cases here : m.1 = name
      · rw [put, if_pos here, List.map_cons, List.nodup_cons, ← here]
        exact distinct
      · rw [put, if_neg here, List.map_cons, List.nodup_cons, mem_names_put]
        exact ⟨not_or.mpr ⟨here, distinct.1⟩, ih distinct.2⟩

namespace Document

variable {depth : Nat} {closed : Bool} {before : List (String × Json)}
  {ms : List (Option String × Document)}

theorem nodup_of_membersToJson (distinct : (before.map (·.1)).Nodup)
    (read : membersToJson depth closed before ms = .ok members) : (members.map (·.1)).Nodup := by
  induction ms generalizing before with
  | nil =>
      rw [membersToJson] at read
      split at read
      · cases read
        exact distinct
      · cases read
  | cons m ms ih =>
      obtain ⟨_ | name, item⟩ := m
      · cases read
      · obtain ⟨value, -, read⟩ := bind_eq_ok_iff.mp read
        exact ih (nodup_names_put distinct) read

/-- The value of a member is read from the last of its name. -/
theorem lookup_of_membersToJson (read : membersToJson depth closed before ms = .ok members)
    (name : String) :
    (members.lookup name).map Except.ok =
      ((ms.reverse.lookup (some name)).map (toJson depth)).or
        ((before.lookup name).map Except.ok) := by
  induction ms generalizing before with
  | nil =>
      rw [membersToJson] at read
      split at read
      · cases read
        rfl
      · cases read
  | cons m ms ih =>
      obtain ⟨_ | first, item⟩ := m
      · cases read
      · obtain ⟨value, item_read, read⟩ := bind_eq_ok_iff.mp read
        rw [ih read, lookup_put, List.reverse_cons, List.lookup_append, lookup_cons_eq_ite,
          List.lookup_nil]
        cases ms.reverse.lookup (some name) with
        | some later => rfl
        | none =>
            by_cases same : name = first
            · simp [same, item_read]
            · simp [same]

theorem exists_members_of_toJson {value : Json}
    (read : toJson depth (.object ms closed) = .ok value) :
    ∃ members, value = .object members ∧
      membersToJson (depth - 1) closed [] ms = .ok members := by
  rw [toJson] at read
  split at read
  · cases read
  · obtain ⟨members, inner, rfl⟩ := map_eq_ok_iff.mp read
    exact ⟨members, rfl, inner⟩

theorem get?_of_toJson (read : toJson depth (.object ms closed) = .ok value) (name : String) :
    (value.get? name).map Except.ok =
      (ms.reverse.lookup (some name)).map (toJson (depth - 1)) := by
  obtain ⟨members, rfl, inner⟩ := exists_members_of_toJson read
  exact (lookup_of_membersToJson inner name).trans Option.or_none

theorem nodup_of_toJson {d : Document} (read : toJson depth d = .ok (.object members)) :
    (members.map (·.1)).Nodup := by
  cases d with
  | object ms closed =>
      obtain ⟨_, same, inner⟩ := exists_members_of_toJson read
      cases same
      have none : (([] : List (String × Json)).map (·.1)).Nodup := List.nodup_nil
      exact nodup_of_membersToJson none inner
  | array items closed =>
      rw [toJson] at read
      split at read
      · cases read
      · obtain ⟨_, _, same⟩ := map_eq_ok_iff.mp read
        cases same
  | number v | string v => cases v <;> cases read
  | broken | null | bool _ => cases read

/-! Passing over values. -/

mutual

theorem skip_toDocument : ∀ j : Json, skip j.toDocument = .ok ()
  | .null | .bool _ | .number _ | .string _ => rfl
  | .array items => skipItems_itemDocuments items
  | .object members => skipMembers_memberDocuments members

theorem skipItems_itemDocuments : ∀ items, skipItems true (itemDocuments items) = .ok ()
  | [] => rfl
  | item :: rest =>
      bind_eq_ok_iff.mpr ⟨_, skip_toDocument item, skipItems_itemDocuments rest⟩

theorem skipMembers_memberDocuments : ∀ members, skipMembers true (memberDocuments members) = .ok ()
  | [] => rfl
  | (_, value) :: rest =>
      bind_eq_ok_iff.mpr ⟨_, skip_toDocument value, skipMembers_memberDocuments rest⟩

end

end Document

theorem readText_eq_ok_iff {α : Type} {read : Document → Reading α} {bytes : List UInt8} {a : α} :
    readText read bytes = .ok a ↔ read (Document.readFirst bytes).1 = .ok a ∧
      Document.skipBlanks (Document.readFirst bytes).2 = [] := by
  simp only [readText, bind_eq_ok_iff]
  refine ⟨?_, ?_⟩
  · rintro ⟨_, read, h⟩
    split at h
    · cases h
      exact ⟨read, ‹_›⟩
    · cases h
  · rintro ⟨read, ended⟩
    exact ⟨a, read, if_pos ended⟩

end ChequeTeller.Json
