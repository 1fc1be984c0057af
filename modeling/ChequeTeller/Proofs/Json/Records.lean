import ChequeTeller.Json.Reading
import ChequeTeller.Proofs.Steps

/-!
Records and their fields. A record is read from an object whose members are for different fields,
and what is read for a field depends on its own member only. Records read from arrays are left
apart.
-/

namespace ChequeTeller.Json.Document

open Steps

section

variable {fields : List Field} {closed : Bool} {before vs : Values}

theorem fieldsOfMembers_append (front back : List (Option String × Document)) :
    fieldsOfMembers fields closed before (front ++ back) =
      (fieldsOfMembers fields true before front >>= fun vs =>
        fieldsOfMembers fields closed vs back) := by
  induction front generalizing before with
  | nil => rfl
  | cons m front ih =>
      obtain ⟨name, value⟩ := m
      cases name with
      | none => rfl
      | some name =>
          simp only [List.cons_append, fieldsOfMembers]
          split
          · simp only [bind_assoc, ih]
          · split
            · rfl
            · simp only [bind_assoc, ih]

/-- What is read of later members depends only on the names of those before them. -/
theorem fieldsOfMembers_eq_ok {ms : List (Option String × Document)}
    (read : fieldsOfMembers fields closed before ms = .ok vs) :
    ∃ later, vs = before ++ later ∧ ∀ before' : Values,
      (∀ name, (before'.lookup name).isSome = (before.lookup name).isSome) →
      fieldsOfMembers fields closed before' ms = .ok (before' ++ later) := by
  induction ms generalizing before with
  | nil =>
      cases closed with
      | false => cases read
      | true =>
          cases read
          exact ⟨[], (List.append_nil vs).symm, fun _ _ => by rw [List.append_nil]; rfl⟩
  | cons m ms ih =>
      obtain ⟨_ | name, value⟩ := m
      · cases read
      unfold fieldsOfMembers at read
      split at read
      · next unknown =>
          obtain ⟨_, skipped, read⟩ := bind_eq_ok_iff.mp read
          obtain ⟨later, rfl, others⟩ := ih read
          refine ⟨later, rfl, fun before' names => ?_⟩
          rw [fieldsOfMembers, unknown]
          exact bind_eq_ok_iff.mpr ⟨_, skipped, others before' names⟩
      · next field known =>
          split at read
          · cases read
          next fresh =>
          obtain ⟨_, checked, read⟩ := bind_eq_ok_iff.mp read
          obtain ⟨later, rfl, others⟩ := ih read
          refine ⟨(name, value) :: later, by simp, fun before' names => ?_⟩
          have later := others (before' ++ [(name, value)]) fun other => by
            simp only [List.lookup_append, Option.isSome_or, names]
          rw [fieldsOfMembers, known]
          simp only [names, fresh]
          refine bind_eq_ok_iff.mpr ⟨_, checked, later.trans ?_⟩
          simp

theorem Field.check_eq_ok_iff {α : Type} {name : String} {read : Document → Reading α}
    {d : Document} : (Field.of name read).check d = .ok () ↔ ∃ a, read d = .ok a := by
  simp [Field.of, map_eq_ok_iff]

/-- One of the fields has this name, and reads this value. -/
def Field.Accepts (fields : List Field) (name : String) (d : Document) : Prop :=
  ∃ field, fields.find? (·.name = name) = some field ∧ field.check d = .ok ()

theorem Field.Accepts.of_read {α : Type} {name : String} {read : Document → Reading α}
    {d : Document} {a : α} (found : fields.find? (·.name = name) = some (.of name read))
    (reads : read d = .ok a) : Field.Accepts fields name d :=
  ⟨_, found, Field.check_eq_ok_iff.mpr ⟨a, reads⟩⟩

/-- Members of known and different names are read if each value can be. -/
theorem fieldsOfMembers_of_accepts {ms : Values} (accepts : ∀ m ∈ ms, Field.Accepts fields m.1 m.2)
    (distinct : ((before ++ ms).map (·.1)).Nodup) :
    fieldsOfMembers fields true before (ms.map fun m => (some m.1, m.2)) = .ok (before ++ ms) := by
  induction ms generalizing before with
  | nil => rw [List.append_nil]; rfl
  | cons m ms ih =>
      obtain ⟨⟨field, found, checked⟩, later⟩ := List.forall_mem_cons.mp accepts
      have fresh : before.lookup m.1 = none := by
        rw [List.map_append, List.nodup_append] at distinct
        refine List.lookup_eq_none_iff.mpr fun m' earlier => ?_
        have different := distinct.2.2 m'.1 (List.mem_map_of_mem earlier) m.1 List.mem_cons_self
        exact bne_iff_ne.mpr different.symm
      have rest : fieldsOfMembers fields true (before ++ [m]) (ms.map fun m => (some m.1, m.2)) =
          .ok (before ++ [m] ++ ms) :=
        ih later (by rwa [List.append_assoc, List.singleton_append])
      rw [List.append_assoc, List.singleton_append] at rest
      rw [List.map_cons, fieldsOfMembers, found]
      simp only [fresh]
      exact bind_eq_ok_iff.mpr ⟨_, checked, rest⟩

theorem memberDocuments_eq (members : List (String × Json)) :
    memberDocuments members =
      (members.map fun m => (m.1, m.2.toDocument)).map fun m => (some m.1, m.2) := by
  induction members with
  | nil => rfl
  | cons m members ih => rw [memberDocuments, ih, List.map_cons, List.map_cons]

/-- An object is read as a record if each member is for another field, which reads its value. -/
theorem asFields_toDocument {ρ : Type} {j : Json} {members : List (String × Json)}
    (object : j = .object members)
    (accepts : ∀ m ∈ members, Field.Accepts fields m.1 m.2.toDocument)
    (distinct : (members.map (·.1)).Nodup) (build : Values → Reading ρ) :
    (asFields fields j.toDocument >>= build) =
      build (members.map fun m => (m.1, m.2.toDocument)) := by
  have read : asFields fields j.toDocument = .ok (members.map fun m => (m.1, m.2.toDocument)) := by
    rw [object, toDocument, asFields, memberDocuments_eq]
    refine fieldsOfMembers_of_accepts ?_ ?_
    · intro m' inner
      obtain ⟨m, member, rfl⟩ := List.mem_map.mp inner
      exact accepts m member
    · rwa [List.nil_append, List.map_map]
  rw [read]
  rfl

/-- An object with the value `v` for the member of that name, and with these members around it. -/
def withMember (front back : List (Option String × Document)) (name : String) (v : Document) :
    Document :=
  .object (front ++ (some name, v) :: back) true

/-- Reading another value for a field is checking it, and leaves the other fields as they are. -/
theorem asFields_withMember {front back : List (Option String × Document)} {name : String}
    {field : Field} {v : Document} (known : fields.find? (·.name = name) = some field)
    (read : asFields fields (withMember front back name v) = .ok vs) :
    ∃ early later : Values, early.lookup name = none ∧ vs = early ++ (name, v) :: later ∧
      ∀ v' vs', asFields fields (withMember front back name v') = .ok vs' ↔
        field.check v' = .ok () ∧ vs' = early ++ (name, v') :: later := by
  have step (v' : Document) (vs' : Values) :
      asFields fields (withMember front back name v') = .ok vs' ↔
        ∃ early, fieldsOfMembers fields true [] front = .ok early ∧
          (early.lookup name).isSome = false ∧ field.check v' = .ok () ∧
          fieldsOfMembers fields true (early ++ [(name, v')]) back = .ok vs' := by
    simp only [withMember, asFields, fieldsOfMembers_append, bind_eq_ok_iff]
    refine exists_congr fun early => and_congr_right fun _ => ?_
    rw [fieldsOfMembers, known]
    cases (early.lookup name).isSome with
    | true => simp
    | false =>
        simp only [Bool.false_eq_true, if_false, true_and, bind_eq_ok_iff]
        exact ⟨fun ⟨_, checked, read⟩ => ⟨checked, read⟩, fun ⟨checked, read⟩ => ⟨_, checked, read⟩⟩
  obtain ⟨early, passed, fresh, -, rest⟩ := (step v vs).mp read
  obtain ⟨later, rfl, others⟩ := fieldsOfMembers_eq_ok rest
  refine ⟨early, later, by simpa using fresh, by simp, fun v' vs' => ?_⟩
  have rest' := others (early ++ [(name, v')]) fun other => by
    simp only [List.lookup_append, List.lookup_cons, List.lookup_nil, Option.isSome_or]
    split <;> rfl
  simp only [List.append_assoc, List.singleton_append] at rest'
  rw [step]
  refine ⟨?_, ?_⟩
  · rintro ⟨early', passed', -, checked, read⟩
    cases passed.symm.trans passed'
    rw [rest'] at read
    exact ⟨checked, (Except.ok.inj read).symm⟩
  · rintro ⟨checked, rfl⟩
    exact ⟨early, passed, fresh, checked, rest'⟩

end

/-! The values of fields, one of them among the others. -/

section

variable {α : Type} {early later : Values} {name other : String} {v : Document}

theorem lookup_middle (fresh : early.lookup name = none) :
    (early ++ (name, v) :: later).lookup name = some v := by
  rw [List.lookup_append, fresh, Option.none_or, List.lookup_cons_self]

theorem lookup_around (h : other ≠ name) :
    (early ++ (name, v) :: later).lookup other = (early ++ later).lookup other := by
  rw [List.lookup_append, List.lookup_append, List.lookup_cons, beq_false_of_ne h]

theorem Values.withDefault_middle (fresh : early.lookup name = none)
    (read : Document → Reading α) (default : α) :
    (early ++ (name, v) :: later : Values).withDefault name read default = read v := by
  rw [withDefault, lookup_middle fresh]

theorem Values.withDefault_around (h : other ≠ name) (read : Document → Reading α) (default : α) :
    (early ++ (name, v) :: later : Values).withDefault other read default =
      (early ++ later : Values).withDefault other read default := by
  rw [withDefault, withDefault, lookup_around h]

theorem Values.required_middle (fresh : early.lookup name = none) (read : Document → Reading α) :
    (early ++ (name, v) :: later : Values).required name read = read v := by
  rw [required, lookup_middle fresh]

theorem Values.required_around (h : other ≠ name) (read : Document → Reading α) :
    (early ++ (name, v) :: later : Values).required other read =
      (early ++ later : Values).required other read := by
  rw [required, required, lookup_around h]

end

section

variable {α ρ : Type} {name : String} {set : α → ρ → ρ} {gives : α → Document → Prop}

/-- The field of that name reads as `a` the values so related to it, and no others. Around it there
may be any members with which a record is read for some value, and the other fields stay. -/
def FieldReads (ofDocument : Document → Reading ρ) (name : String) (set : α → ρ → ρ)
    (gives : α → Document → Prop) : Prop :=
  ∀ front back v r, ofDocument (withMember front back name v) = .ok r →
    ∀ v' r', ofDocument (withMember front back name v') = .ok r' ↔
      ∃ a, gives a v' ∧ r' = set a r

/-- It is enough to look at what is made of the values of the fields. -/
theorem fieldReads_of_build {fields : List Field} (read : Document → Reading α)
    {build : Values → Reading ρ}
    (known : fields.find? (·.name = name) = some (.of name read))
    (reads : ∀ a v, read v = .ok a ↔ gives a v)
    (built : ∀ early later v r, early.lookup name = none →
      build (early ++ (name, v) :: later) = .ok r →
      ∀ v' r', build (early ++ (name, v') :: later) = .ok r' ↔
        ∃ a, read v' = .ok a ∧ r' = set a r) :
    FieldReads (fun d => asFields fields d >>= build) name set gives := by
  intro front back v r given v' r'
  obtain ⟨vs, given, before⟩ := bind_eq_ok_iff.mp given
  obtain ⟨early, later, fresh, rfl, others⟩ := asFields_withMember known given
  rw [bind_eq_ok_iff]
  simp only [others, Field.check_eq_ok_iff, ← reads]
  refine Iff.trans ⟨?_, fun after => ?_⟩ (built early later v r fresh before v' r')
  · rintro ⟨_, ⟨-, rfl⟩, after⟩
    exact after
  · obtain ⟨a, reads, -⟩ := (built early later v r fresh before v' r').mp after
    exact ⟨_, ⟨⟨a, reads⟩, rfl⟩, after⟩

end

end ChequeTeller.Json.Document
