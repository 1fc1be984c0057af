import ChequeTeller.Proofs.Json.Members
import ChequeTeller.Proofs.Lightning.Rest.Replies
import ChequeTeller.Proofs.Lightning.Rest.Traffic
import ChequeTeller.Proofs.Text.Marked

/-!
What comes of a call, by the answer to its one request. Without a complete answer it fails in
transport and with another status than one of success by that status, with the text that the body
spells. Else the body alone decides:
it reads as what was asked for, or it says why a payment was not made, or it cannot be read. How a
body is read as a decoded request, as routes or as the node's information is left apart.
-/

namespace ChequeTeller.Lightning.Rest.Client

open Json Json.Document Steps

/-! What a value that is read from a text says of a payment. -/

/-- A record of one text is read from an object with different members, if the member of its name
is a string where there is one. -/
theorem exists_fieldsOfMembers_of_string {name : String} {members : List (String × Json)}
    (distinct : (members.map (·.1)).Nodup)
    (string : ∀ v, members.lookup name = some v → ∃ s, v = .string s) (before : Values)
    (fresh : name ∈ members.map (·.1) → before.lookup name = none) :
    ∃ vs, fieldsOfMembers [.of name asString] true before (memberDocuments members) = .ok vs := by
  induction members generalizing before with
  | nil => exact ⟨before, rfl⟩
  | cons m members ih =>
      obtain ⟨first, v⟩ := m
      obtain ⟨new, later⟩ := List.nodup_cons.mp distinct
      rw [memberDocuments, fieldsOfMembers]
      by_cases named : name = first
      · subst named
        have known : [Field.of name asString].find? (·.name = name) = some (.of name asString) :=
          List.find?_cons_of_pos (by simp [Field.of])
        obtain ⟨s, rfl⟩ := string v List.lookup_cons_self
        obtain ⟨vs, read⟩ := ih later
          (fun w found => absurd (mem_names_of_lookup found) new)
          (before ++ [(name, .string (some s))]) (fun mem => absurd mem new)
        simp only [known, fresh List.mem_cons_self]
        exact ⟨vs, bind_eq_ok_iff.mpr ⟨(), rfl, read⟩⟩
      · have unknown : [Field.of name asString].find? (·.name = first) = none := by
          simp [Field.of, named]
        obtain ⟨vs, read⟩ := ih later
          (fun w found => string w (by rwa [lookup_cons_eq_ite, if_neg named])) before
          (fun mem => fresh (List.mem_cons_of_mem _ mem))
        simp only [unknown]
        exact ⟨vs, bind_eq_ok_iff.mpr ⟨(), skip_toDocument v, read⟩⟩

theorem readPaymentError_eq_ok_iff {v : Json} {reason : String}
    (distinct : ∀ members, v = .object members → (members.map (·.1)).Nodup) :
    readPaymentError v.toDocument = .ok reason ↔ GivesReason v reason := by
  refine ⟨givesReason_of_readPaymentError, ?_⟩
  intro gives
  have reads {members : List (String × Json)} {told : Option Json} (object : v = .object members)
      (found : members.lookup "payment_error" = told)
      (string : ∀ w, told = some w → ∃ s, w = .string s) :
      ∃ vs : Values, asFields [.of "payment_error" asString] v.toDocument = .ok vs ∧
        vs.lookup "payment_error" = told.map toDocument := by
    subst object found
    obtain ⟨vs, read⟩ := exists_fieldsOfMembers_of_string (distinct members rfl) string []
      fun _ => rfl
    exact ⟨vs, read, lookup_of_fieldsOfMembers read⟩
  cases gives with
  | absent absent =>
      obtain ⟨vs, read, found⟩ := reads rfl absent nofun
      exact bind_eq_ok_iff.mpr ⟨vs, read, by rw [Values.withDefault, found]; rfl⟩
  | member told =>
      obtain ⟨vs, read, found⟩ := reads rfl told fun w same => ⟨_, (Option.some.inj same).symm⟩
      exact bind_eq_ok_iff.mpr ⟨vs, read, by rw [Values.withDefault, found]; rfl⟩
  | nothing => rfl
  | item reason => rfl

theorem nodup_of_parse {body : List UInt8} {v : Json} (parsed : Json.parse body = .ok v)
    (members : List (String × Json)) (object : v = .object members) :
    (members.map (·.1)).Nodup := by
  subst object
  exact nodup_of_toJson (readText_eq_ok_iff.mp parsed).1

theorem readPayment_of_gives {body : List UInt8} {v : Json} {reason : String}
    (parsed : Json.parse body = .ok v) (gives : GivesReason v reason) (told : String) :
    readPayment told body = if reason = "" then .ok v else .error (.rejected told reason v) := by
  have read : readBody told (·.toJson depthLimit) body = .ok v := mapError_eq_ok_iff.mpr parsed
  have given : readPaymentError v.toDocument = .ok reason :=
    (readPaymentError_eq_ok_iff (nodup_of_parse parsed)).mpr gives
  simp only [readPayment, read, given, mapError_ok, bind, Except.bind]
  rfl

theorem readPayment_of_silent {body : List UInt8}
    (silent : ∀ v reason, Json.parse body = .ok v → ¬ GivesReason v reason) (told : String) :
    ∃ detail, readPayment told body = .error (.decode told detail) := by
  cases outcome : readPayment told body with
  | ok v =>
      simp only [readPayment, readBody, bind_eq_ok_iff, mapError_eq_ok_iff] at outcome
      obtain ⟨v, parsed, reason, given, -⟩ := outcome
      exact absurd (givesReason_of_readPaymentError given) (silent v reason parsed)
  | error f =>
      obtain ⟨detail, rfl⟩ | ⟨v, reason, -, parsed, given, -⟩ := readPayment_eq_error outcome
      · exact ⟨detail, rfl⟩
      · exact absurd (givesReason_of_readPaymentError given) (silent v reason parsed)

/-! The outcomes of a call. -/

/-- A complete answer with that body has come, and its status tells of success. -/
def Succeeded (answer : Answer) (body : List UInt8) : Prop :=
  ∃ status, answer = .complete status body ∧ 200 ≤ status ∧ status ≤ 299

/-- The body reads as what the call asks for. Of a payment that is any value without a reason why
it was not made. -/
def Reads : (call : Call) → List UInt8 → call.Answer → Prop
  | .decodeRequest _, body, d => readText DecodedRequest.ofDocument body = .ok d
  | .queryRoutes _ _, body, routes => readText readRoutes body = .ok routes
  | .nodeInfo, body, info => readText (NodeInfo.ofDocument depthLimit) body = .ok info
  | .sendPayment _, body, v => Json.parse body = .ok v ∧ GivesReason v ""

/-- The body says why the payment was not made. -/
def Rejects : Call → List UInt8 → String → Json → Prop
  | .sendPayment _, body, reason, v => Json.parse body = .ok v ∧ GivesReason v reason ∧ reason ≠ ""
  | _, _, _, _ => False

/-- The outcome is what the answer says, and each failure tells of the call that it is of. -/
structure Classifies (call : Call) (answer : Answer) (outcome : Except Failure call.Answer) :
    Prop where
  ok_iff : ∀ a, outcome = .ok a ↔ ∃ body, Succeeded answer body ∧ Reads call body a
  transport_iff : ∀ told cause, outcome = .error (.transport told cause) ↔
    told = context call ∧ answer = .lost cause
  status_iff : ∀ told status text, outcome = .error (.status told status text) ↔
    told = context call ∧ ∃ body, answer = .complete status body ∧
      (status < 200 ∨ 299 < status) ∧ Text.Spells body text
  rejected_iff : ∀ told reason v, outcome = .error (.rejected told reason v) ↔
    told = context call ∧ ∃ body, Succeeded answer body ∧ Rejects call body reason v
  decode_iff : ∀ told, (∃ detail, outcome = .error (.decode told detail)) ↔
    told = context call ∧ ∃ body, Succeeded answer body ∧ (∀ a, ¬ Reads call body a) ∧
      ∀ reason v, ¬ Rejects call body reason v

section

variable {call : Call} {body : List UInt8}

theorem readBody_of_unread {α : Type} {told : String} {reader : Document → Reading α}
    (unread : ∀ a, readText reader body ≠ .ok a) :
    ∃ detail, readBody told reader body = .error (.decode told detail) := by
  cases outcome : readBody told reader body with
  | ok a => exact absurd (mapError_eq_ok_iff.mp outcome) (unread a)
  | error f =>
      obtain ⟨detail, rfl⟩ := readBody_eq_error outcome
      exact ⟨detail, rfl⟩

theorem readSuccess_of_reads {a : call.Answer} (reads : Reads call body a) :
    readSuccess call body = .ok a := by
  cases call with
  | sendPayment p =>
      obtain ⟨parsed, gives⟩ := reads
      exact readPayment_of_gives parsed gives _
  | decodeRequest _ | queryRoutes _ _ | nodeInfo => exact mapError_eq_ok_iff.mpr reads

theorem readSuccess_of_rejects {reason : String} {v : Json} (rejects : Rejects call body reason v) :
    readSuccess call body = .error (.rejected (context call) reason v) := by
  cases call with
  | sendPayment p =>
      obtain ⟨parsed, gives, given⟩ := rejects
      exact (readPayment_of_gives parsed gives _).trans (if_neg given)
  | decodeRequest _ | queryRoutes _ _ | nodeInfo => exact rejects.elim

theorem readSuccess_of_neither (unread : ∀ a, ¬ Reads call body a)
    (unrejected : ∀ reason v, ¬ Rejects call body reason v) :
    ∃ detail, readSuccess call body = .error (.decode (context call) detail) := by
  cases call with
  | sendPayment p =>
      refine readPayment_of_silent ?_ _
      intro v reason parsed gives
      by_cases given : reason = ""
      · subst given
        exact unread v ⟨parsed, gives⟩
      · exact unrejected reason v ⟨parsed, gives, given⟩
  | decodeRequest _ | queryRoutes _ _ | nodeInfo => exact readBody_of_unread unread

/-- What the body of an answer is read as, with what it says. -/
inductive ReadAs (call : Call) (body : List UInt8) : Except Failure call.Answer → Prop
  | ok {a : call.Answer} (reads : Reads call body a) : ReadAs call body (.ok a)
  | rejected {reason : String} {v : Json} (rejects : Rejects call body reason v) :
      ReadAs call body (.error (.rejected (context call) reason v))
  | undecoded (detail : String) (unread : ∀ a, ¬ Reads call body a)
      (unrejected : ∀ reason v, ¬ Rejects call body reason v) :
      ReadAs call body (.error (.decode (context call) detail))

theorem readAs_readSuccess (call : Call) (body : List UInt8) :
    ReadAs call body (readSuccess call body) := by
  by_cases reads : ∃ a, Reads call body a
  · obtain ⟨a, reads⟩ := reads
    rw [readSuccess_of_reads reads]
    exact .ok reads
  by_cases rejects : ∃ reason v, Rejects call body reason v
  · obtain ⟨reason, v, rejects⟩ := rejects
    rw [readSuccess_of_rejects rejects]
    exact .rejected rejects
  have unread := not_exists.mp reads
  have unrejected (reason : String) := not_exists.mp (not_exists.mp rejects reason)
  obtain ⟨detail, outcome⟩ := readSuccess_of_neither unread unrejected
  rw [outcome]
  exact .undecoded detail unread unrejected

theorem readSuccess_eq_ok_iff {a : call.Answer} :
    readSuccess call body = .ok a ↔ Reads call body a := by
  refine ⟨?_, readSuccess_of_reads⟩
  intro outcome
  have readAs := readAs_readSuccess call body
  rw [outcome] at readAs
  cases readAs with
  | ok reads => exact reads

theorem readSuccess_eq_rejected_iff {told reason : String} {v : Json} :
    readSuccess call body = .error (.rejected told reason v) ↔
      told = context call ∧ Rejects call body reason v := by
  refine ⟨?_, ?_⟩
  · intro outcome
    have readAs := readAs_readSuccess call body
    rw [outcome] at readAs
    cases readAs with
    | rejected rejects => exact ⟨rfl, rejects⟩
  · rintro ⟨rfl, rejects⟩
    exact readSuccess_of_rejects rejects

theorem readSuccess_eq_decode_iff {told : String} :
    (∃ detail, readSuccess call body = .error (.decode told detail)) ↔
      told = context call ∧ (∀ a, ¬ Reads call body a) ∧
        ∀ reason v, ¬ Rejects call body reason v := by
  refine ⟨?_, ?_⟩
  · rintro ⟨detail, outcome⟩
    have readAs := readAs_readSuccess call body
    rw [outcome] at readAs
    cases readAs with
    | undecoded _ unread unrejected => exact ⟨rfl, unread, unrejected⟩
  · rintro ⟨rfl, unread, unrejected⟩
    exact readSuccess_of_neither unread unrejected

end

/-! Answers by their status. -/

theorem read_lost (call : Call) (cause : Cause) :
    Classifies call (.lost cause) (read call (.lost cause)) where
  ok_iff a := iff_of_false nofun nofun
  transport_iff told cause' := by simp [read, eq_comm]
  status_iff told status text := iff_of_false nofun nofun
  rejected_iff told reason v := iff_of_false nofun nofun
  decode_iff told := iff_of_false nofun nofun

theorem succeeded_complete_iff {status : UInt16} {body bs : List UInt8} :
    Succeeded (.complete status body) bs ↔ bs = body ∧ 200 ≤ status ∧ status ≤ 299 := by
  refine ⟨?_, ?_⟩
  · rintro ⟨_, same, inside⟩
    cases same
    exact ⟨rfl, inside⟩
  · rintro ⟨rfl, inside⟩
    exact ⟨status, rfl, inside⟩

theorem read_outside (call : Call) {status : UInt16} (outside : isSuccess status = false)
    (body : List UInt8) :
    Classifies call (.complete status body) (read call (.complete status body)) := by
  have outcome : read call (.complete status body) =
      .error (.status (context call) status (Text.ofMarked body)) := by
    rw [read, outside]
    rfl
  have failed (bs : List UInt8) : ¬ Succeeded (.complete status body) bs := by
    rw [succeeded_complete_iff, ← isSuccess_iff, outside]
    simp
  rw [outcome]
  exact
    { ok_iff := by simp [failed]
      transport_iff := by simp
      status_iff := by
        intro told status' text
        refine ⟨?_, ?_⟩
        · rintro ⟨⟩
          exact ⟨rfl, body, rfl, isSuccess_eq_false_iff.mp outside, Text.spells_iff.mpr rfl⟩
        · rintro ⟨rfl, _, ⟨⟩, -, spells⟩
          rw [spells.eq_ofMarked]
      rejected_iff := by simp [failed]
      decode_iff := by simp [failed] }

theorem read_inside (call : Call) {status : UInt16} (inside : isSuccess status = true)
    (body : List UInt8) :
    Classifies call (.complete status body) (read call (.complete status body)) := by
  have outcome : read call (.complete status body) = readSuccess call body := by
    rw [read, if_pos inside]
  have succeeded (bs : List UInt8) : Succeeded (.complete status body) bs ↔ bs = body := by
    rw [succeeded_complete_iff, ← isSuccess_iff, inside]
    simp
  have readAs := readAs_readSuccess call body
  rw [outcome]
  exact
    { ok_iff := by simp only [readSuccess_eq_ok_iff, succeeded, exists_eq_left, implies_true]
      transport_iff := by
        intro told cause
        refine iff_of_false ?_ (by simp)
        intro lost
        rw [lost] at readAs
        cases readAs
      status_iff := by
        intro told status' text
        refine iff_of_false ?_ ?_
        · intro refused
          rw [refused] at readAs
          cases readAs
        · rintro ⟨-, _, ⟨⟩, outside, -⟩
          rw [isSuccess_eq_false_iff.mpr outside] at inside
          cases inside
      rejected_iff := by
        simp only [readSuccess_eq_rejected_iff, succeeded, exists_eq_left, implies_true]
      decode_iff := by
        simp only [readSuccess_eq_decode_iff, succeeded, exists_eq_left, implies_true] }

theorem read_classifies (call : Call) (answer : Answer) :
    Classifies call answer (read call answer) := by
  cases answer with
  | lost cause => exact read_lost call cause
  | complete status body =>
      cases success : isSuccess status with
      | true => exact read_inside call success body
      | false => exact read_outside call success body

theorem read_utf8 (call : Call) {status : UInt16} (outside : status < 200 ∨ 299 < status)
    {s : String} (unmarked : s.toList.head? ≠ some '\uFEFF') :
    read call (.complete status (Text.utf8 s)) = .error (.status (context call) status s) :=
  ((read_classifies call _).status_iff _ status s).mpr
    ⟨rfl, _, rfl, outside, Text.spells_utf8 unmarked⟩

theorem read_eq_of_inside (call : Call) {status status' : UInt16}
    (inside : 200 ≤ status ∧ status ≤ 299) (inside' : 200 ≤ status' ∧ status' ≤ 299)
    (body : List UInt8) :
    read call (.complete status body) = read call (.complete status' body) := by
  rw [read, read, if_pos (isSuccess_iff.mpr inside), if_pos (isSuccess_iff.mpr inside')]

theorem read_ne_ok_of_reason {p : Payment} {body : List UInt8} {v : Json} {reason : String}
    (parsed : Json.parse body = .ok v) (gives : GivesReason v reason) (given : reason ≠ "")
    (status : UInt16) (v' : Json) : read (.sendPayment p) (.complete status body) ≠ .ok v' := by
  intro made
  obtain ⟨bs, succeeded, reads⟩ :=
    ((read_classifies (.sendPayment p) (.complete status body)).ok_iff v').mp made
  obtain ⟨rfl, -⟩ := succeeded_complete_iff.mp succeeded
  have rejects : Rejects (.sendPayment p) bs reason v := ⟨parsed, gives, given⟩
  have outcome := readSuccess_of_rejects rejects
  rw [readSuccess_of_reads reads] at outcome
  cases outcome

/-- The text is one value with nothing but blanks after it, and of members of one name the last
counts. -/
theorem parse_reads_whole {body : List UInt8} {v : Json} (parsed : Json.parse body = .ok v) :
    skipBlanks (readFirst body).2 = [] ∧
      ∀ members closed, (readFirst body).1 = .object members closed → ∀ name,
        (v.get? name).map Except.ok =
          (members.reverse.lookup (some name)).map (·.toJson (depthLimit - 1)) := by
  obtain ⟨read, ended⟩ := readText_eq_ok_iff.mp parsed
  refine ⟨ended, ?_⟩
  intro members closed object name
  rw [object] at read
  exact get?_of_toJson read name

/-- A call makes one request, and its outcome is what the answer says: with the status of a success
what the body alone says, and else the status with the text that the body spells, which for the
octets of a text is that text. A payment for whose failure the body gives a reason never counts as
made. -/
theorem node_classifies_answer {σ : Type} (c : Client) (wire : Wire σ) (call : Call) (s : σ)
    (log : List Request) :
    let (outcome, _, log') := c.node wire.logged call (s, log)
    log' = log ++ [c.request call] ∧
    Classifies call (wire (c.request call) s).1 outcome ∧
    (∀ status text, status < 200 ∨ 299 < status → text.toList.head? ≠ some '\uFEFF' →
      read call (.complete status (Text.utf8 text)) =
        .error (.status (context call) status text)) ∧
    (∀ status status' body, 200 ≤ status ∧ status ≤ 299 → 200 ≤ status' ∧ status' ≤ 299 →
      read call (.complete status body) = read call (.complete status' body)) ∧
    (∀ p body v reason, Json.parse body = .ok v → GivesReason v reason → reason ≠ "" →
      ∀ status v', read (.sendPayment p) (.complete status body) ≠ .ok v') ∧
    ∀ body v, Json.parse body = .ok v → skipBlanks (readFirst body).2 = [] ∧
      ∀ members closed, (readFirst body).1 = .object members closed → ∀ name,
        (v.get? name).map Except.ok =
          (members.reverse.lookup (some name)).map (·.toJson (depthLimit - 1)) := by
  refine ⟨rfl, read_classifies call _, ?_, ?_, ?_, fun _ _ => parse_reads_whole⟩
  · intro status text outside unmarked
    exact read_utf8 call outside unmarked
  · intro status status' body inside inside'
    exact read_eq_of_inside call inside inside' body
  · intro p body v reason parsed gives given
    exact read_ne_ok_of_reason parsed gives given

end ChequeTeller.Lightning.Rest.Client
