import ChequeTeller.Lightning.Rest.Client
import ChequeTeller.Proofs.Steps

/-!
When a payment counts as made: the node's answer tells of success, its body is JSON, and the value
tells of no error. What an answer says else is the reason that its value gives, and which failure
stands for it is left apart.
-/

namespace ChequeTeller.Lightning.Rest.Client

open Json Json.Document Steps

/-- The value tells of no payment error: the text for it is absent or empty. An array stands for
the object with its items for members. -/
def TellsNoError : Json → Prop
  | .object members =>
    members.lookup "payment_error" = none ∨ members.lookup "payment_error" = some (.string "")
  | .array items => items = [] ∨ items = [.string ""]
  | _ => False

/-- The reason that the value gives for an error, empty for none. What is no string gives none, not
even an empty one. -/
inductive GivesReason : Json → String → Prop
  | absent {members : List (String × Json)} (absent : members.lookup "payment_error" = none) :
      GivesReason (.object members) ""
  | member {members : List (String × Json)} {reason : String}
      (told : members.lookup "payment_error" = some (.string reason)) :
      GivesReason (.object members) reason
  | nothing : GivesReason (.array []) ""
  | item (reason : String) : GivesReason (.array [.string reason]) reason

theorem GivesReason.tellsNoError {v : Json} (gives : GivesReason v "") : TellsNoError v := by
  cases gives with
  | absent absent => exact .inl absent
  | member told => exact .inr told
  | nothing => exact .inl rfl
  | item => exact .inr rfl

/-- Of a record of one field, the value read is that of the first member of its name. -/
theorem lookup_of_fieldsOfMembers {field : Field} {before vs : Values}
    {members : List (String × Json)}
    (h : fieldsOfMembers [field] true before (memberDocuments members) = .ok vs) :
    vs.lookup field.name =
      (before.lookup field.name).or ((members.lookup field.name).map toDocument) := by
  induction members generalizing before with
  | nil =>
      cases h
      simp
  | cons m members ih =>
      obtain ⟨name, value⟩ := m
      simp only [memberDocuments, fieldsOfMembers] at h
      by_cases named : field.name = name
      · subst named
        simp only [List.find?_cons_of_pos, decide_true] at h
        split at h
        · cases h
        · rename_i fresh
          obtain ⟨_, _, h⟩ := bind_eq_ok_iff.mp h
          simp only [Bool.not_eq_true, Option.isSome_eq_false_iff, Option.isNone_iff_eq_none]
            at fresh
          rw [ih h, List.lookup_append, fresh]
          simp
      · simp only [List.find?_cons, named, decide_false, List.find?_nil] at h
        obtain ⟨_, _, h⟩ := bind_eq_ok_iff.mp h
        rw [ih h, List.lookup_cons, beq_false_of_ne named]

theorem asString_toDocument_eq_ok {v : Json} {text : String}
    (h : asString v.toDocument = .ok text) : v = .string text := by
  cases v <;> simp_all [toDocument, asString]

theorem withDefault_toDocument_eq_ok {vs : Values} {name reason : String} {v : Option Json}
    (found : vs.lookup name = v.map toDocument)
    (h : vs.withDefault name asString "" = .ok reason) :
    v = none ∧ reason = "" ∨ v = some (.string reason) := by
  cases v with
  | none =>
      simp only [Values.withDefault, found, Option.map_none, Except.ok.injEq] at h
      exact .inl ⟨rfl, h.symm⟩
  | some v =>
      simp only [Values.withDefault, found, Option.map_some] at h
      exact .inr (congrArg some (asString_toDocument_eq_ok h))

theorem givesReason_of_readPaymentError {v : Json} {reason : String}
    (h : readPaymentError v.toDocument = .ok reason) : GivesReason v reason := by
  obtain ⟨vs, fields, told⟩ := bind_eq_ok_iff.mp h
  cases v with
  | object members =>
      have found := lookup_of_fieldsOfMembers fields
      obtain ⟨absent, rfl⟩ | told := withDefault_toDocument_eq_ok found told
      · exact .absent absent
      · exact .member told
  | array items =>
      match items, fields with
      | [], fields =>
          cases fields
          cases told
          exact .nothing
      | [item], fields =>
          obtain ⟨_, _, fields⟩ := bind_eq_ok_iff.mp fields
          cases fields
          obtain ⟨h, -⟩ | h := withDefault_toDocument_eq_ok (v := some item) rfl told
          · cases h
          · cases h
            exact .item reason
      | _ :: _ :: _, fields =>
          obtain ⟨_, _, fields⟩ := bind_eq_ok_iff.mp fields
          cases fields
  | null | bool _ | number _ | string _ => cases fields

theorem readPayment_eq_ok {context : String} {body : List UInt8} {v : Json}
    (h : readPayment context body = .ok v) : Json.parse body = .ok v ∧ TellsNoError v := by
  simp only [readPayment, readBody, bind_eq_ok_iff, mapError_eq_ok_iff] at h
  obtain ⟨value, parsed, reason, told, h⟩ := h
  split at h
  · rename_i empty
    subst empty
    cases h
    exact ⟨parsed, (givesReason_of_readPaymentError told).tellsNoError⟩
  · cases h

theorem isSuccess_iff {status : UInt16} :
    isSuccess status = true ↔ 200 ≤ status ∧ status ≤ 299 := by
  simp only [isSuccess, Bool.and_eq_true, decide_eq_true_eq]

theorem node_fst {σ : Type} (c : Client) (wire : Wire σ) (call : Call) (s : σ) :
    (c.node wire call s).1 = read call (wire (c.request call) s).1 :=
  rfl

/-- An answer is a payment made only if it is complete and its status tells of success. -/
theorem read_sendPayment_eq_ok {p : Payment} {answer : Answer} {v : Json}
    (h : read (.sendPayment p) answer = .ok v) :
    ∃ status body, answer = .complete status body ∧ 200 ≤ status ∧ status ≤ 299 ∧
      Json.parse body = .ok v ∧ TellsNoError v := by
  cases answer with
  | lost cause => cases h
  | complete status body =>
      simp only [read] at h
      split at h
      · rename_i success
        obtain ⟨least, most⟩ := isSuccess_iff.mp success
        exact ⟨status, body, rfl, least, most, readPayment_eq_ok h⟩
      · cases h

end ChequeTeller.Lightning.Rest.Client
