import ChequeTeller.Proofs.Lightning.Discretion
import ChequeTeller.Proofs.Lightning.Rest.Payments

/-!
Runs against nodes that answer alike. The answers that come over the wire are the same in both up
to a call that fails in both, and it fails in one way whatever the answers hold. A dialogue that
is discreet comes to the same end in both, for clients that need not be the same. What else the
clients send is left apart.
-/

namespace ChequeTeller.Lightning.Rest

/-- A call and the answer to it as it came over the wire. -/
structure Reply where
  call : Call
  answer : Answer

namespace Client

open Json Steps

variable {σ σ' α : Type}

/-- The replies to a dialogue's calls, in order. -/
def replies (c : Client) (wire : Wire σ) : Dialogue α → σ → List Reply
  | .done _, _ => []
  | .ask call next, s =>
    let (answer, s) := wire (c.request call) s
    ⟨call, answer⟩ :: c.replies wire (next (read call answer)) s

/-- A run's exchanges are its replies as the client reads them. -/
theorem exchanges_eq_replies (c : Client) (wire : Wire σ) (d : Dialogue α) (s : σ) :
    (d.run (c.node wire) s).2.1 =
      (c.replies wire d s).map fun r => ⟨r.call, read r.call r.answer⟩ := by
  induction d generalizing s with
  | done a => rfl
  | ask call next ih => exact congrArg _ (ih _ _)

/-! Answers that fail a call. -/

/-- The answer fails the call, in that way. -/
inductive Fails : Call → Way → Answer → Prop
  | lost (call : Call) (cause : Cause) : Fails call .transport (.lost cause)
  | status (call : Call) {status : UInt16} (outside : status < 200 ∨ 299 < status)
      (body : List UInt8) : Fails call .status (.complete status body)
  | unreadable {call : Call} {status : UInt16} (inside : 200 ≤ status ∧ status ≤ 299)
      {body : List UInt8} {context detail : String}
      (unread : readSuccess call body = .error (.decode context detail)) :
      Fails call .decode (.complete status body)
  | rejected {p : Payment} {status : UInt16} (inside : 200 ≤ status ∧ status ≤ 299)
      {body : List UInt8} {value : Json} {reason : String} (parsed : Json.parse body = .ok value)
      (told : readPaymentError value.toDocument = .ok reason) (given : reason ≠ "") :
      Fails (.sendPayment p) .rejected (.complete status body)

theorem isSuccess_eq_false_iff {status : UInt16} :
    isSuccess status = false ↔ status < 200 ∨ 299 < status := by
  rw [← Bool.not_eq_true, isSuccess_iff, Decidable.not_and_iff_or_not, UInt16.not_le,
    UInt16.not_le]

theorem readBody_eq_error {β : Type} {context : String} {reader : Document → Reading β}
    {body : List UInt8} {f : Failure} (h : readBody context reader body = .error f) :
    ∃ detail, f = .decode context detail := by
  obtain ⟨flaw, _, rfl⟩ := mapError_eq_error_iff.mp h
  exact ⟨flawText flaw, rfl⟩

/-- A payment's answer that reads as a failure cannot be read or gives a reason. -/
theorem readPayment_eq_error {context : String} {body : List UInt8} {f : Failure}
    (h : readPayment context body = .error f) :
    (∃ detail, f = .decode context detail) ∨
      ∃ value reason, f = .rejected context reason value ∧ Json.parse body = .ok value ∧
        readPaymentError value.toDocument = .ok reason ∧ reason ≠ "" := by
  obtain unread | ⟨value, parsed, h⟩ := bind_eq_error_iff.mp h
  · exact .inl (readBody_eq_error unread)
  · obtain untold | ⟨reason, told, h⟩ := bind_eq_error_iff.mp h
    · obtain ⟨flaw, _, rfl⟩ := mapError_eq_error_iff.mp untold
      exact .inl ⟨flawText flaw, rfl⟩
    · split at h
      · cases h
      · cases h
        exact .inr ⟨value, reason, rfl, mapError_eq_ok_iff.mp parsed, mapError_eq_ok_iff.mp told,
          ‹_›⟩

theorem readPayment_of_reason {body : List UInt8} {value : Json} {reason : String}
    (parsed : Json.parse body = .ok value)
    (told : readPaymentError value.toDocument = .ok reason) (given : reason ≠ "")
    (context : String) : readPayment context body = .error (.rejected context reason value) := by
  have read : readBody context (·.toJson depthLimit) body = .ok value :=
    mapError_eq_ok_iff.mpr parsed
  simp only [readPayment, read, told, mapError_ok, bind, Except.bind, if_neg given]

/-- What fails a call is what the client reads as a failure. -/
theorem fails_iff {call : Call} {way : Way} {answer : Answer} :
    Fails call way answer ↔ ∃ f, read call answer = .error f ∧ f.way = way := by
  refine ⟨?_, ?_⟩
  · intro fails
    cases fails with
    | lost call cause => exact ⟨_, rfl, rfl⟩
    | status call outside body =>
        exact ⟨_, by rw [read, isSuccess_eq_false_iff.mpr outside]; rfl, rfl⟩
    | unreadable inside unread =>
        exact ⟨_, by rw [read, if_pos (isSuccess_iff.mpr inside)]; exact unread, rfl⟩
    | @rejected p status inside body value reason parsed told given =>
        refine ⟨.rejected (context (.sendPayment p)) reason value, ?_, rfl⟩
        rw [read, if_pos (isSuccess_iff.mpr inside)]
        exact readPayment_of_reason parsed told given _
  · intro failed
    obtain ⟨f, h, rfl⟩ := failed
    cases answer with
    | lost cause =>
        cases h
        exact .lost call cause
    | complete status body =>
        simp only [read] at h
        split at h
        · rename_i success
          have inside := isSuccess_iff.mp success
          cases call with
          | sendPayment p =>
              obtain ⟨detail, rfl⟩ | ⟨value, reason, rfl, parsed, told, given⟩ :=
                readPayment_eq_error h
              · exact .unreadable inside h
              · exact .rejected inside parsed told given
          | decodeRequest _ | queryRoutes _ _ | nodeInfo =>
              obtain ⟨detail, rfl⟩ := readBody_eq_error h
              exact .unreadable inside h
        · rename_i refused
          cases h
          exact .status call (isSuccess_eq_false_iff.mp (Bool.eq_false_iff.mpr refused)) body

/-! Replies side by side. -/

/-- The answers are the same up to a call that fails in both, in one way. -/
inductive Alike : List Reply → List Reply → Prop
  | nil : Alike [] []
  | same {r r' : Reply} {rest rest' : List Reply} (answer : r.answer = r'.answer)
      (later : Alike rest rest') : Alike (r :: rest) (r' :: rest')
  | failed {r r' : Reply} {way : Way} (fails : Fails r.call way r.answer)
      (fails' : Fails r'.call way r'.answer) (rest rest' : List Reply) :
      Alike (r :: rest) (r' :: rest')

/-- What a discreet dialogue comes to depends on nothing that a failed call's answer holds. -/
theorem run_fst_eq_of_alike {d : Dialogue α} (discreet : d.Discreet Eq) {c c' : Client}
    {wire : Wire σ} {wire' : Wire σ'} {s : σ} {s' : σ'}
    (alike : Alike (c.replies wire d s) (c'.replies wire' d s')) :
    (d.run (c.node wire) s).1 = (d.run (c'.node wire') s').1 := by
  -- The dialogues go on together as long as the answers are the same, and end at a failure.
  induction discreet generalizing s s' with
  | done a => rfl
  | @ask call next stops _ ih =>
      simp only [Dialogue.run, node]
      simp only [replies] at alike
      cases alike with
      | same answer later =>
          dsimp only at answer
          rw [← answer] at later ⊢
          cases outcome : read call (wire (c.request call) s).1 with
          | ok value =>
              rw [outcome] at later
              exact ih value later
          | error f =>
              obtain ⟨a, _, done, _, _⟩ := stops f f rfl
              simp only [done, Dialogue.run]
      | failed fails fails' rest rest' =>
          obtain ⟨f, read, way⟩ := fails_iff.mp fails
          obtain ⟨g, read', way'⟩ := fails_iff.mp fails'
          obtain ⟨a, b, done, done', same⟩ := stops f g (way.trans way'.symm)
          simp only [read, read', done, done', Dialogue.run]
          exact same

end Client

end ChequeTeller.Lightning.Rest
