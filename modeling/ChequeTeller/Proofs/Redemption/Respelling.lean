import ChequeTeller.Proofs.Cheque.Frame
import ChequeTeller.Proofs.Redemption.Payout
import ChequeTeller.Proofs.Redemption.Session
import ChequeTeller.Proofs.Text.LetterCase
import Mathlib.Data.Option.Basic

/-!
Requests that spell one order in different ways: digits in another case, and other octets in the
places of a cheque's frame that nothing looks at. They are redeemed alike, to the text of an error,
so a cheque that was redeemed is refused in every spelling.
-/

namespace ChequeTeller

open Lightning Steps
open Text.Hex (Recased)

/-! Frames. -/

namespace Cheque.Frame

/-- Octets of two frames that differ at most in the first, the two before the signature and the
last. -/
structure SameInside (bytes bytes' : List UInt8) : Prop where
  long : overhead ≤ bytes.length
  length : bytes'.length = bytes.length
  inside : ∀ i, i ≠ 0 → i ≠ bytes.length - 67 → i ≠ bytes.length - 66 → i ≠ bytes.length - 1 →
    bytes[i]? = bytes'[i]?

/-- The frames hold one body with one signature. -/
structure Agrees (f f' : Frame) : Prop where
  body : f.body = f'.body
  signature : f.signature = f'.signature

theorem SameInside.agrees {f f' : Frame} (same : SameInside f.toBytes f'.toBytes) :
    f.Agrees f' := by
  have length := same.length
  simp only [length_toBytes, Nat.add_right_cancel_iff] at length
  have inside := same.inside
  simp only [length_toBytes, overhead] at inside
  constructor
  · refine List.ext_getElem? fun i => ?_
    by_cases here : i < f.body.length
    · rw [← getElem?_toBytes_body f here, ← getElem?_toBytes_body f' (length ▸ here)]
      exact inside (i + 1) (by omega) (by omega) (by omega) (by omega)
    · rw [List.getElem?_eq_none (by omega), List.getElem?_eq_none (by omega)]
  · have bytes : f.signature.bytes = f'.signature.bytes := by
      refine List.ext_getElem? fun i => ?_
      by_cases here : i < 64
      · rw [← getElem?_toBytes_signature f here, ← getElem?_toBytes_signature f' here, length]
        exact inside _ (by omega) (by omega) (by omega) (by omega)
      · have := f.signature.length_bytes
        have := f'.signature.length_bytes
        rw [List.getElem?_eq_none (by omega), List.getElem?_eq_none (by omega)]
    cases hs : f.signature
    cases hs' : f'.signature
    rw [hs, hs'] at bytes
    cases bytes
    rfl

theorem Agrees.sameInside {f f' : Frame} (agrees : f.Agrees f') :
    SameInside f.toBytes f'.toBytes := by
  have length : f'.body.length = f.body.length := by rw [agrees.body]
  refine ⟨by rw [length_toBytes]; exact Nat.le_add_left _ _, by simp only [length_toBytes, length],
    ?_⟩
  intro i opening first second closing
  simp only [length_toBytes, overhead] at first second closing
  by_cases body : i - 1 < f.body.length
  · obtain ⟨i, rfl⟩ := Nat.exists_eq_succ_of_ne_zero opening
    have body : i < f.body.length := body
    rw [Nat.succ_eq_add_one, getElem?_toBytes_body f body,
      getElem?_toBytes_body f' (length.symm ▸ body), agrees.body]
  · by_cases signature : i < f.body.length + 3 + 64
    · obtain ⟨j, rfl⟩ := Nat.exists_eq_add_of_le (by omega : f.body.length + 3 ≤ i)
      rw [getElem?_toBytes_signature f (by omega), ← length,
        getElem?_toBytes_signature f' (by omega), agrees.signature]
    · have := f.length_toBytes
      have := f'.length_toBytes
      simp only [overhead] at *
      rw [List.getElem?_eq_none (by omega), List.getElem?_eq_none (by omega)]

/-- The texts differ in the case of digits alone, or spell octets that differ where nothing looks
at them. -/
inductive Respells (text text' : String) : Prop
  | recased (same : Recased text text')
  | reframed {bytes bytes' : List UInt8} (first : Text.Hex.decode text = .ok bytes)
      (second : Text.Hex.decode text' = .ok bytes') (same : SameInside bytes bytes')

theorem Respells.alike {text text' : String} (respells : Respells text text') :
    Alike Agrees (ofHex text) (ofHex text') := by
  cases respells with
  | recased same =>
      simp only [ofHex, same.decode_eq]
      cases Text.Hex.decode text' with
      | error fault => exact .error _
      | ok bytes =>
          cases read : ofBytes bytes with
          | error e => simpa only [read] using .error e
          | ok f => simpa only [read] using .ok ⟨rfl, rfl⟩
  | reframed first second same =>
      obtain ⟨f, rfl⟩ := exists_toBytes_eq same.long
      obtain ⟨f', rfl⟩ := exists_toBytes_eq (same.length.symm ▸ same.long)
      simp only [ofHex, first, second, ofBytes_toBytes]
      exact .ok same.agrees

end Cheque.Frame

/-! Orders and requests. -/

/-- The orders are to the same effect. -/
structure Order.Agrees (o o' : Order) : Prop where
  channel : o.channel = o'.channel
  destination : o.destination = o'.destination
  amountMsat : o.amountMsat = o'.amountMsat
  paymentAddr : o.paymentAddr = o'.paymentAddr
  frame : o.frame.Agrees o'.frame

theorem Order.Agrees.check_eq {o o' : Order} (agrees : o.Agrees o') (terms : Terms)
    (now : UInt64) : o.check terms now = o'.check terms now := by
  simp only [check, Cheque.Frame.verifies, Cheque.Frame.unpack, Cheque.Frame.message,
    agrees.channel, agrees.amountMsat, agrees.frame.body, agrees.frame.signature]

theorem Order.Agrees.payment_eq {o o' : Order} (agrees : o.Agrees o') (lock : Lock)
    (terms : Terms) : o.payment lock terms = o'.payment lock terms := by
  simp only [payment, agrees.destination, agrees.amountMsat, agrees.paymentAddr]

/-- The requests are the same but for the spelling of octets. -/
structure PayRequest.Respells (r r' : PayRequest) : Prop where
  tag : Recased r.tag r'.tag
  verificationKey : Recased r.verificationKey r'.verificationKey
  paymentAddr : Option.Rel Recased r.paymentAddr r'.paymentAddr
  cheque : Cheque.Frame.Respells r.cheque r'.cheque
  dest : Recased r.dest r'.dest
  msat : r.msat = r'.msat

theorem Octets.ofHex_congr {role : Role} {s t : String} (same : Recased s t) :
    (ofHex s : Except OctetsError (Octets role)) = ofHex t := by
  simp only [ofHex, same.decode_eq]

theorem Tag.ofHex_congr {s t : String} (same : Recased s t) : Tag.ofHex s = Tag.ofHex t := by
  simp only [ofHex, same.decode_eq]

namespace PayRequest.Respells

variable {r r' : PayRequest}

theorem readField_congr {role : Role} (field : RequestField) {s t : String} (same : Recased s t) :
    (readField field s : Except TellerError (Octets role)) = readField field t := by
  simp only [readField]
  rw [Octets.ofHex_congr same]

theorem mapM_readField_congr {role : Role} (field : RequestField) {s t : Option String}
    (same : Option.Rel Recased s t) :
    (s.mapM (readField field) : Except TellerError (Option (Octets role))) =
      t.mapM (readField field) := by
  cases same with
  | none => rfl
  | some same => simp only [Option.mapM_some, readField_congr field same]

theorem parse_alike (respells : r.Respells r') : Alike Order.Agrees r.parse r'.parse := by
  simp only [parse, Octets.ofHex_congr respells.verificationKey, Tag.ofHex_congr respells.tag,
    readField_congr .dest respells.dest, mapM_readField_congr .paymentAddr respells.paymentAddr]
  refine .bind_same _ fun key => .bind_same _ fun tag => .bind_same _ fun destination =>
    .bind_same _ fun paymentAddr => ?_
  refine .bind (respells.cheque.alike.mapError _) fun f f' agrees => ?_
  exact .ok ⟨rfl, rfl, respells.msat, rfl, agrees⟩

theorem authorize_eq (respells : r.Respells r') (terms : Terms) (now : UInt64) (l : Ledger) :
    authorize terms now r l = authorize terms now r' l := by
  refine Alike.eq (.bind respells.parse_alike fun o o' agrees => ?_)
  rw [agrees.check_eq, agrees.channel]
  refine .bind_same _ fun body => .bind_same _ fun l' => ?_
  rw [agrees.payment_eq]
  exact .ok rfl

theorem redeem_eq (respells : r.Respells r') (terms : Terms) (now : UInt64) (l : Ledger) :
    redeem terms now r l = redeem terms now r' l := by
  simp only [redeem, respells.authorize_eq]

end PayRequest.Respells

/-! What was redeemed stays so. -/

theorem authorize_eq_error_of_highest {terms : Terms} {now : UInt64} {r : PayRequest} {o : Order}
    {b : Cheque.Body} {l : Ledger} {k : UInt64} (good : Good terms now r o b)
    (highest : l.highest? o.channel = some k) (le : b.index ≤ k) (later : UInt64) :
    ∃ e, authorize terms later r l = .error e := by
  cases again : authorize terms later r l with
  | error e => exact ⟨e, rfl⟩
  | ok grant =>
      obtain ⟨p, l'⟩ := grant
      obtain ⟨o', b', good', claimed, _⟩ := authorize_eq_ok_iff.mp again
      obtain ⟨rfl, rfl⟩ := good.unique good'
      obtain ⟨above, _⟩ := Ledger.claim_eq_ok_iff.mp claimed
      exact absurd le (UInt64.not_le.mpr (above k highest))

/-- The signed order with the tag in upper case and nothing around the body and the signature. -/
def respelledRequest : PayRequest :=
  { signedOrder.toRequest with
    tag := "C0FFEE"
    cheque := Cheque.Frame.toHex
      { signedOrder.frame with opening := 0, header := (0, 0), closing := 0 } }

theorem respells_respelledRequest : signedOrder.toRequest.Respells respelledRequest where
  tag := by
    have lower : signedOrder.toRequest.tag = "c0ffee" := by decide
    rw [lower]
    refine .cons (.raised ?_) (.cons (.same _) (.cons (.raised ?_) (.cons (.raised ?_)
      (.cons (.raised ?_) (.cons (.raised ?_) .nil)))))
    all_goals decide
  verificationKey := .refl _
  paymentAddr := .some (.refl _)
  cheque := .reframed (Text.Hex.decode_encode _) (Text.Hex.decode_encode _)
    (Cheque.Frame.Agrees.sameInside ⟨rfl, rfl⟩)
  dest := .refl _
  msat := rfl

def silence : Failure :=
  .transport "POST /v1/channels/transactions" ⟨"connection refused", []⟩

/-- A node that never answers. -/
def silentNode : Dialogue.Node Unit :=
  fun _ s => (.error silence, s)

/-- Requests that differ in spelling alone are redeemed alike, whatever the ledger, the time and the
node. So once a payment was asked for one of them, the other is refused, however much was redeemed
in between. -/
theorem respelling_changes_nothing {r r' : PayRequest} (respells : r.Respells r') :
    (∀ terms now l, redeem terms now r l = redeem terms now r' l) ∧
    ∀ {σ : Type} (node : Dialogue.Node σ) (terms : Terms) (now : UInt64) (l : Ledger) (s : σ)
      (outcome : Except TellerError Json) (l₁ : Ledger) (exchanges : List Exchange) (s₁ : σ),
      (redeem terms now r l).run node s = ((outcome, l₁), exchanges, s₁) → exchanges ≠ [] →
      ∀ (visits : List Session.Visit) (later : UInt64),
        let l₂ := (Session.serve terms node visits l₁ s₁).2
        ∃ e, redeem terms later r' l₂ = .done (.error e, l₂) := by
  refine ⟨respells.redeem_eq, ?_⟩
  intro σ node terms now l s outcome l₁ exchanges s₁ ran asked visits later
  cases authorized : authorize terms now r l with
  | error e =>
      rw [redeem_of_error authorized] at ran
      cases ran
      exact absurd rfl asked
  | ok grant =>
      obtain ⟨p, granted⟩ := grant
      obtain ⟨o, b, good, claimed, _⟩ := authorize_eq_ok_iff.mp authorized
      rw [redeem_of_ok authorized] at ran
      cases ran
      obtain ⟨_, rfl⟩ := Ledger.claim_eq_ok_iff.mp claimed
      obtain ⟨k, highest, le⟩ := Session.highest?_le_of_serve terms node visits
        (Ledger.highest?_set_self l o.channel b.index)
      obtain ⟨e, refused⟩ := authorize_eq_error_of_highest good highest le later
      exact ⟨e, redeem_of_error (respells.authorize_eq .. ▸ refused)⟩

/-- The node fails the payment, and still the other spelling is refused. -/
theorem respelledRequest_refused :
    signedOrder.toRequest.Respells respelledRequest ∧
    redeem {} 1800000000000 signedOrder.toRequest .empty =
      redeem {} 1800000000000 respelledRequest .empty ∧
    ∃ e, redeem {} 1800000000000 respelledRequest (Ledger.empty.set signedOrder.channel 1) =
      .done (.error e, Ledger.empty.set signedOrder.channel 1) := by
  obtain ⟨same, again⟩ := respelling_changes_nothing respells_respelledRequest
  refine ⟨respells_respelledRequest, same {} 1800000000000 .empty, ?_⟩
  have claimed : Ledger.empty.claim signedOrder.channel signedBody.index =
      .ok (Ledger.empty.set signedOrder.channel 1) := rfl
  have authorized := authorize_eq_ok_iff.mpr ⟨_, _, good_signedOrder, claimed, rfl⟩
  have ran : (redeem {} 1800000000000 signedOrder.toRequest .empty).run silentNode () =
      ((.error (.node .sendPayment silence), Ledger.empty.set signedOrder.channel 1),
        [⟨.sendPayment (signedOrder.payment signedBody.lock {}), .error silence⟩], ()) := by
    rw [redeem_of_ok authorized]
    rfl
  exact again silentNode {} 1800000000000 .empty () _ _ _ () ran (List.cons_ne_nil _ _) []
    1800000000000

end ChequeTeller
