import ChequeTeller.Proofs.Cheque.Frame
import ChequeTeller.Proofs.Lightning.Rest.Instructions
import ChequeTeller.Proofs.Lightning.Rest.Traffic
import ChequeTeller.Proofs.Octets
import ChequeTeller.Proofs.Redemption.Authorization

/-!
What a node is asked to pay for a cheque: what the cheque's lock and the request for it say, at the
terms' fee limit and delta, in one request of the client and no other. What the node answers is
left apart.
-/

namespace ChequeTeller

open Lightning Rest

/-- The instruction is what the request `r`, for a cheque with the body `b`, asks for. -/
structure Lightning.Rest.Instruction.Follows (i : Instruction) (terms : Terms) (r : PayRequest)
    (b : Cheque.Body) : Prop where
  paymentHash : i.paymentHash = b.lock.bytes
  dest : i.dest.length = 33 ∧ Text.Hex.encode i.dest = r.dest.toLower
  amountMsat : i.amountMsat = r.msat.toNat
  feeLimitSat : i.feeLimitSat = terms.payFeeLimitSat.toNat
  finalCltvDelta : i.finalCltvDelta = terms.finalCltvDelta.toNat
  paymentAddr : i.paymentAddr.map Text.Hex.encode = r.paymentAddr.map String.toLower
  paymentAddr_length : ∀ addr ∈ i.paymentAddr, addr.length = 32

variable {terms : Terms} {now : UInt64} {r : PayRequest} {l l' : Ledger} {o : Order}
  {b : Cheque.Body}

theorem PayRequest.Spells.encode_paymentAddr (h : r.Spells o) :
    (o.paymentAddr.map (·.bytes)).map Text.Hex.encode = r.paymentAddr.map String.toLower := by
  have spelled := h.paymentAddr
  cases ha : o.paymentAddr with
  | none =>
      rw [ha, Option.map_none, Option.map_eq_none_iff] at spelled
      rw [spelled]
      rfl
  | some addr =>
      rw [ha, Option.map_some, Option.map_eq_some_iff] at spelled
      obtain ⟨text, given, spelled⟩ := spelled
      rw [given]
      exact congrArg some (Octets.ofHex_eq_ok_iff.mp spelled).symm

theorem Good.follows (good : Good terms now r o b) :
    (Instruction.ofPayment (o.payment b.lock terms)).Follows terms r b where
  paymentHash := rfl
  dest := ⟨o.destination.length_bytes, (Octets.ofHex_eq_ok_iff.mp good.spells.dest).symm⟩
  amountMsat := congrArg UInt64.toNat good.spells.msat
  feeLimitSat := rfl
  finalCltvDelta := rfl
  paymentAddr := good.spells.encode_paymentAddr
  paymentAddr_length := by
    intro bytes given
    obtain ⟨addr, _, rfl⟩ := Option.map_eq_some_iff.mp given
    exact addr.length_bytes

theorem Good.isSome_paymentAddr (good : Good terms now r o b) :
    ((Client.paymentBody (o.payment b.lock terms)).get? "payment_addr").isSome =
      r.paymentAddr.isSome := by
  have same := congrArg Option.isSome good.spells.encode_paymentAddr
  simp only [Option.isSome_map] at same
  rw [← same]
  cases h : o.paymentAddr <;>
    simp [Client.paymentBody, Order.payment, Terms.payment, h, Json.get?,
      List.lookup_cons]

/-! A cheque with its signature, and a client to redeem it with. -/

/-- The request that spells the order in lower case. -/
def Order.toRequest (o : Order) : PayRequest where
  tag := o.channel.tag.toHex
  verificationKey := o.channel.key.toHex
  paymentAddr := o.paymentAddr.map (·.toHex)
  cheque := o.frame.toHex
  dest := o.destination.toHex
  msat := o.amountMsat

theorem Order.spells_toRequest (o : Order) : o.toRequest.Spells o where
  key := Octets.ofHex_toHex _
  tag := Tag.ofHex_toHex _
  dest := Octets.ofHex_toHex _
  paymentAddr := by
    simp only [toRequest, Option.map_map]
    exact Option.map_congr fun addr _ => Octets.ofHex_toHex addr
  cheque := Cheque.Frame.ofHex_toHex _
  msat := rfl

def signedBody : Cheque.Body :=
  ⟨1, 100000, 1800000060000, ⟨List.replicate 32 0x33, rfl⟩⟩

def signedOrder : Order where
  channel :=
    { key := ⟨[0x19, 0x7F, 0x6B, 0x23, 0xE1, 0x6C, 0x85, 0x32, 0xC6, 0xAB, 0xC8, 0x38, 0xFA, 0xCD,
        0x5E, 0xA7, 0x89, 0xBE, 0x0C, 0x76, 0xB2, 0x92, 0x03, 0x34, 0x03, 0x9B, 0xFA, 0x8B, 0x3D,
        0x36, 0x8D, 0x61], rfl⟩
      tag := ⟨[0xC0, 0xFF, 0xEE]⟩ }
  destination := ⟨0x02 :: List.replicate 32 0xAB, rfl⟩
  amountMsat := 100000
  paymentAddr := some ⟨List.replicate 32 0x22, rfl⟩
  frame := .assemble signedBody.encode
    ⟨[0xE1, 0x8C, 0x59, 0x50, 0x04, 0x4E, 0xBD, 0x33, 0xEF, 0xAD, 0x7E, 0xEE, 0xF5, 0xD4, 0x3A,
      0x48, 0xEF, 0xF2, 0xC1, 0x52, 0x66, 0x4F, 0x90, 0x1B, 0xCC, 0x3B, 0xCE, 0x42, 0xFF, 0x6C,
      0x25, 0x49, 0x3F, 0x64, 0xC8, 0xDC, 0x21, 0xB1, 0xEC, 0x52, 0x87, 0xB1, 0x1F, 0x02, 0x53,
      0x25, 0xBB, 0xF8, 0x35, 0xFD, 0x86, 0xEA, 0xC0, 0x28, 0x52, 0x74, 0xCA, 0x9E, 0xE2, 0x60,
      0xC0, 0x4F, 0x0E, 0x05], rfl⟩

theorem signedOrder_verifies :
    signedOrder.frame.signature.verifies (signedOrder.channel.tag.bytes ++ signedOrder.frame.body)
      signedOrder.channel.key = true := by
  decide +kernel

theorem good_signedOrder : Good {} 1800000000000 signedOrder.toRequest signedOrder signedBody where
  spells := signedOrder.spells_toRequest
  signed := signedOrder_verifies
  body := rfl
  inTime := by decide
  covered := by decide

def localClient : Client where
  base := ⟨"http", some ⟨none, .ipv4 ⟨127, 0, 0, 1⟩, some 8080⟩, .rooted [""], none, none⟩
  macaroon := ⟨[0x02, 0x01], by decide⟩
  trust := .anyone

/-! The request that redeeming makes. -/

/-- Redeeming a good cheque makes one request, for what the cheque and its order say. -/
theorem asks_what_cheque_authorises {σ : Type} {base : Url} {macaroon : Macaroon} {trust : Trust}
    {c : Client} (made : Client.new base macaroon trust = .ok c) (good : Good terms now r o b)
    (claimed : l.claim o.channel b.index = .ok l') (wire : Wire σ) (s : σ) :
    (∃ q body i, (Dialogue.run (c.node wire.logged) (redeem terms now r l) (s, [])).2.2.2 = [q] ∧
      q.method = .post ∧ q.url.query = none ∧
      (∃ front, q.url.path = .rooted (front ++ ["v1", "channels", "transactions"])) ∧
      q.body = some body ∧ (body.get? "payment_addr").isSome = r.paymentAddr.isSome ∧
      Instruction.read? body = some i ∧ i.Follows terms r b) ∧
    Function.Injective Client.paymentBody := by
  refine ⟨?_, Instruction.paymentBody_injective⟩
  have authorized := authorize_eq_ok_iff.mpr ⟨o, b, good, claimed, rfl⟩
  obtain ⟨front, url⟩ :=
    Client.url_sendPayment (Client.isBase_of_new made) (o.payment b.lock terms)
  refine ⟨c.request (.sendPayment (o.payment b.lock terms)), _, _, ?_, rfl, ?_, ⟨front, ?_⟩, rfl,
    good.isSome_paymentAddr, Instruction.read?_paymentBody _, good.follows⟩
  · rw [Client.run_logged, redeem_of_ok authorized]
    rfl
  · exact congrArg Url.query url
  · exact congrArg Url.path url

/-- The signed cheque is redeemed at a client whose node answers with an empty body. -/
theorem signedOrder_asks :
    Client.new localClient.base localClient.macaroon localClient.trust = .ok localClient ∧
    Good {} 1800000000000 signedOrder.toRequest signedOrder signedBody ∧
    Ledger.empty.claim signedOrder.channel signedBody.index =
      .ok (Ledger.empty.set signedOrder.channel signedBody.index) ∧
    ∃ q body i,
      (Dialogue.run (localClient.node (Wire.logged fun _ s => (.complete 200 [], s)))
        (redeem {} 1800000000000 signedOrder.toRequest .empty) ((), [])).2.2.2 = [q] ∧
      q.method = .post ∧ q.body = some body ∧ Instruction.read? body = some i ∧
      i.Follows {} signedOrder.toRequest signedBody := by
  have made :
      Client.new localClient.base localClient.macaroon localClient.trust = .ok localClient := rfl
  have claimed : Ledger.empty.claim signedOrder.channel signedBody.index =
      .ok (Ledger.empty.set signedOrder.channel signedBody.index) := rfl
  obtain ⟨⟨q, body, i, asked, post, _, _, sent, _, read, follows⟩, _⟩ :=
    asks_what_cheque_authorises made good_signedOrder claimed (fun _ s => (.complete 200 [], s)) ()
  exact ⟨made, good_signedOrder, claimed, q, body, i, asked, post, sent, read, follows⟩

end ChequeTeller
