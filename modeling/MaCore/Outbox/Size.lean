import MaCore.Msg.Payload
import MaCore.Outbox.Disclosure

open rust
open ma_core.error ma_core.doc ma_core.msg ma_core.service ma_core.iroh

namespace ma_core.msg

/-- The size of what `wire_fields` lists. -/
def fields_size (id protocol message_type «from» «to» : String) (created_at exp : UInt64)
    (content_type : String) (reply_to : Option String) (name : String) (bytes signature : Bytes) : Nat :=
  cbor.structSize (
    [("id", cbor.textSize id), ("protocol", cbor.textSize protocol), ("type", cbor.textSize message_type),
      ("from", cbor.textSize «from»), ("to", cbor.textSize «to»),
      ("createdAt", cbor.headSize created_at.toNat), ("exp", cbor.headSize exp.toNat),
      ("contentType", cbor.textSize content_type)] ++
    (reply_to.map fun id => ("replyTo", cbor.textSize id)).toList ++
    [(name, cbor.bytesSize bytes), ("signature", cbor.bytesSize signature)])

/-- How long a message is on the wire. -/
def Message.wire_size (self : Message) : Nat :=
  fields_size self.id self.protocol self.message_type self.from self.to self.created_at self.exp
    self.content_type self.reply_to "content" self.content self.signature

/-- How long headers are before they are encrypted. -/
def Headers.wire_size (self : Headers) : Nat :=
  fields_size self.id self.protocol self.message_type self.from self.to self.created_at self.exp
    self.content_type self.reply_to "contentHash" self.content_hash.val self.signature

/-- How long an envelope is on the wire. -/
def Envelope.wire_size (self : Envelope) : Nat :=
  cbor.structSize [("ephemeralKey", cbor.bytesSize self.ephemeral_key),
    ("encryptedContent", cbor.bytesSize self.encrypted_content),
    ("encryptedHeaders", cbor.bytesSize self.encrypted_headers)]

section
variable {id protocol message_type from_ to_ content_type name : String} {created_at exp : UInt64}
  {reply_to : Option String} {bytes signature : Bytes}

theorem fields_length :
    (cbor.encode (cbor.structValue (wire_fields id protocol message_type from_ to_ created_at exp content_type
      reply_to name bytes signature))).length =
    fields_size id protocol message_type from_ to_ created_at exp content_type reply_to name bytes
      signature := by
  rw [cbor.encode_structValue_length, fields_size, wire_fields]
  cases reply_to <;>
    simp [optionalField, cbor.encode_text_length, cbor.encode_uint_length, cbor.encode_bytesValue_length]

/-- The messages' and the headers' fields differ in one name and the bytes under it. -/
theorem fields_size_swap (name' : String) (bytes' : Bytes) :
    fields_size id protocol message_type from_ to_ created_at exp content_type reply_to name bytes signature +
        (cbor.textSize name' + cbor.bytesSize bytes') =
      fields_size id protocol message_type from_ to_ created_at exp content_type reply_to name' bytes'
        signature + (cbor.textSize name + cbor.bytesSize bytes) := by
  unfold fields_size cbor.structSize
  cases reply_to <;> simp <;> omega

end

theorem Message.serialize_length (m : Message) : (cbor.encode m.serialize).length = m.wire_size :=
  fields_length

theorem Headers.serialize_length (headers : Headers) :
    (cbor.encode headers.serialize).length = headers.wire_size :=
  fields_length

theorem Envelope.serialize_length (e : Envelope) : (cbor.encode e.serialize).length = e.wire_size := by
  rw [Envelope.serialize, cbor.encode_structValue_length, Envelope.wire_size]
  simp [cbor.encode_bytesValue_length]

theorem Message.encode_length {m : Message} {payload : Bytes} (hencode : m.encode = .ok payload) :
    payload.length = m.wire_size := by
  obtain ⟨rfl, _⟩ := to_vec_eq_ok_iff.mp hencode
  exact m.serialize_length

theorem Envelope.encode_length {e : Envelope} {payload : Bytes} (hencode : e.encode = .ok payload) :
    payload.length = e.wire_size := by
  obtain ⟨rfl, _⟩ := to_vec_eq_ok_iff.mp hencode
  exact e.serialize_length

end ma_core.msg

namespace ma_core.outbox

variable {lib : Lib} {clock : Clock} {entropy : Entropy} {m : Message} {document : Document}

/-- How long a message is as it is sent to another endpoint: raw, or in the envelope it is enclosed in. -/
def wire_size (lib : Lib) (clock : Clock) (entropy : Entropy) (recipient_document : Document) (m : Message) :
    MaResult Nat :=
  if m.message_type == MESSAGE_TYPE_BROADCAST then .ok m.wire_size
  else do
    let envelope ← m.enclose_for lib clock entropy.ephemeral_secret entropy.headers_nonce
      entropy.content_nonce recipient_document
    return envelope.wire_size

/-- A size is more than that of the content, and not much more than twice that of content and headers. -/
def Expands (lib : Lib) (m : Message) (size : Nat) : Prop :=
  m.content.length < size ∧ size ≤ 2 * (m.content.length + (m.headers lib).wire_size) + 331

theorem message_expands (lib : Lib) (m : Message) : Expands lib m m.wire_size := by
  have hcontent : m.content.length < (cbor.encode m.serialize).length :=
    @cbor.structValue_length_gt _ "content" _ (List.mem_append_right _ List.mem_cons_self)
  have hswap : m.wire_size + (cbor.textSize "contentHash" + cbor.bytesSize (m.headers lib).content_hash.val) =
      (m.headers lib).wire_size + (cbor.textSize "content" + cbor.bytesSize m.content) := fields_size_swap _ _
  have hnames : cbor.textSize "content" ≤ cbor.textSize "contentHash" := by decide
  have hbytes := cbor.bytesSize_le m.content
  rw [m.serialize_length] at hcontent
  exact ⟨hcontent, by omega⟩

theorem Seals.length {shared_secret : ByteArr 32} {label : String} {nonce : ByteArr 24}
    {data encrypted : Bytes} (hseals : Seals lib shared_secret label nonce data encrypted)
    (htags : lib.AeadTags) : encrypted.length = data.length + 40 := by
  obtain ⟨sealed_, hsealed, rfl⟩ := hseals
  rw [List.length_append, nonce.length_val, htags _ _ _ _ hsealed]
  omega

theorem enclosed_expands (htags : lib.AeadTags) {public_key : ByteArr 32} {e : Envelope}
    (henclosed : Enclosed lib entropy public_key m e) : Expands lib m e.wire_size := by
  have hkey : e.ephemeral_key.length = 32 := by
    rw [henclosed.ephemeral_key, ByteArr.length_val]
  have hheaders := henclosed.headers.length htags
  have hcontent := henclosed.content.length htags
  have hlower := (encrypted_length_lt e).2
  have hupper := e.serialize_length_le
  rw [Headers.serialize_length] at hheaders
  rw [Envelope.serialize_length] at hlower hupper
  exact ⟨by omega, by omega⟩

/-- What a remote outbox hands to its transport is as long as the message's wire size. -/
theorem payload_length {S : Type} {self : Outbox S} {payload : Bytes} (htags : lib.AeadTags)
    (hremote : self.local = false) (hpayload : self.payload lib clock entropy m = .ok payload) :
    wire_size lib clock entropy self.recipient_document m = .ok payload.length ∧
      Expands lib m payload.length := by
  obtain ⟨_, hvalidate, _⟩ := bind_eq_ok_iff.mp hpayload
  have hvalid := Headers.validate_eq_ok_iff.mp hvalidate
  by_cases hbroadcast : m.message_type = MESSAGE_TYPE_BROADCAST
  · rw [Outbox.payload_eq_encode hvalid (.inr hbroadcast)] at hpayload
    rw [Message.encode_length hpayload, wire_size, hbroadcast]
    exact ⟨rfl, message_expands lib m⟩
  · rw [Outbox.payload_eq_enclose_for hvalid hremote hbroadcast, bind_eq_ok_iff] at hpayload
    obtain ⟨e, henclose, hencode⟩ := hpayload
    obtain ⟨_, public_key, _, henclosed, _⟩ := enclose_for_eq_ok_iff.mp henclose
    have hother : (m.message_type == MESSAGE_TYPE_BROADCAST) = false := beq_eq_false_iff_ne.mpr hbroadcast
    rw [Envelope.encode_length hencode, wire_size, hother, henclose]
    exact ⟨rfl, enclosed_expands htags henclosed⟩

/-- A send that succeeds handed its transport one payload. -/
theorem captured_of_send {S : Type} {self : Outbox S} {world : S}
    (hsend : (self.send lib clock entropy m world).1 = .ok ()) :
    ∃ payload, self.captured lib clock entropy m = [payload] ∧
      self.payload lib clock entropy m = .ok payload := by
  cases hpayload : self.payload lib clock entropy m with
  | error e =>
    rw [Outbox.send, hpayload] at hsend
    cases e <;> cases hsend
  | ok payload =>
    refine ⟨payload, ?_, rfl⟩
    cases hinner : self.inner with
    | none =>
      rw [Outbox.send, hpayload, hinner] at hsend
      cases hsend
    | some transport =>
      rw [Outbox.captured_eq, hpayload, hinner]
      rfl

/-- Sending checks no size: what a successful send to another endpoint wrote is as long as the message's
    wire size, which the content alone can bring over any limit, and a receiver reads exactly the payloads
    within its own. -/
theorem sent_payloads_sized (htags : lib.AeadTags) :
    (∀ {S : Type} (self : Outbox S) (entropy : Entropy) (m : Message) (world : S), self.local = false →
      (self.send lib clock entropy m world).1 = .ok () → ∃ payload size,
        self.captured lib clock entropy m = [payload] ∧
          wire_size lib clock entropy self.recipient_document m = .ok size ∧ payload.length = size ∧
          Expands lib m size) ∧
    (∀ (self : IrohEndpoint) (target protocol : String) (m : Message) (transmit : Bytes → ServiceResult Unit),
      target ≠ self.id → (self.send_broadcast_to lib clock target protocol m transmit).1 = .ok () →
      ∃ payload, m.encode = .ok payload ∧ transmit payload = .ok () ∧ payload.length = m.wire_size ∧
        Expands lib m m.wire_size) ∧
    ∀ (receiver : IrohEndpoint) (resolver : Resolver) (handler : InboxProtocolHandler) (payload : Bytes),
      (DEFAULT_MAX_INBOUND_MESSAGE_SIZE < payload.length →
        receiver.receive_stream lib clock resolver handler payload = receiver) ∧
      (payload.length ≤ DEFAULT_MAX_INBOUND_MESSAGE_SIZE → ∀ m,
        (receiver.inbound_security.decode lib clock resolver payload handler.protocol).1 = .ok m →
        ∃ now, clock = some now ∧ receiver.receive_stream lib clock resolver handler payload =
          IrohEndpoint.push { receiver with inbound_security :=
            (receiver.inbound_security.decode lib clock resolver payload handler.protocol).2 }
            handler.inbox now m) := by
  refine ⟨fun self entropy m world hremote hsend => ?_, fun self target protocol m transmit htarget hsend => ?_,
    fun receiver resolver handler payload => ⟨fun hlarge => ?_, fun hsize m hdecode => ?_⟩⟩
  · obtain ⟨payload, hcaptured, hpayload⟩ := captured_of_send hsend
    obtain ⟨hsize, hexpands⟩ := payload_length htags hremote hpayload
    exact ⟨payload, payload.length, hcaptured, hsize, rfl, hexpands⟩
  · unfold IrohEndpoint.send_broadcast_to at hsend
    cases hcheck : IrohEndpoint.check_broadcast lib clock m with
    | error e =>
      rw [hcheck] at hsend
      cases hsend
    | ok _ =>
      simp only [hcheck, if_neg htarget, bind_eq_ok_iff, validated_eq_ok_iff] at hsend
      obtain ⟨payload, hencode, htransmit⟩ := hsend
      exact ⟨payload, hencode, htransmit, Message.encode_length hencode, message_expands lib m⟩
  · exact if_pos hlarge
  · exact IrohEndpoint.receive_stream_accepts hsize hdecode

theorem sent_payloads_sized_direct :
    ∃ payload size, iroh.outbox_2.captured reference.library (some 1000) iroh.entropy_5 iroh.direct = [payload] ∧
      wire_size reference.library (some 1000) iroh.entropy_5 iroh.outbox_2.recipient_document iroh.direct =
        .ok size ∧ payload.length = size ∧ Expands reference.library iroh.direct size := by
  have hsend : (iroh.outbox_2.send reference.library (some 1000) iroh.entropy_5 iroh.direct ()).1 = .ok () := by
    rw [Outbox.send_eq _ _ _ iroh.direct_payload rfl]
  exact (sent_payloads_sized reference.aeadTags).1 iroh.outbox_2 iroh.entropy_5 iroh.direct () rfl hsend

/-- A broadcast of a mebibyte is sent, and is too large for every receiver. -/
theorem mebibyte_sent :
    ¬ ∀ {S : Type} (self : Outbox S) (lib : Lib) (clock : Clock) (entropy : Entropy) (m : Message) (world : S),
      self.local = false → (self.send lib clock entropy m world).1 = .ok () →
      ∀ payload ∈ self.captured lib clock entropy m, payload.length ≤ DEFAULT_MAX_INBOUND_MESSAGE_SIZE := by
  intro hclaim
  let content : Bytes := List.replicate DEFAULT_MAX_INBOUND_MESSAGE_SIZE 0
  obtain ⟨m, hm, hbroadcast, hvalid, hheaders⟩ := Message.broadcast_constructed content
  have hcontent : m.content = 0 :: content := Message.Constructed.content_eq (.new_with_exp 0 hm)
  have hcontent_length : m.content.length = DEFAULT_MAX_INBOUND_MESSAGE_SIZE + 1 := by
    rw [hcontent, List.length_cons, List.length_replicate]
  obtain ⟨hlower, hupper⟩ := message_expands reference.library m
  rw [Headers.serialize_length] at hheaders
  have hmax : 2 * (DEFAULT_MAX_INBOUND_MESSAGE_SIZE + 1 + 2048) + 331 ≤ MAX_ALLOCATION := by decide
  have hencode : m.encode = .ok (cbor.encode m.serialize) := by
    refine to_vec_eq_ok_iff.mpr ⟨rfl, ?_⟩
    rw [m.serialize_length]
    omega
  have hpayload : iroh.outbox_2.payload reference.library (some 1000) iroh.entropy_5 m =
      .ok (cbor.encode m.serialize) := by
    rw [Outbox.payload_eq_encode hvalid (.inr hbroadcast), hencode]
  have hsend : (iroh.outbox_2.send reference.library (some 1000) iroh.entropy_5 m ()).1 = .ok () := by
    rw [Outbox.send_eq _ _ _ hpayload rfl]
  have hfits := hclaim _ _ _ _ _ _ rfl hsend _ (Outbox.mem_captured_iff.mpr ⟨rfl, hpayload⟩)
  rw [m.serialize_length] at hfits
  omega

end ma_core.outbox
