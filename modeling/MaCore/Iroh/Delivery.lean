import MaCore.Iroh.Endpoint
import MaCore.Reference

open rust
open ma_core.error ma_core.did ma_core.key ma_core.doc ma_core.msg ma_core.service ma_core.outbox
open ma_core.reference

namespace ma_core.iroh

/-- A document of the message's recipient, who is the holder of the key. -/
structure AddressedTo (lib : Lib) (document : Document) (m : Message) (key : EncryptionKey) :
    Prop where
  recipient : ∃ did, Did.try_from lib m.to = .ok did ∧ document.id = did.base_id
  holder : ∃ did, Did.try_from lib key.did.id = .ok did ∧ document.id = did.base_id
  key_agreement :
    document.key_agreement_public_key_bytes lib = .ok (lib.x25519_public_key key.private_key)

section
variable {lib : Lib} {m : Message} {sent received : Clock} {entropy : Entropy} {resolver : Resolver}
  {receiver : InboundSecurity} {sender_document : Document} {protocol : String}

theorem AddressedTo.sameBase {document : Document} {key : EncryptionKey}
    (haddressed : AddressedTo lib document m key) : InboundSecurity.SameBase lib m.to key.did.id := by
  obtain ⟨recipient, hrecipient, hdocument⟩ := haddressed.recipient
  obtain ⟨holder, hholder, hdocument'⟩ := haddressed.holder
  have hsame := Did.base_id_inj (hdocument.symm.trans hdocument')
  rw [Did.try_from_eq_ok_iff] at hrecipient hholder
  rw [← hsame] at hholder
  exact ⟨_, _, _, hrecipient, hholder⟩

/-- What a remote outbox makes of a message is decoded to that message. -/
theorem decode_payload {S : Type} {outbox : Outbox S} {payload : Bytes} (hcbor : lib.CborRoundTrips)
    (hagree : lib.DiffieHellmanAgrees) (haead : lib.AeadOpens) (hremote : outbox.local = false)
    (haddressed : m.message_type ≠ MESSAGE_TYPE_BROADCAST →
      AddressedTo lib outbox.recipient_document m receiver.recipient_key)
    (hsent : (m.headers lib).Valid lib sent)
    (hverified : InboundSecurity.Verified lib received resolver m)
    (hreceived : (m.headers lib).Valid lib received)
    (hunseen : ∀ now, received = some now → ¬ receiver.replay_guard.Holds now m.id)
    (hpayload : outbox.payload lib sent entropy m = .ok payload) :
    (receiver.decode lib received resolver payload protocol).1 = .ok m := by
  by_cases hbroadcast : m.message_type = MESSAGE_TYPE_BROADCAST
  · rw [Outbox.payload_eq_encode hsent (.inr hbroadcast)] at hpayload
    exact InboundSecurity.decode_raw hcbor hpayload hbroadcast (.inr hverified) hreceived hunseen
  · have hto := haddressed hbroadcast
    rw [Outbox.payload_eq_enclose_for hsent hremote hbroadcast, bind_eq_ok_iff] at hpayload
    obtain ⟨e, henclose, hencode⟩ := hpayload
    have hholds := Envelope.holds_enclose_for hcbor hagree haead hto.key_agreement henclose
    exact InboundSecurity.decode_envelope hcbor hencode
      (Envelope.decrypt_eq_ok_iff.mpr ⟨hholds, hreceived⟩) hbroadcast hto.sameBase (.inr hverified)
      hunseen

end

/-! A message from one identity of the reference library to another. -/

def direct : Message := signed 1 (did 2).base_id MESSAGE_TYPE_MESSAGE "m" 0

theorem direct_type : direct.message_type ≠ MESSAGE_TYPE_BROADCAST :=
  show MESSAGE_TYPE_MESSAGE ≠ MESSAGE_TYPE_BROADCAST by decide

theorem direct_valid : (direct.headers library).Valid library (some 1000) where
  id := by decide
  protocol := rfl
  reply_to _ hmem := by cases hmem
  content_type := show "text/plain".isEmpty = false by decide
  sender := ⟨_, did_parse 1⟩
  broadcast hbroadcast := absurd hbroadcast direct_type
  recipient _ := ⟨did_trim 2, _, did_parse 2⟩
  fresh := ⟨1000, rfl, fresh_never (by decide)⟩

theorem direct_length :
    (wire direct).length ≤ 4096 ∧ (cbor.encode (direct.headers library).serialize).length ≤ 4096 ∧
      (cbor.encode (direct.unsigned_headers library).serialize).length ≤ 4096 := by
  refine @signed_length_le 1 (did 2).base_id MESSAGE_TYPE_MESSAGE "m" 0 direct rfl 4096 ?_
  exact Nat.add_le_add_right (Nat.add_le_add_right
    (Nat.add_le_add_left (did_length 2) 1) 26) 1152 |>.trans (by decide)

/-- An outbox to the second identity, over a transport that loses what it is given. -/
def outbox_2 : Outbox Unit :=
  Outbox.from_transport ⟨fun _ _ world => (.ok (), world)⟩ (document 2) false (did 2).base_id
    INBOX_PROTOCOL_ID

def entropy_5 : Entropy := ⟨secret 5, nonce, nonce⟩

theorem direct_payload :
    outbox_2.payload library (some 1000) entropy_5 direct =
      .ok (wireEnvelope (enclosed 2 direct)) := by
  have henclose : direct.enclose_for library (some 1000) (secret 5) nonce nonce (document 2) =
      .ok (enclosed 2 direct) :=
    enclose_for_eq_enclosed direct_valid direct_length.2.1 (show 3 ≤ 4096 by decide)
  rw [Outbox.payload_eq_enclose_for direct_valid rfl direct_type]
  exact bind_eq_ok_iff.mpr ⟨_, henclose, encode_enclosed direct_length.2.1 (show 3 ≤ 4096 by decide)⟩

end ma_core.iroh
