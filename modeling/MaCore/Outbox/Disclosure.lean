import MaCore.Iroh.Delivery

open rust
open ma_core.constants ma_core.error ma_core.did ma_core.key ma_core.doc ma_core.msg ma_core.service
open ma_core.reference

namespace ma_core.outbox

/-- The document is that of the base DID the message is addressed to. -/
def SentTo (lib : Lib) (m : Message) (document : Document) : Prop :=
  ∃ did, Did.try_from lib m.to = .ok did ∧ document.id = did.base_id

/-- What `encrypt` makes of data that the cipher seals: the nonce goes first. -/
def Seals (lib : Lib) (shared_secret : ByteArr 32) (label : String) (nonce : ByteArr 24)
    (data encrypted : Bytes) : Prop :=
  ∃ sealed_, lib.xchacha20poly1305_encrypt (derive_symmetric_key lib shared_secret label) nonce data =
    some sealed_ ∧ encrypted = nonce.val ++ sealed_

/-- The envelope of a message for the holder of a key. -/
structure Enclosed (lib : Lib) (entropy : Entropy) (public_key : ByteArr 32) (m : Message) (e : Envelope) :
    Prop where
  ephemeral_key : e.ephemeral_key = (lib.x25519_public_key entropy.ephemeral_secret).val
  headers : Seals lib (lib.x25519_diffie_hellman entropy.ephemeral_secret public_key) BLAKE3_HEADERS_LABEL
    entropy.headers_nonce (cbor.encode (m.headers lib).serialize) e.encrypted_headers
  content : Seals lib (lib.x25519_diffie_hellman entropy.ephemeral_secret public_key) blake3_content_label
    entropy.content_nonce m.content e.encrypted_content

/-- A document can be encrypted to: it has a key, and the envelope fits into memory. -/
def Enclosable (lib : Lib) (entropy : Entropy) (document : Document) (m : Message) : Prop :=
  ∃ public_key e, document.key_agreement_public_key_bytes lib = .ok public_key ∧
    Enclosed lib entropy public_key m e ∧
    (cbor.encode (m.headers lib).serialize).length ≤ MAX_ALLOCATION ∧
    (cbor.encode e.serialize).length ≤ MAX_ALLOCATION

section
variable {lib : Lib} {clock : Clock} {entropy : Entropy} {m : Message} {document : Document}

theorem encrypt_eq_ok_iff {data encrypted : Bytes} {shared_secret : ByteArr 32} {label : String}
    {nonce : ByteArr 24} :
    encrypt lib data (derive_symmetric_key lib shared_secret label) nonce = .ok encrypted ↔
      Seals lib shared_secret label nonce data encrypted ∧ encrypted.length ≤ MAX_ALLOCATION := by
  simp only [encrypt, Seals, bind_eq_ok_iff, ok_or_eq_ok_iff, to_vec_eq_ok_iff]
  constructor
  · rintro ⟨sealed_, hsealed, rfl, hlength⟩
    exact ⟨⟨sealed_, hsealed, rfl⟩, hlength⟩
  · rintro ⟨⟨sealed_, hsealed, rfl⟩, hlength⟩
    exact ⟨sealed_, hsealed, rfl, hlength⟩

/-- An envelope is longer than what is encrypted in it. -/
theorem encrypted_length_lt (e : Envelope) :
    e.encrypted_headers.length < (cbor.encode e.serialize).length ∧
      e.encrypted_content.length < (cbor.encode e.serialize).length := by
  constructor
  · exact cbor.structValue_length_gt (List.mem_cons_of_mem _ (List.mem_cons_of_mem _ List.mem_cons_self))
  · exact cbor.structValue_length_gt (List.mem_cons_of_mem _ List.mem_cons_self)

/-- A payload encrypted for the holder of a document. -/
def EnclosedFor (lib : Lib) (clock : Clock) (entropy : Entropy) (document : Document) (m : Message)
    (payload : Bytes) : Prop :=
  ∃ e, m.enclose_for lib clock entropy.ephemeral_secret entropy.headers_nonce entropy.content_nonce document =
    .ok e ∧ e.encode = .ok payload

/-- A valid message is enclosed for the key of a document, if the parts fit into memory. -/
theorem enclose_for_eq_ok_iff {e : Envelope} :
    m.enclose_for lib clock entropy.ephemeral_secret entropy.headers_nonce entropy.content_nonce document = .ok e ↔
      (m.headers lib).Valid lib clock ∧ ∃ public_key, document.key_agreement_public_key_bytes lib = .ok public_key ∧
        Enclosed lib entropy public_key m e ∧ (cbor.encode (m.headers lib).serialize).length ≤ MAX_ALLOCATION ∧
        e.encrypted_headers.length ≤ MAX_ALLOCATION ∧ e.encrypted_content.length ≤ MAX_ALLOCATION := by
  simp only [Message.enclose_for, bind_eq_ok_iff, exists_unit, Headers.validate_eq_ok_iff, Message.headers_cbor,
    to_cbor, to_vec_eq_ok_iff, encrypt_eq_ok_iff]
  constructor
  · rintro ⟨hvalid, public_key, hkey, _, ⟨rfl, hbytes⟩, _, ⟨hheaders, hheaders_length⟩, _,
      ⟨hcontent, hcontent_length⟩, he⟩
    cases he
    exact ⟨hvalid, public_key, hkey, ⟨rfl, hheaders, hcontent⟩, hbytes, hheaders_length, hcontent_length⟩
  · rintro ⟨hvalid, public_key, hkey, henclosed, hbytes, hheaders_length, hcontent_length⟩
    refine ⟨hvalid, public_key, hkey, _, ⟨rfl, hbytes⟩, _, ⟨henclosed.headers, hheaders_length⟩, _,
      ⟨henclosed.content, hcontent_length⟩, ?_⟩
    rw [← henclosed.ephemeral_key]
    rfl

theorem enclosedFor_iff :
    (∃ payload, EnclosedFor lib clock entropy document m payload) ↔
      (m.headers lib).Valid lib clock ∧ Enclosable lib entropy document m := by
  simp only [EnclosedFor, enclose_for_eq_ok_iff, Envelope.encode, to_cbor, to_vec_eq_ok_iff]
  constructor
  · rintro ⟨payload, e, ⟨hvalid, public_key, hkey, henclosed, hbytes, _⟩, rfl, hlength⟩
    exact ⟨hvalid, public_key, e, hkey, henclosed, hbytes, hlength⟩
  · rintro ⟨hvalid, public_key, e, hkey, henclosed, hbytes, hlength⟩
    obtain ⟨hheaders_length, hcontent_length⟩ := encrypted_length_lt e
    exact ⟨_, e, ⟨hvalid, public_key, hkey, henclosed, hbytes, by omega, by omega⟩, rfl, hlength⟩

end

/-- A transport that keeps the payloads it is given. -/
def CaptureWire : OutboxWire (List Bytes) where
  send_payload _ payload captured := (.ok (), captured ++ [payload])

namespace Outbox

variable {S : Type} {lib : Lib} {clock : Clock} {entropy : Entropy} {self : Outbox S} {m : Message}

/-- The payloads `send` hands to the transport, whichever that is. -/
def captured (lib : Lib) (clock : Clock) (entropy : Entropy) (self : Outbox S) (m : Message) : List Bytes :=
  (({ self with inner := self.inner.map fun _ => CaptureWire } : Outbox (List Bytes)).send lib clock entropy m
    []).2

theorem captured_eq :
    self.captured lib clock entropy m =
      if self.inner.isSome then (self.payload lib clock entropy m).toOption.toList else [] := by
  have hsame : ({ self with inner := self.inner.map fun _ => CaptureWire } : Outbox (List Bytes)).payload lib
      clock entropy m = self.payload lib clock entropy m := rfl
  unfold captured send
  rw [hsame]
  cases self.payload lib clock entropy m with
  | error e => cases e <;> exact (ite_self _).symm
  | ok payload => cases self.inner <;> rfl

theorem mem_captured_iff {payload : Bytes} :
    payload ∈ self.captured lib clock entropy m ↔
      self.inner.isSome ∧ self.payload lib clock entropy m = .ok payload := by
  rw [captured_eq]
  cases self.payload lib clock entropy m <;> simp [Except.toOption, @eq_comm _ payload]

/-- All a send does to its world is what its transport does with those payloads. -/
theorem send_world {transport : OutboxWire S} (hinner : self.inner = some transport) (world : S) :
    (self.send lib clock entropy m world).2 =
      (self.captured lib clock entropy m).foldl (fun world payload =>
        (transport.send_payload clock payload world).2) world := by
  rw [captured_eq, send, hinner]
  cases self.payload lib clock entropy m with
  | error e => cases e <;> rfl
  | ok payload => rfl

/-- A remote outbox discloses a message to its addressee only: always if the
    document it was opened with is the addressee's, and otherwise exactly if
    the message is not sent at all. -/
theorem discloses_to_addressee_iff (hremote : self.local = false)
    (hother : m.message_type ≠ MESSAGE_TYPE_BROADCAST) :
    (∀ payload ∈ self.captured lib clock entropy m,
      EnclosedFor lib clock entropy self.recipient_document m payload ∧
        SentTo lib m self.recipient_document) ↔
      SentTo lib m self.recipient_document ∨
        ¬ (self.inner.isSome ∧ (m.headers lib).Valid lib clock ∧
          Enclosable lib entropy self.recipient_document m) := by
  have hpayload (hvalid : (m.headers lib).Valid lib clock) (payload : Bytes) :
      self.payload lib clock entropy m = .ok payload ↔
        EnclosedFor lib clock entropy self.recipient_document m payload := by
    rw [payload_eq_enclose_for hvalid hremote hother, bind_eq_ok_iff]
    rfl
  constructor
  · intro haddressed
    by_cases hsent : SentTo lib m self.recipient_document
    · exact .inl hsent
    · right
      rintro ⟨hopen, hvalid, henclosable⟩
      obtain ⟨payload, henclosed⟩ := enclosedFor_iff.mpr ⟨hvalid, henclosable⟩
      have hmem : payload ∈ self.captured lib clock entropy m :=
        mem_captured_iff.mpr ⟨hopen, (hpayload hvalid payload).mpr henclosed⟩
      exact hsent (haddressed payload hmem).2
  · intro hcondition payload hmem
    obtain ⟨hopen, hok⟩ := mem_captured_iff.mp hmem
    have hvalid : (m.headers lib).Valid lib clock := by
      obtain ⟨_, hvalidate, _⟩ := bind_eq_ok_iff.mp hok
      exact Headers.validate_eq_ok_iff.mp hvalidate
    have henclosed := (hpayload hvalid payload).mp hok
    obtain hsent | hnothing := hcondition
    · exact ⟨henclosed, hsent⟩
    · exact absurd ⟨hopen, enclosedFor_iff.mp ⟨payload, henclosed⟩⟩ hnothing

end Outbox

/-- An outbox to the third identity of the reference library. -/
def outbox_3 : Outbox Unit :=
  Outbox.from_transport ⟨fun _ _ world => (.ok (), world)⟩ (document 3) false (did 3).base_id INBOX_PROTOCOL_ID

theorem direct_enclosedFor (recipient : UInt8) :
    EnclosedFor library (some 1000) iroh.entropy_5 (document recipient) iroh.direct
      (wireEnvelope (enclosed recipient iroh.direct)) :=
  ⟨_, enclose_for_eq_enclosed iroh.direct_valid iroh.direct_length.2.1 (show 3 ≤ 4096 by decide),
    encode_enclosed iroh.direct_length.2.1 (show 3 ≤ 4096 by decide)⟩

/-- An outbox to the second identity discloses the message for it to no one else. -/
theorem discloses_to_addressee_iff_direct :
    wireEnvelope (enclosed 2 iroh.direct) ∈ iroh.outbox_2.captured library (some 1000) iroh.entropy_5 iroh.direct ∧
      ∀ payload ∈ iroh.outbox_2.captured library (some 1000) iroh.entropy_5 iroh.direct,
        EnclosedFor library (some 1000) iroh.entropy_5 (document 2) iroh.direct payload ∧
          SentTo library iroh.direct (document 2) := by
  refine ⟨Outbox.mem_captured_iff.mpr ⟨rfl, iroh.direct_payload⟩, ?_⟩
  exact (Outbox.discloses_to_addressee_iff rfl iroh.direct_type).mpr (.inl ⟨did 2, did_try_from 2, rfl⟩)

/-- Sent through an outbox to the third identity, the message for the second
    is one the third can read. -/
theorem disclosed_to_another :
    wireEnvelope (enclosed 3 iroh.direct) ∈ outbox_3.captured library (some 1000) iroh.entropy_5 iroh.direct ∧
      (enclosed 3 iroh.direct).decrypt library (some 1000) (encryptionKey 3) = .ok iroh.direct ∧
      ¬ SentTo library iroh.direct outbox_3.recipient_document := by
  obtain ⟨e, henclose, hencode⟩ := direct_enclosedFor 3
  refine ⟨Outbox.mem_captured_iff.mpr ⟨rfl, ?_⟩, Envelope.decrypt_eq_ok_iff.mpr ⟨?_, iroh.direct_valid⟩, ?_⟩
  · rw [Outbox.payload_eq_enclose_for iroh.direct_valid rfl iroh.direct_type]
    exact bind_eq_ok_iff.mpr ⟨e, henclose, hencode⟩
  · exact Envelope.holds_enclose_for cborRoundTrips diffieHellmanAgrees aeadOpens (document_key_agreement 3)
      (enclose_for_eq_enclosed iroh.direct_valid iroh.direct_length.2.1 (show 3 ≤ 4096 by decide))
  · rintro ⟨recipient, hrecipient, hdocument⟩
    have hdid : Did.try_from library (did 2).base_id = .ok recipient := hrecipient
    rw [did_try_from] at hdid
    cases hdid
    exact absurd (did_injective hdocument) (by decide)

end ma_core.outbox
