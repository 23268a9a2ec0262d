import MaCore.Msg.ReplayGuard
import MaCore.Msg.Wire

open rust
open ma_core.constants ma_core.error ma_core.key ma_core.doc

namespace ma_core.msg

/-- An encrypted message: headers and content are sealed under keys derived
    from one shared secret. -/
structure Envelope where
  ephemeral_key : Bytes
  encrypted_content : Bytes
  encrypted_headers : Bytes
deriving DecidableEq

def Envelope.serialize (self : Envelope) : cbor.Value := cbor.structValue [
  ("ephemeralKey", cbor.bytesValue self.ephemeral_key),
  ("encryptedContent", cbor.bytesValue self.encrypted_content),
  ("encryptedHeaders", cbor.bytesValue self.encrypted_headers)]

def Envelope.deserialize (value : cbor.Value) : Except String Envelope := do
  let fields ← cbor.readFields value
  return {
    ephemeral_key := ← serde.required fields "ephemeralKey" cbor.readBytes
    encrypted_content := ← serde.required fields "encryptedContent" cbor.readBytes
    encrypted_headers := ← serde.required fields "encryptedHeaders" cbor.readBytes }

section
variable (lib : Lib)

def compute_shared_secret (ephemeral_key_bytes : Bytes) (recipient_key : EncryptionKey) :
    MaResult (ByteArr 32) := do
  let ephemeral_public ← ok_or .InvalidEphemeralKeyLength (ByteArr.try_from 32 ephemeral_key_bytes)
  return recipient_key.shared_secret lib ephemeral_public

def derive_symmetric_key (shared_secret : ByteArr 32) (label : String) : ByteArr 32 :=
  lib.blake3_derive_key label shared_secret.val

/-- `encrypt` with the nonce it generates: the nonce, then what is sealed. -/
def encrypt (data : Bytes) (key : ByteArr 32) (nonce : ByteArr 24) : MaResult Bytes := do
  let encrypted ← ok_or .Crypto (lib.xchacha20poly1305_encrypt key nonce data)
  to_vec (nonce.val ++ encrypted)

def decrypt (data : Bytes) (shared_secret : ByteArr 32) (label : String) : MaResult Bytes := do
  reject_if (data.length < 24) .CiphertextTooShort
  let key := derive_symmetric_key lib shared_secret label
  let nonce ← ok_or .CiphertextTooShort (ByteArr.try_from 24 (data.take 24))
  ok_or .Crypto (lib.xchacha20poly1305_decrypt key nonce (data.drop 24))

/-- `Message::enclose_for` with the ephemeral secret and the nonces of headers
    and content that it generates. -/
def Message.enclose_for (clock : Clock) (ephemeral_secret : ByteArr 32)
    (headers_nonce content_nonce : ByteArr 24) (self : Message) (recipient_document : Document) :
    MaResult Envelope := do
  (self.headers lib).validate lib clock
  let recipient_public_key ← recipient_document.key_agreement_public_key_bytes lib
  let ephemeral_public := lib.x25519_public_key ephemeral_secret
  let shared_secret := lib.x25519_diffie_hellman ephemeral_secret recipient_public_key
  let encrypted_headers ← encrypt lib (← self.headers_cbor lib)
    (derive_symmetric_key lib shared_secret BLAKE3_HEADERS_LABEL) headers_nonce
  let encrypted_content ← encrypt lib self.content
    (derive_symmetric_key lib shared_secret blake3_content_label) content_nonce
  return { ephemeral_key := ephemeral_public.val, encrypted_content, encrypted_headers }

namespace Envelope

def verify (self : Envelope) : MaResult Unit := do
  reject_if self.ephemeral_key.isEmpty (.MissingEnvelopeField "ephemeralKey")
  reject_if (self.ephemeral_key.length != 32) .InvalidEphemeralKeyLength
  reject_if self.encrypted_content.isEmpty (.MissingEnvelopeField "encryptedContent")
  reject_if self.encrypted_headers.isEmpty (.MissingEnvelopeField "encryptedHeaders")

def encode (self : Envelope) : MaResult Bytes := to_cbor self.serialize

def decode (bytes : Bytes) : MaResult Envelope := from_cbor lib Envelope.deserialize bytes

def decrypt_headers (self : Envelope) (shared_secret : ByteArr 32) : MaResult Headers := do
  let decrypted ← msg.decrypt lib self.encrypted_headers shared_secret BLAKE3_HEADERS_LABEL
  from_cbor lib Headers.deserialize decrypted

def decrypt_content (self : Envelope) (shared_secret : ByteArr 32) : MaResult Bytes :=
  msg.decrypt lib self.encrypted_content shared_secret blake3_content_label

def decrypt (clock : Clock) (self : Envelope) (recipient_key : EncryptionKey) :
    MaResult Message := do
  self.verify
  let shared_secret ← compute_shared_secret lib self.ephemeral_key recipient_key
  let headers ← self.decrypt_headers lib shared_secret
  headers.validate lib clock
  let content ← self.decrypt_content lib shared_secret
  let message ← Message.from_headers lib clock headers
  return { message with content }

def «open» (clock : Clock) (self : Envelope) (recipient_key : EncryptionKey)
    (sender_document : Document) : MaResult Message := do
  self.verify
  let shared_secret ← compute_shared_secret lib self.ephemeral_key recipient_key
  let headers ← self.decrypt_headers lib shared_secret
  headers.validate lib clock
  let content ← self.decrypt_content lib shared_secret
  let message ← Message.from_headers lib clock headers
  let message := { message with content }
  message.verify_with_document lib clock sender_document
  return message

/-- The steps of `open_with_replay_guard` before it turns to the guard. -/
def open_unguarded (clock : Clock) (self : Envelope) (recipient_key : EncryptionKey)
    (sender_document : Document) : MaResult Message := do
  self.verify
  let shared_secret ← compute_shared_secret lib self.ephemeral_key recipient_key
  let headers ← self.decrypt_headers lib shared_secret
  let content ← self.decrypt_content lib shared_secret
  let message ← Message.from_headers lib clock headers
  let message := { message with content }
  message.verify_with_document lib clock sender_document
  return message

/-- `Envelope::open_with_replay_guard`: its result and the guard it leaves. -/
def open_with_replay_guard (clock : Clock) (self : Envelope) (recipient_key : EncryptionKey)
    (sender_document : Document) (replay_guard : ReplayGuard) : MaResult Message × ReplayGuard :=
  match self.open_unguarded lib clock recipient_key sender_document with
  | .error e => (.error e, replay_guard)
  | .ok message => replay_guard.accept lib clock message

end Envelope

end

section
variable {lib : Lib} {clock : Clock}

@[simp] theorem Envelope.deserialize_serialize (e : Envelope) :
    Envelope.deserialize e.serialize = .ok e := by
  simp [Envelope.deserialize, Envelope.serialize, serde.required, serde.field, pure, Except.pure]

theorem Envelope.serialize_depth_le (e : Envelope) : e.serialize.depth ≤ 256 := by
  have hdepth : e.serialize.depth ≤ 2 + 1 := by
    apply cbor.structValue_depth_le (by omega)
    intro entry hmem
    simp only [List.mem_cons, List.not_mem_nil, or_false] at hmem
    rcases hmem with rfl | rfl | rfl <;> exact cbor.bytesValue_depth_le _
  omega

theorem Envelope.serialize_length_le (e : Envelope) :
    (cbor.encode e.serialize).length ≤ 2 * e.ephemeral_key.length + 2 * e.encrypted_content.length +
      2 * e.encrypted_headers.length + 107 := by
  have hsize : (cbor.encode e.serialize).length ≤ _ := cbor.encode_structValue_length_le _
  have hnames : (utf8 "ephemeralKey").length + (utf8 "encryptedContent").length +
      (utf8 "encryptedHeaders").length = 44 := rfl
  have hkey := cbor.encode_bytesValue_length_le e.ephemeral_key
  have hcontent := cbor.encode_bytesValue_length_le e.encrypted_content
  have hheaders := cbor.encode_bytesValue_length_le e.encrypted_headers
  simp only [List.map_cons, List.map_nil, List.sum_cons, List.sum_nil] at hsize
  omega

/-- An envelope is decoded from its wire form. -/
theorem Envelope.decode_encode (hcbor : lib.CborRoundTrips) {e : Envelope} {bytes : Bytes}
    (hbytes : e.encode = .ok bytes) : Envelope.decode lib bytes = .ok e := by
  rw [Envelope.decode, from_cbor_to_cbor hcbor e.serialize_depth_le hbytes,
    Envelope.deserialize_serialize]
  rfl

/-- A raw message lacks the keys of an envelope, so it is not taken for one. -/
theorem Envelope.decode_message (hcbor : lib.CborRoundTrips) {m : Message} {bytes : Bytes}
    (hbytes : m.encode = .ok bytes) : ∃ e, Envelope.decode lib bytes = Err e := by
  have hmissing : Envelope.deserialize m.serialize = .error "missing field ephemeralKey" := by
    simp only [Envelope.deserialize, Message.serialize, cbor.readFields_structValue, ok_bind]
    rw [serde.required_eq_error]
    · rfl
    · intro entry hmem hname
      have hkey := wire_fields_names hmem
      rw [hname] at hkey
      exact absurd hkey (by decide)
  refine ⟨.CborDecode "missing field ephemeralKey", ?_⟩
  rw [Envelope.decode, from_cbor_to_cbor hcbor m.serialize_depth_le hbytes, hmissing]
  rfl

/-- The message an envelope holds for a key: what its two parts decrypt to. -/
structure Envelope.Holds (lib : Lib) (e : Envelope) (recipient_key : EncryptionKey) (m : Message) :
    Prop where
  well_formed : e.verify = .ok ()
  secret : ∃ shared_secret headers,
    compute_shared_secret lib e.ephemeral_key recipient_key = .ok shared_secret ∧
    e.decrypt_headers lib shared_secret = .ok headers ∧
    e.decrypt_content lib shared_secret = .ok m.content ∧
    { m.headers lib with content_hash := headers.content_hash } = headers

theorem Message.headers_with_content {m : Message} {headers : Headers} {content : Bytes}
    (hheaders : { m.headers lib with content_hash := headers.content_hash } = headers) :
    { Message.headers lib { m with content } with content_hash := headers.content_hash } = headers :=
  hheaders

/-- The headers of a message are valid when those it was assembled from are. -/
theorem Message.headers_valid_iff {m : Message} {headers : Headers}
    (hheaders : { m.headers lib with content_hash := headers.content_hash } = headers) :
    (m.headers lib).Valid lib clock ↔ headers.Valid lib clock := by
  constructor
  · intro hvalid
    rw [← hheaders]
    exact hvalid.resign _ _
  · intro hvalid
    rw [← hheaders] at hvalid
    exact hvalid.resign (m.headers lib).content_hash (m.headers lib).signature

/-- Decryption returns the message the envelope holds, if its headers are valid. -/
theorem Envelope.decrypt_eq_ok_iff {e : Envelope} {recipient_key : EncryptionKey} {m : Message} :
    e.decrypt lib clock recipient_key = .ok m ↔
      e.Holds lib recipient_key m ∧ (m.headers lib).Valid lib clock := by
  unfold Envelope.decrypt
  simp only [bind_eq_ok_iff, exists_unit, Headers.validate_eq_ok_iff, Message.from_headers_eq_ok_iff]
  constructor
  · rintro ⟨hverify, secret, hsecret, headers, hheaders, hvalid, content, hcontent, raw,
      ⟨_, _, hraw⟩, hm⟩
    cases hm
    have hassembled := @Message.headers_with_content _ _ _ content hraw
    exact ⟨⟨hverify, secret, headers, hsecret, hheaders, hcontent, hassembled⟩,
      (Message.headers_valid_iff hassembled).mpr hvalid⟩
  · rintro ⟨⟨hverify, secret, headers, hsecret, hheaders, hcontent, hassembled⟩, hvalid⟩
    have hvalid' := (Message.headers_valid_iff hassembled).mp hvalid
    exact ⟨hverify, secret, hsecret, headers, hheaders, hvalid', m.content, hcontent,
      { m with content := [] }, ⟨hvalid', rfl, hassembled⟩, rfl⟩

/-- Opening adds the check of the signature, whichever order the checks come in. -/
theorem Envelope.open_unguarded_eq_ok_iff {e : Envelope} {recipient_key : EncryptionKey}
    {sender_document : Document} {m : Message} :
    e.open_unguarded lib clock recipient_key sender_document = .ok m ↔
      e.decrypt lib clock recipient_key = .ok m ∧
        m.verify_with_document lib clock sender_document = .ok () := by
  unfold Envelope.open_unguarded
  rw [Envelope.decrypt_eq_ok_iff]
  simp only [bind_eq_ok_iff, exists_unit, Message.from_headers_eq_ok_iff]
  constructor
  · rintro ⟨hverify, secret, hsecret, headers, hheaders, content, hcontent, raw,
      ⟨hvalid, _, hraw⟩, hsigned, hm⟩
    cases hm
    have hassembled := @Message.headers_with_content _ _ _ content hraw
    exact ⟨⟨⟨hverify, secret, headers, hsecret, hheaders, hcontent, hassembled⟩,
      (Message.headers_valid_iff hassembled).mpr hvalid⟩, hsigned⟩
  · rintro ⟨⟨⟨hverify, secret, headers, hsecret, hheaders, hcontent, hassembled⟩, hvalid⟩, hsigned⟩
    have hvalid' := (Message.headers_valid_iff hassembled).mp hvalid
    exact ⟨hverify, secret, hsecret, headers, hheaders, m.content, hcontent,
      { m with content := [] }, ⟨hvalid', rfl, hassembled⟩, hsigned, rfl⟩

/-- Both accept the same: the message is verified and the guard does not hold it. -/
theorem Envelope.open_with_replay_guard_ok_iff {e : Envelope} {recipient_key : EncryptionKey}
    {sender_document : Document} {guard : ReplayGuard} {m : Message} :
    (e.open_with_replay_guard lib clock recipient_key sender_document guard).1 = .ok m ↔
      e.decrypt lib clock recipient_key = .ok m ∧
        m.verify_with_document lib clock sender_document = .ok () ∧
        (guard.check_and_insert lib clock (m.headers lib)).1 = .ok () := by
  rw [← and_assoc, ← Envelope.open_unguarded_eq_ok_iff, Envelope.open_with_replay_guard]
  cases hopen : e.open_unguarded lib clock recipient_key sender_document with
  | error err => simp
  | ok message => rw [ReplayGuard.accept_ok_iff, Except.ok.injEq]

/-! Opening what was enclosed. -/

/-- What is encrypted under a shared secret and a label is decrypted under them. -/
theorem decrypt_encrypt (haead : lib.AeadOpens) {data out : Bytes} {shared_secret : ByteArr 32}
    {label : String} {nonce : ByteArr 24}
    (hencrypt : encrypt lib data (derive_symmetric_key lib shared_secret label) nonce = .ok out) :
    decrypt lib out shared_secret label = .ok data := by
  obtain ⟨sealed_, hsealed, hout⟩ := bind_eq_ok_iff.mp hencrypt
  rw [ok_or_eq_ok_iff] at hsealed
  obtain ⟨rfl, _⟩ := to_vec_eq_ok_iff.mp hout
  have hlong : ¬ (nonce.val ++ sealed_).length < 24 := by simp
  have hnonce : (nonce.val ++ sealed_).take 24 = nonce.val := by
    rw [List.take_append_of_le_length (by simp), List.take_of_length_le (by simp)]
  have hbody : (nonce.val ++ sealed_).drop 24 = sealed_ := by
    rw [List.drop_append_of_le_length (by simp), List.drop_of_length_le (by simp), List.nil_append]
  simp only [decrypt, hlong, decide_false, reject_if, Bool.false_eq_true, if_false, ok_bind, hnonce,
    hbody, ByteArr.try_from_val, ok_or, haead _ _ _ _ hsealed]

theorem encrypt_length {data out : Bytes} {key : ByteArr 32} {nonce : ByteArr 24}
    (hencrypt : encrypt lib data key nonce = .ok out) : 24 ≤ out.length := by
  obtain ⟨sealed_, _, hout⟩ := bind_eq_ok_iff.mp hencrypt
  obtain ⟨rfl, _⟩ := to_vec_eq_ok_iff.mp hout
  simp

theorem encrypt_err {data : Bytes} {key : ByteArr 32} {nonce : ByteArr 24} {e : MaError}
    (herr : encrypt lib data key nonce = Err e) : e = .Crypto := by
  simp only [encrypt, bind_eq_err_iff, ok_or_eq_err_iff, to_vec_ne_err, and_false, exists_false,
    or_false] at herr
  exact herr.2.symm

/-- A valid message is enclosed for a document with a usable key unless the
    encryption fails. -/
theorem Message.enclose_for_err {m : Message} {ephemeral_secret public_key : ByteArr 32}
    {headers_nonce content_nonce : ByteArr 24} {recipient_document : Document} {e : MaError}
    (hvalid : (m.headers lib).Valid lib clock)
    (hkey : recipient_document.key_agreement_public_key_bytes lib = .ok public_key)
    (herr : m.enclose_for lib clock ephemeral_secret headers_nonce content_nonce
      recipient_document = Err e) : e = .Crypto := by
  simp only [Message.enclose_for, Headers.validate_eq_ok_iff.mpr hvalid, hkey, ok_bind,
    bind_eq_err_iff] at herr
  rcases herr with hbytes | ⟨_, _, hheaders | ⟨_, _, hcontent | ⟨_, _, hok⟩⟩⟩
  · exact absurd hbytes to_vec_ne_err
  · exact encrypt_err hheaders
  · exact encrypt_err hcontent
  · cases hok

/-- The holder of the key a message was enclosed for recovers it exactly. -/
theorem Envelope.holds_enclose_for (hcbor : lib.CborRoundTrips) (hagree : lib.DiffieHellmanAgrees)
    (haead : lib.AeadOpens) {m : Message} {ephemeral_secret : ByteArr 32}
    {headers_nonce content_nonce : ByteArr 24} {recipient_document : Document}
    {recipient_key : EncryptionKey} {e : Envelope}
    (hkey : recipient_document.key_agreement_public_key_bytes lib =
      .ok (lib.x25519_public_key recipient_key.private_key))
    (henclose : m.enclose_for lib clock ephemeral_secret headers_nonce content_nonce
      recipient_document = .ok e) : e.Holds lib recipient_key m := by
  simp only [Message.enclose_for, bind_eq_ok_iff, exists_unit, hkey] at henclose
  obtain ⟨_, _, ⟨⟩, bytes, hbytes, encrypted_headers, hheaders, encrypted_content, hcontent, he⟩ :=
    henclose
  cases he
  have hheadersLength := encrypt_length hheaders
  have hcontentLength := encrypt_length hcontent
  have hagreed : lib.x25519_diffie_hellman recipient_key.private_key
      (lib.x25519_public_key ephemeral_secret) =
      lib.x25519_diffie_hellman ephemeral_secret
        (lib.x25519_public_key recipient_key.private_key) := hagree _ _
  refine ⟨?_, lib.x25519_diffie_hellman ephemeral_secret
    (lib.x25519_public_key recipient_key.private_key), m.headers lib, ?_, ?_,
    decrypt_encrypt haead hcontent, rfl⟩
  · simp only [verify, bind_eq_ok_iff, exists_unit, reject_if_eq_ok_iff, ByteArr.length_val,
      List.isEmpty_eq_false_iff, bne_self_eq_false, true_and]
    refine ⟨?_, ?_, ?_⟩ <;> intro hempty
    · have hlength := (lib.x25519_public_key ephemeral_secret).length_val
      rw [hempty] at hlength
      cases hlength
    · simp [hempty] at hcontentLength
    · simp [hempty] at hheadersLength
  · simp only [compute_shared_secret, ByteArr.try_from_val, ok_or, ok_bind, EncryptionKey.shared_secret,
      hagreed]
    rfl
  · simp only [decrypt_headers, decrypt_encrypt haead hheaders, ok_bind]
    exact Headers.from_cbor_to_cbor hcbor hbytes

end

end ma_core.msg
