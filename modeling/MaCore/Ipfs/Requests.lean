import MaCore.Did.Canonical
import MaCore.Msg.Authorised
import MaCore.Msg.Payload
import MaCore.Reference.DagCbor

open rust
open ma_core.error ma_core.did ma_core.key ma_core.doc ma_core.msg ma_core.multiformat ma_core.service

namespace ma_core.service

def MESSAGE_TYPE_IPFS_REQUEST : String := "application/vnd.ma.ipfs.request"

end ma_core.service

namespace ma_core.doc

/-- The identifier of a valid document is a bare DID. -/
theorem Document.Valid.did {lib : Lib} {document : Document} (hvalid : document.Valid lib) :
    ∃ document_did, Did.try_from lib document.id = .ok document_did ∧ document.id = document_did.base_id := by
  obtain ⟨ipns, hparse⟩ := (validate_bare_did_eq_ok_iff lib).mp hvalid.id
  have hdid : Did.parse lib document.id = .ok ((⟨ipns, none⟩ : Did).ipns, (⟨ipns, none⟩ : Did).fragment) := hparse
  exact ⟨⟨ipns, none⟩, Did.try_from_eq_ok_iff.mpr hdid, (Did.WellFormed.of_parse hdid).2⟩

end ma_core.doc

namespace ma_core.msg

/-- Valid headers are valid as long as they are fresh. -/
theorem Headers.Valid.at_time {lib : Lib} {clock : Clock} {headers : Headers} (hvalid : headers.Valid lib clock)
    {now : UInt64} (hfresh : Fresh lib now headers.created_at headers.exp) : headers.Valid lib (some now) :=
  ⟨hvalid.id, hvalid.protocol, hvalid.reply_to, hvalid.content_type, hvalid.sender, hvalid.broadcast,
    hvalid.recipient, ⟨now, rfl, hfresh⟩⟩

end ma_core.msg

namespace ma_core.ipfs

structure IpfsStoreRequest where
  content : Bytes
  content_type : String

def IpfsStoreRequest.serialize (self : IpfsStoreRequest) : cbor.Value := cbor.structValue [
  ("content", cbor.bytesValue self.content),
  ("content_type", .text self.content_type)]

def IpfsStoreRequest.deserialize (value : cbor.Value) : Except String IpfsStoreRequest := do
  let fields ← cbor.readFields value
  return {
    content := ← serde.required fields "content" cbor.readBytes
    content_type := ← serde.required fields "content_type" cbor.readString }

theorem IpfsStoreRequest.deserialize_serialize (request : IpfsStoreRequest) :
    IpfsStoreRequest.deserialize request.serialize = .ok request := by
  simp [deserialize, serialize, serde.required, serde.field, pure, Except.pure]

theorem IpfsStoreRequest.serialize_depth_le (request : IpfsStoreRequest) : request.serialize.depth ≤ 256 := by
  have hdepth : request.serialize.depth ≤ 2 + 1 := by
    apply cbor.structValue_depth_le (by omega)
    intro entry hmem
    simp only [List.mem_cons, List.not_mem_nil, or_false] at hmem
    obtain rfl | rfl := hmem
    · exact cbor.bytesValue_depth_le _
    · exact Nat.le_add_left 1 1
  omega

/-- A request is read back from its payload. -/
theorem IpfsStoreRequest.from_reader {lib : Lib} (hcbor : lib.CborRoundTrips) {request : IpfsStoreRequest}
    (hlength : (cbor.encode request.serialize).length ≤ MAX_ALLOCATION) :
    (lib.ciborium_from_reader (cbor.encode request.serialize) >>= IpfsStoreRequest.deserialize) = .ok request := by
  rw [hcbor.of_length request.serialize_depth_le hlength, ok_bind, deserialize_serialize]

def encode_cbor (payload : cbor.Value) : Result String Bytes :=
  context "failed to encode CBOR payload: " (to_cbor payload)

structure ValidatedIpfsStore where
  content : Bytes
  content_type : String
  sender_did : String
  msg_id : String
deriving DecidableEq

section
variable (lib : Lib)

def generate_identity_publish_request (did_document : Document) (ipns_secret_key : Bytes) : Result String Bytes := do
  let document_bytes ← context "failed to encode DID document as dag-cbor: " (did_document.encode lib)
  encode_cbor (IdentityPublishRequest.serialize ⟨document_bytes, ipns_secret_key⟩)

/-- `generate_ipfs_store_request`; `nanoid` is the identifier generated for the message. -/
def generate_ipfs_store_request (clock : Clock) (nanoid sender_did publisher_did : String) (content : Bytes)
    (content_type : String) (signing_key : SigningKey) : Result String Message := do
  let payload ← encode_cbor (IpfsStoreRequest.serialize ⟨content, content_type⟩)
  context "failed to build ipfs-store message: " (Message.new lib clock nanoid sender_did publisher_did
    MESSAGE_TYPE_IPFS_REQUEST "application/cbor" payload signing_key)

/-- The content and the sender of a request. -/
def validate_ipfs_request (message : Message) : Result String ValidatedIpfsStore := do
  reject_if (message.message_type != MESSAGE_TYPE_IPFS_REQUEST)
    ("expected " ++ MESSAGE_TYPE_IPFS_REQUEST ++ " on /ma/ipfs/0.0.1, got " ++ message.message_type)
  let payload ← of_library ("invalid IPFS store request payload: " ++ ·)
    (lib.ciborium_from_reader message.payload >>= IpfsStoreRequest.deserialize)
  return {
    content := payload.content
    content_type := payload.content_type
    sender_did := message.from
    msg_id := message.id }

end

section
variable {lib : Lib} {clock : Clock} {nanoid content_type : String} {content payload wire : Bytes}
  {signing_key : SigningKey} {m : Message}

theorem encode_cbor_eq_ok_iff {value : cbor.Value} :
    encode_cbor value = .ok payload ↔ payload = cbor.encode value ∧ (cbor.encode value).length ≤ MAX_ALLOCATION := by
  rw [encode_cbor, context, map_err_eq_ok_iff, to_cbor, to_vec_eq_ok_iff]

/-- A data item takes at least a byte. -/
theorem payload_ne_nil {value : cbor.Value} (hpayload : encode_cbor value = .ok payload) : payload ≠ [] := by
  rw [(encode_cbor_eq_ok_iff.mp hpayload).1]
  exact List.ne_nil_of_length_pos (cbor.encode_length_pos value)

/-- What a constructor leaves in a message, apart from the codec of its content. -/
theorem constructed_draft {from_ message_type : String}
    (hnew : Message.Constructed lib clock nanoid from_ to_ message_type content_type content signing_key m) :
    ∃ now exp reply_to, clock = some now ∧
      ((Message.draft now nanoid from_ to_ message_type content_type content exp reply_to).unsigned_headers lib).Valid
        lib clock ∧
      (Message.draft now nanoid from_ to_ message_type content_type content exp reply_to).sign lib signing_key =
        .ok m := by
  obtain ⟨exp, reply_to, hnew⟩ := hnew.new_with_options
  obtain ⟨now, bytes, hclock, hvalid, hbytes, rfl⟩ := Message.new_with_options_eq_ok_iff.mp hnew
  exact ⟨now, exp, reply_to, hclock, hvalid, bind_eq_ok_iff.mpr ⟨bytes, hbytes, rfl⟩⟩

/-- A constructed message is read back from the wire, with the payload it was given. -/
theorem constructed_received (hcbor : lib.CborRoundTrips) {from_ message_type : String}
    (hnew : Message.Constructed lib clock nanoid from_ to_ message_type content_type content signing_key m)
    (hcontent : content ≠ []) (hwire : m.encode = .ok wire) :
    Message.decode lib wire = .ok m ∧ m.payload = content :=
  ⟨Message.decode_encode hcbor hwire, (Message.payload_eq_iff hnew.content_eq).mpr hcontent⟩

theorem validate_ipfs_request_eq_ok_iff {validated : ValidatedIpfsStore} :
    validate_ipfs_request lib m = .ok validated ↔ m.message_type = MESSAGE_TYPE_IPFS_REQUEST ∧
      (lib.ciborium_from_reader m.payload >>= IpfsStoreRequest.deserialize) =
        .ok ⟨validated.content, validated.content_type⟩ ∧
      validated.sender_did = m.from ∧ validated.msg_id = m.id := by
  simp only [validate_ipfs_request, bind_eq_ok_iff, exists_unit, reject_if_eq_ok_iff, of_library_eq_ok_iff,
    bne_eq_false_iff_eq]
  constructor
  · rintro ⟨htype, request, hrequest, hvalidated⟩
    cases hvalidated
    exact ⟨htype, hrequest, rfl, rfl⟩
  · rintro ⟨htype, hrequest, hsender, hid⟩
    refine ⟨htype, _, hrequest, ?_⟩
    rw [← hsender, ← hid]
    rfl

/-- What is to be stored arrives as it was sent, with the sender and the identifier of the message. -/
theorem store_request_round_trip (hcbor : lib.CborRoundTrips) {sender_did publisher_did : String}
    (hgenerate : generate_ipfs_store_request lib clock nanoid sender_did publisher_did content content_type
      signing_key = .ok m)
    (hwire : m.encode = .ok wire) :
    ∃ received, Message.decode lib wire = .ok received ∧
      validate_ipfs_request lib received = .ok ⟨content, content_type, sender_did, nanoid⟩ := by
  obtain ⟨payload, hpayload, hnew⟩ := bind_eq_ok_iff.mp hgenerate
  have hnew : Message.Constructed lib clock nanoid sender_did publisher_did MESSAGE_TYPE_IPFS_REQUEST
      "application/cbor" payload signing_key m := .new (map_err_eq_ok_iff.mp hnew)
  obtain ⟨hreceived, hsame⟩ := constructed_received hcbor hnew (payload_ne_nil hpayload) hwire
  obtain ⟨rfl, hlength⟩ := encode_cbor_eq_ok_iff.mp hpayload
  have hrequest := IpfsStoreRequest.from_reader hcbor hlength
  refine ⟨m, hreceived, validate_ipfs_request_eq_ok_iff.mpr ?_⟩
  rw [hsame, hrequest]
  obtain ⟨now, exp, reply_to, _, _, hsign⟩ := constructed_draft hnew
  obtain ⟨bytes, _, hm⟩ := bind_eq_ok_iff.mp hsign
  cases hm
  exact ⟨rfl, rfl, rfl, rfl⟩

end

section
open ma_core.reference

def greeting : IpfsStoreRequest := ⟨[104, 105], "text/plain"⟩

def greeting_draft : Message :=
  Message.draft 1000 "m" (ma_core.reference.did 1).base_id (ma_core.reference.did 2).base_id MESSAGE_TYPE_IPFS_REQUEST
    "application/cbor" (cbor.encode greeting.serialize) 4600 none

theorem greeting_draft_valid : (greeting_draft.unsigned_headers library).Valid library (some 1000) where
  id := show validate_message_id "m" = .ok () by decide
  protocol := rfl
  reply_to _ hmem := by cases hmem
  content_type := show "application/cbor".isEmpty = false by decide
  sender := ⟨_, did_parse 1⟩
  broadcast hbroadcast := absurd hbroadcast (show MESSAGE_TYPE_IPFS_REQUEST ≠ MESSAGE_TYPE_BROADCAST by decide)
  recipient _ := ⟨did_trim 2, _, did_parse 2⟩
  fresh := ⟨1000, rfl, ⟨1030, rfl, show (1000 : UInt64) ≤ 1030 by decide⟩,
    .inr ⟨4630, rfl, show (1000 : UInt64) ≤ 4630 by decide⟩⟩

theorem greeting_names : (utf8 (ma_core.reference.did 1).base_id).length +
    (utf8 (ma_core.reference.did 2).base_id).length + (utf8 "m").length + (utf8 default_protocol).length +
    (utf8 MESSAGE_TYPE_IPFS_REQUEST).length + (utf8 "application/cbor").length ≤ 1124 := by
  have hsender := did_length 1
  have hrecipient := did_length 2
  have htexts : (utf8 "m").length + (utf8 default_protocol).length + (utf8 MESSAGE_TYPE_IPFS_REQUEST).length +
      (utf8 "application/cbor").length ≤ 100 := by decide
  omega

theorem greeting_headers_length :
    (cbor.encode (greeting_draft.unsigned_headers library).serialize).length ≤ 2048 := by
  have hsize := (greeting_draft.unsigned_headers library).serialize_length_le
  have hnames := greeting_names
  simp only [Message.unsigned_headers, greeting_draft, Message.draft, Option.elim_none, List.length_nil] at hsize ⊢
  omega

theorem greeting_wire_length {signature : Bytes} (hsignature : signature.length = 64) :
    (wire { greeting_draft with signature }).length ≤ 2048 := by
  have hsize := ({ greeting_draft with signature } : Message).serialize_length_le
  have hnames := greeting_names
  have hcontent : (encode_content (codec_for "application/cbor") (cbor.encode greeting.serialize)).length ≤ 100 := by
    decide +kernel
  unfold wire
  simp only [greeting_draft, Message.draft, Option.elim_none] at hsize ⊢
  omega

/-- The request as it is signed with a key. -/
def greeting_signed (signing_key : SigningKey) : Message :=
  { greeting_draft with
    signature := signing_key.sign library (cbor.encode (greeting_draft.unsigned_headers library).serialize) }

theorem greeting_new (signing_key : SigningKey) :
    Message.new library (some 1000) "m" (ma_core.reference.did 1).base_id (ma_core.reference.did 2).base_id
      MESSAGE_TYPE_IPFS_REQUEST "application/cbor" (cbor.encode greeting.serialize) signing_key =
        .ok (greeting_signed signing_key) := by
  have hoptions : Message.new_with_options library (some 1000) "m" (ma_core.reference.did 1).base_id
      (ma_core.reference.did 2).base_id MESSAGE_TYPE_IPFS_REQUEST "application/cbor" (cbor.encode greeting.serialize)
      4600 none signing_key = .ok (greeting_signed signing_key) := by
    have hunsigned : greeting_draft.unsigned_headers_cbor library =
        .ok (cbor.encode (greeting_draft.unsigned_headers library).serialize) := by
      rw [Message.unsigned_headers_cbor, to_cbor, to_vec_eq_ok_iff]
      exact ⟨rfl, Nat.le_trans greeting_headers_length (by decide)⟩
    rw [Message.new_with_options_eq_ok_iff]
    exact ⟨1000, _, rfl, greeting_draft_valid, hunsigned, rfl⟩
  have hexp : u64_add (ε := MaError) library.overflow_checks 1000 DEFAULT_MESSAGE_TTL_SECS = .ok 4600 := rfl
  rw [Message.new, now_unix_secs, ok_or, ok_bind, hexp, ok_bind, Message.new_with_exp, hoptions]

theorem greeting_generated : ∃ m wire,
    generate_ipfs_store_request library (some 1000) "m" (ma_core.reference.did 1).base_id
      (ma_core.reference.did 2).base_id [104, 105] "text/plain" (signingKey 1) = .ok m ∧ m.encode = .ok wire := by
  have hpayload : encode_cbor greeting.serialize = .ok (cbor.encode greeting.serialize) :=
    encode_cbor_eq_ok_iff.mpr ⟨rfl, by decide +kernel⟩
  refine ⟨greeting_signed (signingKey 1), wire (greeting_signed (signingKey 1)),
    bind_eq_ok_iff.mpr ⟨_, hpayload, map_err_eq_ok_iff.mpr (greeting_new (signingKey 1))⟩, ?_⟩
  exact encode_eq_wire (Nat.le_trans (greeting_wire_length (ByteArr.length_val _)) (by decide))

theorem store_request_round_trip_greeting : ∃ m wire received,
    generate_ipfs_store_request library (some 1000) "m" (ma_core.reference.did 1).base_id
      (ma_core.reference.did 2).base_id [104, 105] "text/plain" (signingKey 1) = .ok m ∧
    m.encode = .ok wire ∧ Message.decode library wire = .ok received ∧
    validate_ipfs_request library received =
      .ok ⟨[104, 105], "text/plain", (ma_core.reference.did 1).base_id, "m"⟩ := by
  obtain ⟨m, wire, hgenerate, hwire⟩ := greeting_generated
  obtain ⟨received, hreceived, hvalidated⟩ := store_request_round_trip cborRoundTrips hgenerate hwire
  exact ⟨m, wire, received, hgenerate, hwire, hreceived, hvalidated⟩

end

section
variable {lib : Lib} {clock later : Clock} {nanoid to_ content_type : String} {signing_key : SigningKey}
  {document : Document} {payload ipns_secret_key wire : Bytes} {m : Message}

/-- The key of the first assertion method signs for the document. -/
structure Signs (lib : Lib) (document : Document) (signing_key : SigningKey) : Prop where
  method : ∃ method, document.assertion_method.head? = some method.id ∧
    document.get_verification_method_by_id method.id = .ok method ∧
    signing_key.public_key_multibase = method.public_key_multibase
  consistent : signing_key.Consistent lib

/-- What a key signs that signs for a document verifies with it, as long as its headers are valid. -/
theorem Signs.verifies (hed25519 : lib.Ed25519Signs) (hbase58 : lib.Base58RoundTrips)
    (hsigns : Signs lib document signing_key) (hvalid : document.Valid lib) {draft : Message}
    (hsign : draft.sign lib signing_key = .ok m) (hsent : m.SentBy lib document)
    (hheaders : (m.headers lib).Valid lib later) : m.verify_with_document lib later document = .ok () := by
  obtain ⟨method, hfirst, hmethod, hkey⟩ := hsigns.method
  have hbytes := method_key_bytes_of_consistent hbase58 hmethod hkey hsigns.consistent
  have hassertion := (assertion_key_iff hvalid hfirst (lib.ed25519_public_key signing_key.secret_key)).mpr
    ⟨hbytes, hed25519.is_point _⟩
  obtain ⟨bytes, hunsigned, _⟩ := sign_eq_ok hsign
  rw [Message.verify_with_document_eq_ok_iff, signatureVerifies_iff_of_sign hsign]
  exact ⟨hsent, hheaders, bytes, _, hunsigned, hassertion, hed25519.verifies _ _⟩

/-- A request the owner of a document generates and signs is accepted while it is fresh: with the document as it was
    encoded, and with the key. -/
theorem publish_request_accepted (hcbor : lib.CborRoundTrips) (hdagcbor : lib.DagCborRoundTrips)
    (hed25519 : lib.Ed25519Signs) (hbase58 : lib.Base58RoundTrips) (hvalid : document.validate lib = .ok ())
    (hverify : document.verify lib = .ok ()) (hma : document.ma ≠ some .Null)
    (hsigns : Signs lib document signing_key)
    (hpayload : generate_identity_publish_request lib document ipns_secret_key = .ok payload)
    (hnew : Message.Constructed lib clock nanoid document.id to_ MESSAGE_TYPE_IDENTITY_PUBLISH_REQUEST content_type
      payload signing_key m)
    (hwire : m.encode = .ok wire) {now : UInt64} (hfresh : Fresh lib now m.created_at m.exp) :
    ∃ document_bytes document_did, document.encode lib = .ok document_bytes ∧
      Did.try_from lib document.id = .ok document_did ∧
      validate_identity_publish_request lib (some now) wire =
        .ok ⟨document_bytes, ipns_secret_key, document, document_did⟩ := by
  have hdocument := Document.validate_eq_ok_iff.mp hvalid
  obtain ⟨document_did, hdid, hbase⟩ := hdocument.did
  obtain ⟨document_bytes, hencode, hencoded⟩ := bind_eq_ok_iff.mp hpayload
  have hencode := map_err_eq_ok_iff.mp hencode
  have hdecode : Document.decode lib document_bytes = .ok document :=
    Document.decode_of_from_slice (hdagcbor _ _ (of_library_eq_ok_iff.mp hencode)) hma
  obtain ⟨hreceived, hsame⟩ := constructed_received hcbor hnew (payload_ne_nil hencoded) hwire
  obtain ⟨rfl, hlength⟩ := encode_cbor_eq_ok_iff.mp hencoded
  have hrequest := IdentityPublishRequest.from_reader hcbor hlength
  obtain ⟨created_at, exp, reply_to, _, hheaders, hsign⟩ := constructed_draft hnew
  refine ⟨document_bytes, document_did, hencode, hdid, ?_⟩
  rw [validate_identity_publish_request, bind_eq_ok_iff]
  refine ⟨m, map_err_eq_ok_iff.mpr hreceived, validate_identity_publish_message_eq_ok_iff.mpr ?_⟩
  obtain ⟨_, _, hm⟩ := bind_eq_ok_iff.mp hsign
  cases hm
  have hlater := hheaders.at_time hfresh
  have hverified := hsigns.verifies hed25519 hbase58 hdocument hsign ⟨document_did, hdid, hbase⟩
    (hlater.resign _ _)
  exact {
    message_type := rfl
    payload := by rw [hsame, hrequest]
    sender := ⟨document_did, hdid, rfl⟩
    document := hdecode
    validate := hvalid
    verify := hverify
    document_did := hdid
    request := hverified }

end

/-! The first identity of the reference library asks for its own document to be published. -/

section
open ma_core.reference

theorem own_cborRoundTrips : dagLibrary.CborRoundTrips := cborRoundTrips

theorem own_request_generated :
    generate_identity_publish_request dagLibrary (claimed 1 1) (secret 1).val =
      .ok (cbor.encode own_request.serialize) := by
  have hencode : (claimed 1 1).encode dagLibrary = .ok own_request.document :=
    of_library_eq_ok_iff.mpr (dagLibrary_to_vec (by decide +kernel))
  exact bind_eq_ok_iff.mpr ⟨_, map_err_eq_ok_iff.mpr hencode,
    encode_cbor_eq_ok_iff.mpr ⟨rfl, Nat.le_trans own_request_size (by decide)⟩⟩

theorem own_request_signs : Signs dagLibrary (claimed 1 1) (signingKey 1) where
  method := ⟨methodOf 1 1 "#sign", rfl,
    Document.get_verification_method_by_id_eq_ok_iff.mpr (List.find?_cons_of_pos (beq_self_eq_true _)), rfl⟩
  consistent := rfl

/-- Messages are made as with the library that encodes all documents. -/
theorem new_with_exp_dagLibrary : Message.new_with_exp dagLibrary = Message.new_with_exp library := rfl

theorem own_message_constructed : Message.Constructed dagLibrary (some 0) "m" (claimed 1 1).id (did 2).base_id
    MESSAGE_TYPE_IDENTITY_PUBLISH_REQUEST CONTENT_TYPE_CBOR (cbor.encode own_request.serialize) (signingKey 1)
    (publishing 1 own_request) := by
  have hcodec : codec_for CONTENT_TYPE_CBOR = CODEC_CBOR := by decide +kernel
  have hvalid : ((publishing 1 own_request).headers library).Valid library (some 0) :=
    publishing_headers.at_time (fresh_never (by decide))
  have hlength :
      (cbor.encode ((publishing 1 own_request).unsigned_headers library).serialize).length ≤ MAX_ALLOCATION :=
    Nat.le_trans publishing_headers_size (by decide)
  have hdraft : ({ publishing 1 own_request with signature := [] } : Message) = Message.draft 0 "m" (claimed 1 1).id
      (did 2).base_id MESSAGE_TYPE_IDENTITY_PUBLISH_REQUEST CONTENT_TYPE_CBOR (cbor.encode own_request.serialize) 0
      none := by
    rw [Message.draft, hcodec]
    rfl
  refine .new_with_exp 0 ?_
  rw [new_with_exp_dagLibrary, Message.new_with_exp, Message.new_with_options_eq_ok_iff]
  refine ⟨0, cbor.encode ((publishing 1 own_request).unsigned_headers library).serialize, rfl, ?_, ?_, ?_⟩
  · rw [← hdraft]
    exact hvalid.resign _ _
  · rw [← hdraft]
    rw [Message.unsigned_headers_cbor, to_cbor, to_vec_eq_ok_iff]
    exact ⟨rfl, hlength⟩
  · rw [← hdraft]
    rfl

theorem publish_request_accepted_own : ∃ document_bytes document_did,
    (claimed 1 1).encode dagLibrary = .ok document_bytes ∧
      Did.try_from dagLibrary (claimed 1 1).id = .ok document_did ∧
      validate_identity_publish_request dagLibrary (some 1000) (wire (publishing 1 own_request)) =
        .ok ⟨document_bytes, (secret 1).val, claimed 1 1, document_did⟩ := by
  have hverify := (verify_dagLibrary (by decide +kernel)).trans (claimed_verify 1 1)
  have hma : (claimed 1 1).ma ≠ some .Null := by rintro ⟨⟩
  have hwire : (publishing 1 own_request).encode = .ok (wire (publishing 1 own_request)) :=
    encode_eq_wire (Nat.le_trans (publishing_size own_request_size) (by decide))
  have hfresh : Fresh library 1000 0 0 := fresh_never (by decide)
  have hfresh : Fresh dagLibrary 1000 0 0 := ⟨hfresh.created, hfresh.unexpired⟩
  exact publish_request_accepted own_cborRoundTrips dagCborRoundTrips ed25519Signs base58RoundTrips
    (claimed_validate 1 1) hverify hma own_request_signs own_request_generated own_message_constructed hwire hfresh

end

end ma_core.ipfs
