import MaCore.Kubo.Names
import MaCore.Laws
import MaCore.Msg

open rust
open ma_core.error ma_core.did ma_core.doc ma_core.msg ma_core.kubo ma_core.service

namespace ma_core.ipfs

def MA_IPNS_ALIAS_HASH_PREFIX : String := "ma-"

structure IdentityPublishRequest where
  document : Bytes
  ipns_secret_key : Bytes
deriving DecidableEq

def IdentityPublishRequest.serialize (self : IdentityPublishRequest) : cbor.Value := cbor.structValue [
  ("document", cbor.bytesValue self.document),
  ("ipns_secret_key", cbor.bytesValue self.ipns_secret_key)]

def IdentityPublishRequest.deserialize (value : cbor.Value) : Except String IdentityPublishRequest := do
  let fields ← cbor.readFields value
  return {
    document := ← serde.required fields "document" cbor.readBytes
    ipns_secret_key := ← serde.required fields "ipns_secret_key" cbor.readBytes }

theorem IdentityPublishRequest.deserialize_serialize (request : IdentityPublishRequest) :
    IdentityPublishRequest.deserialize request.serialize = .ok request := by
  simp [deserialize, serialize, serde.required, serde.field, pure, Except.pure]

theorem IdentityPublishRequest.serialize_depth_le (request : IdentityPublishRequest) :
    request.serialize.depth ≤ 256 := by
  have hdepth : request.serialize.depth ≤ 2 + 1 := by
    apply cbor.structValue_depth_le (by omega)
    intro entry hmem
    simp only [List.mem_cons, List.not_mem_nil, or_false] at hmem
    rcases hmem with rfl | rfl <;> exact cbor.bytesValue_depth_le _
  omega

theorem IdentityPublishRequest.serialize_length_le (request : IdentityPublishRequest) :
    (cbor.encode request.serialize).length ≤
      2 * request.document.length + 2 * request.ipns_secret_key.length + 68 := by
  have hsize := cbor.encode_structValue_length_le [
    ("document", cbor.bytesValue request.document),
    ("ipns_secret_key", cbor.bytesValue request.ipns_secret_key)]
  have hnames : (utf8 "document").length + (utf8 "ipns_secret_key").length = 23 := rfl
  have hdocument := cbor.encode_bytesValue_length_le request.document
  have hkey := cbor.encode_bytesValue_length_le request.ipns_secret_key
  simp only [List.map_cons, List.map_nil, List.sum_cons, List.sum_nil] at hsize
  unfold serialize
  omega

/-- A request is read back from its payload. -/
theorem IdentityPublishRequest.from_reader {lib : Lib} (hcbor : lib.CborRoundTrips)
    {request : IdentityPublishRequest}
    (hlength : (cbor.encode request.serialize).length ≤ MAX_ALLOCATION) :
    (lib.ciborium_from_reader (cbor.encode request.serialize) >>= IdentityPublishRequest.deserialize) =
      .ok request := by
  rw [hcbor.of_length request.serialize_depth_le hlength, ok_bind, deserialize_serialize]

/-! The name of a key in the keystore. -/

/-- `char::to_ascii_lowercase`. -/
def to_ascii_lowercase (c : Char) : Char :=
  if 'A' ≤ c && c ≤ 'Z' then Char.ofNat (c.toNat + 32) else c

/-- The loop of `sanitize_key_part`: what is written so far, and whether a
    separator was written last. -/
def sanitize_byte : List Char × Bool → UInt8 → List Char × Bool
  | (sanitized, last_was_separator), byte =>
    let ch := Char.ofNat byte.toNat
    if is_ascii_alphanumeric ch then (sanitized ++ [to_ascii_lowercase ch], false)
    else if ch == '-' || ch == '_' then
      if !last_was_separator && !sanitized.isEmpty then (sanitized ++ [ch], true)
      else (sanitized, last_was_separator)
    else if !last_was_separator && !sanitized.isEmpty then (sanitized ++ ['-'], true)
    else (sanitized, last_was_separator)

def sanitize_key_part (part : String) : String :=
  let sanitized := ((utf8 part).foldl sanitize_byte ([], false)).1
  let sanitized := (sanitized.reverse.dropWhile fun c => c == '-' || c == '_').reverse
  if sanitized.isEmpty then "unknown" else String.ofList sanitized

def document_ma_type (document : Document) : String :=
  match document.ma with
  | some (.Map entries) =>
    match entries.lookup "type" with
    | some (.String kind) => kind
    | _ => "unknown"
  | _ => "unknown"

def HEX_LOWER : List Char := "0123456789abcdef".toList

/-- `blake3::Hash::to_hex`. -/
def to_hex (bytes : Bytes) : List Char :=
  bytes.flatMap fun b => [HEX_LOWER.getD (b.toNat / 16) '0', HEX_LOWER.getD (b.toNat % 16) '0']

def ipns_key_name_for_parts (lib : Lib) (parts : List String) (ipns_id : String) : String :=
  let name_parts := if parts.isEmpty then ["unknown"] else parts.map sanitize_key_part
  let hash := lib.blake3_hash (utf8 ipns_id)
  MA_IPNS_ALIAS_HASH_PREFIX ++ "-".intercalate name_parts ++ "-" ++
    String.ofList ((to_hex hash.val).take 16)

def ipns_key_name_for_document (lib : Lib) (document : Document) : String :=
  let ipns_id :=
    match Did.try_from lib document.id with
    | .ok document_did => document_did.ipns
    | .error _ => document.id
  ipns_key_name_for_parts lib [document_ma_type document] ipns_id

/-! Validation. -/

structure ValidatedIdentityPublish where
  document_bytes : Bytes
  ipns_secret_key : Bytes
  document : Document
  document_did : Did

section
variable (lib : Lib) (clock : Clock)

/-- `map_err(|e| anyhow!("…{}", e))` on the crate's own errors. -/
def context {α : Type} (text : String) (x : MaResult α) : Result String α :=
  map_err (fun e => text ++ e.display) x

/-- The entry point for the bytes of a document that was stored. -/
def parse_document_bytes (bytes : Bytes) : Result String Document := do
  let document ← context "DAG-CBOR decode failed: " (Document.decode lib bytes)
  context "document validation failed: " (document.validate lib)
  context "document proof verification failed: " (document.verify lib)
  return document

def validate_identity_publish_message (message : Message) :
    Result String ValidatedIdentityPublish := do
  reject_if (message.message_type != MESSAGE_TYPE_IDENTITY_PUBLISH_REQUEST)
    ("expected " ++ MESSAGE_TYPE_IDENTITY_PUBLISH_REQUEST ++ " on /ma/ipfs/0.0.1, got " ++
      message.message_type)
  let payload ← of_library ("invalid identity-publish request payload: " ++ ·)
    (lib.ciborium_from_reader message.payload >>= IdentityPublishRequest.deserialize)
  let sender_did ← context ("invalid sender did '" ++ message.from ++ "': ")
    (Did.try_from lib message.from)
  let document ← context "invalid DID document dag-cbor: " (Document.decode lib payload.document)
  context "invalid DID document: " (document.validate lib)
  context "DID document signature verification failed: " (document.verify lib)
  let document_did ← context ("invalid document DID '" ++ document.id ++ "': ")
    (Did.try_from lib document.id)
  reject_if (document_did.ipns != sender_did.ipns)
    ("sender IPNS '" ++ sender_did.ipns ++ "' does not match document IPNS '" ++
      document_did.ipns ++ "'")
  context "request signature verification failed: "
    (message.verify_with_document lib clock document)
  return {
    document_bytes := payload.document
    ipns_secret_key := payload.ipns_secret_key
    document
    document_did }

def validate_identity_publish_request (message_cbor : Bytes) :
    Result String ValidatedIdentityPublish := do
  let message ← context "invalid signed message: " (Message.decode lib message_cbor)
  validate_identity_publish_message lib clock message

end

/-- What is checked of a request and the document it carries. -/
structure ValidatedIdentityPublish.Valid (lib : Lib) (clock : Clock) (message : Message)
    (validated : ValidatedIdentityPublish) : Prop where
  message_type : message.message_type = MESSAGE_TYPE_IDENTITY_PUBLISH_REQUEST
  payload : (lib.ciborium_from_reader message.payload >>= IdentityPublishRequest.deserialize) =
    .ok ⟨validated.document_bytes, validated.ipns_secret_key⟩
  sender : ∃ sender_did, Did.try_from lib message.from = .ok sender_did ∧
    validated.document_did.ipns = sender_did.ipns
  document : Document.decode lib validated.document_bytes = .ok validated.document
  validate : validated.document.validate lib = .ok ()
  verify : validated.document.verify lib = .ok ()
  document_did : Did.try_from lib validated.document.id = .ok validated.document_did
  request : message.verify_with_document lib clock validated.document = .ok ()

/-- Stored bytes are accepted if they decode to a document that is valid and whose proof verifies. -/
theorem parse_document_bytes_eq_ok_iff {lib : Lib} {bytes : Bytes} {document : Document} :
    parse_document_bytes lib bytes = .ok document ↔ Document.decode lib bytes = .ok document ∧
      document.validate lib = .ok () ∧ document.verify lib = .ok () := by
  simp only [parse_document_bytes, context, bind_eq_ok_iff, exists_unit, map_err_eq_ok_iff]
  constructor
  · rintro ⟨found, hdecode, hvalid, hverify, hfound⟩
    cases hfound
    exact ⟨hdecode, hvalid, hverify⟩
  · rintro ⟨hdecode, hvalid, hverify⟩
    exact ⟨document, hdecode, hvalid, hverify, rfl⟩

theorem validate_identity_publish_message_eq_ok_iff {lib : Lib} {clock : Clock} {message : Message}
    {validated : ValidatedIdentityPublish} :
    validate_identity_publish_message lib clock message = .ok validated ↔
      validated.Valid lib clock message := by
  unfold validate_identity_publish_message context
  simp only [bind_eq_ok_iff, exists_unit, reject_if_eq_ok_iff, of_library_eq_ok_iff,
    map_err_eq_ok_iff, bne_eq_false_iff_eq]
  constructor
  · rintro ⟨htype, payload, hpayload, sender_did, hsender, document, hdocument, hvalidate, hverify,
      document_did, hdid, hsame, hrequest, hvalidated⟩
    cases hvalidated
    exact ⟨htype, hpayload, ⟨sender_did, hsender, hsame⟩, hdocument, hvalidate, hverify, hdid, hrequest⟩
  · rintro ⟨htype, hpayload, ⟨sender_did, hsender, hsame⟩, hdocument, hvalidate, hverify, hdid,
      hrequest⟩
    exact ⟨htype, _, hpayload, sender_did, hsender, validated.document, hdocument, hvalidate, hverify,
      validated.document_did, hdid, hsame, hrequest, rfl⟩

/-! Publication. -/

structure RemotePinOptions where
  service : String
  name : String
deriving DecidableEq, Repr

structure DidDocumentPublishOptions where
  key_parts : List String
  ipns : IpnsPublishOptions
  attempts : Nat
  initial_backoff : Duration
  remote_pin : Option RemotePinOptions
  overwrite : Bool
deriving DecidableEq, Repr

/-- `DidDocumentPublishOptions::default`. -/
def DidDocumentPublishOptions.default : DidDocumentPublishOptions where
  key_parts := []
  ipns := IpnsPublishOptions.default
  attempts := 3
  initial_backoff := Duration.from_secs 1
  remote_pin := none
  overwrite := true

inductive RemotePinStatus where
  | Replicated (cleanup_scheduled : Bool)
  | Degraded (error : String)
deriving DecidableEq, Repr

structure PublishedDidDocument where
  cid : String
  key_name : String
  ipns_id : String
  local_pinned : Bool
  cleanup_scheduled : Bool
  remote_pin : Option RemotePinStatus
deriving DecidableEq, Repr

structure IpfsPublishDidResponse where
  ok : Bool
  message : String
  did : Option String
  cid : Option String
deriving DecidableEq, Repr

/-- Code that publishes and may fail. -/
abbrev Attempt := ExceptT (Failure String) Publisher

/-- `.await?` on a call whose errors are texts. -/
def await {α : Type} (x : Publisher (Except String α)) : Attempt α :=
  ExceptT.mk do return of_library id (← x)

/-- The attempts of `remote_pin_with_retry`, with `left` more after this one. -/
def remote_pin_attempts (kubo_url : String) (remote : RemotePinOptions) (cid : String) (left : Nat)
    (previous_delay delay : Duration) : Publisher (Except String Unit) := do
  match ← remote_pin_add_named kubo_url remote.service cid remote.name with
  | .ok () => return .ok ()
  | .error error =>
    match left with
    | 0 => return .error error
    | left + 1 =>
      sleep delay
      let next := previous_delay.saturating_add delay
      remote_pin_attempts kubo_url remote cid left delay (min next (Duration.from_secs 30))

def remote_pin_with_retry (kubo_url : String) (remote : RemotePinOptions) (cid : String)
    (attempts : Nat) (initial_backoff : Duration) : Publisher (Except String Unit) :=
  match attempts with
  | 0 => return .error "remote pin attempts must be >= 1"
  | left + 1 => remote_pin_attempts kubo_url remote cid left 0 initial_backoff

/-- The replication in `confirm_pins_and_schedule_cleanup`: its status, and the
    service whose pins are to be cleaned up too. -/
def replicate (kubo_url published_cid : String) (options : DidDocumentPublishOptions) :
    Publisher (Option RemotePinStatus × Option String) :=
  match options.remote_pin with
  | some remote => do
    match ← remote_pin_with_retry kubo_url remote published_cid options.attempts
        options.initial_backoff with
    | .ok () => return (some (.Replicated false), some remote.service)
    | .error error => return (some (.Degraded error), none)
  | none => return (none, none)

def confirm_pins_and_schedule_cleanup (kubo_url pin_name published_cid : String)
    (options : DidDocumentPublishOptions) : Publisher (Bool × Option RemotePinStatus) := do
  let (remote_pin, remote_service) ← replicate kubo_url published_cid options
  let request : PinCleanupRequest := {
    kubo_url
    name := pin_name
    protected_cid := published_cid
    cleanup_local := true
    remote_service }
  let cleanup_scheduled ← (if options.overwrite then schedule request else pure false)
  let remote_pin := remote_pin.map fun status =>
    match status with
    | .Replicated _ => .Replicated cleanup_scheduled
    | .Degraded error => .Degraded error
  return (cleanup_scheduled, remote_pin)

section
variable (lib : Lib)

/-- The `if let Some(existing) = existing_key` statement of
    `publish_did_document_to_kubo`. -/
def require_key (kubo_url key_name document_ipns_id : String) (ipns_private_key : Bytes)
    (existing_key : Option KuboKey) : Attempt Unit :=
  match existing_key with
  | some existing =>
    reject_if (trim existing.id != document_ipns_id)
      ("existing key '" ++ key_name ++ "' has IPNS id '" ++ existing.id ++
        "' but document DID IPNS is '" ++ document_ipns_id ++ "'")
  | none => do
    reject_if ipns_private_key.isEmpty
      "ipns_private_key is required when key is not present in Kubo"
    let raw_key ← ok_or "ipns_private_key must be 32 bytes" (ByteArr.try_from 32 ipns_private_key)
    let keypair ← of_library ("invalid ipns key: " ++ ·) (lib.keypair_ed25519_from_bytes raw_key)
    let protobuf_key ← of_library ("failed to encode ipns key: " ++ ·)
      (lib.keypair_to_protobuf_encoding keypair)
    let imported ← await (import_key kubo_url key_name protobuf_key)
    reject_if (trim imported.id != document_ipns_id)
      ("imported key IPNS id '" ++ imported.id ++ "' does not match document DID IPNS '" ++
        document_ipns_id ++ "'")

def publish_did_document_to_kubo (kubo_url : String) (did_document ipns_private_key : Bytes)
    (options : DidDocumentPublishOptions) : Attempt PublishedDidDocument := do
  let document ← context "invalid DID document dag-cbor: " (Document.decode lib did_document)
  let document_did ← context ("invalid document DID '" ++ document.id ++ "': ")
    (Did.try_from lib document.id)
  let document_ipns_id := document_did.ipns
  let key_parts :=
    if options.key_parts.isEmpty then [document_ma_type document] else options.key_parts
  let key_name := ipns_key_name_for_parts lib key_parts document_ipns_id
  let keys ← await (list_keys kubo_url)
  require_key lib kubo_url key_name document_ipns_id ipns_private_key
    (keys.find? fun k => k.name == key_name)
  let pin_name := (options.remote_pin.map fun remote => remote.name).getD key_name
  let add_name := if options.overwrite then in_flight_pin_name pin_name else pin_name
  let published_cid ← await (dag_put_cbor kubo_url did_document false)
  await (pin_add_named kubo_url published_cid add_name)
  let _ ← await (name_publish_with_retry kubo_url key_name document_ipns_id published_cid
    options.ipns options.attempts options.initial_backoff)
  let (cleanup_scheduled, remote_pin) ←
    confirm_pins_and_schedule_cleanup kubo_url pin_name published_cid options
  return {
    cid := published_cid
    key_name
    ipns_id := document_ipns_id
    local_pinned := true
    cleanup_scheduled
    remote_pin }

def handle_ipfs_publish (clock : Clock) (kubo_url : String) (message_cbor : Bytes) :
    Attempt IpfsPublishDidResponse := do
  let validated ← validate_identity_publish_request lib clock message_cbor
  let published ← publish_did_document_to_kubo lib kubo_url validated.document_bytes
    validated.ipns_secret_key DidDocumentPublishOptions.default
  return {
    ok := true
    message := "did document published via ma/ipfs/0.0.1"
    did := some validated.document_did.id
    cid := some published.cid }

end

end ma_core.ipfs
