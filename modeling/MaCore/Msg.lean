import MaCore.Constants
import MaCore.Doc

open rust
open ma_core.constants ma_core.error ma_core.did ma_core.key ma_core.doc ma_core.multiformat
open ma_core.service

namespace ma_core.msg

def MESSAGE_PREFIX : String := "/ma/"
def DEFAULT_REPLAY_WINDOW_SECS : UInt64 := 120
def DEFAULT_MAX_CLOCK_SKEW_SECS : UInt64 := 30
def DEFAULT_MESSAGE_TTL_SECS : UInt64 := 3600

def encode_content (codec : UInt64) (payload : Bytes) : Bytes := multicodec_encode codec payload

def decode_content (content : Bytes) : MaResult (UInt64 × Bytes) := multicodec_decode content

def codec_for (content_type : String) : UInt64 :=
  match content_type with
  | "application/vnd.ipld.dag-cbor" => CODEC_DAG_CBOR
  | "application/cbor" | "application/vnd.ma.term" => CODEC_CBOR
  | _ => CODEC_IDENTITY

def default_protocol : String := MESSAGE_PREFIX ++ VERSION

/-- A reading of the system clock in seconds since the epoch; none before it.
    A call reads the clock several times and here finds the same value. -/
abbrev Clock := Option UInt64

def now_unix_secs (clock : Clock) : MaResult UInt64 := ok_or .InvalidMessageTimestamp clock

structure Headers where
  id : String
  protocol : String
  message_type : String
  «from» : String
  «to» : String
  created_at : UInt64
  exp : UInt64
  content_type : String
  reply_to : Option String
  content_hash : ByteArr 32
  signature : Bytes
deriving DecidableEq

structure Message where
  id : String
  protocol : String
  message_type : String
  «from» : String
  «to» : String
  created_at : UInt64
  exp : UInt64
  content_type : String
  reply_to : Option String
  content : Bytes
  signature : Bytes
deriving DecidableEq

/-! The derived `Serialize` and `Deserialize`, fields in declaration order. -/

/-- A field with `skip_serializing_if = "Option::is_none"`. -/
def optionalField (name : String) (value : Option String) : List (String × cbor.Value) :=
  (value.map fun s => (name, .text s)).toList

def Headers.serialize (self : Headers) : cbor.Value := cbor.structValue (
  [("id", .text self.id), ("protocol", .text self.protocol), ("type", .text self.message_type),
    ("from", .text self.from), ("to", .text self.to), ("createdAt", .uint self.created_at),
    ("exp", .uint self.exp), ("contentType", .text self.content_type)] ++
  optionalField "replyTo" self.reply_to ++
  [("contentHash", cbor.bytesValue self.content_hash.val),
    ("signature", cbor.bytesValue self.signature)])

def Headers.deserialize (value : cbor.Value) : Except String Headers := do
  let fields ← cbor.readFields value
  return {
    id := ← serde.required fields "id" cbor.readString
    protocol := ← serde.required fields "protocol" cbor.readString
    message_type := ← serde.required fields "type" cbor.readString
    «from» := ← serde.required fields "from" cbor.readString
    «to» := ← serde.required fields "to" cbor.readString
    created_at := ← serde.required fields "createdAt" cbor.readU64
    exp := ← serde.defaulted fields "exp" 0 cbor.readU64
    content_type := ← serde.required fields "contentType" cbor.readString
    reply_to := ← serde.defaulted fields "replyTo" none (cbor.readOption cbor.readString)
    content_hash := ← serde.required fields "contentHash" (cbor.readByteArr 32)
    signature := ← serde.required fields "signature" cbor.readBytes }

def Message.serialize (self : Message) : cbor.Value := cbor.structValue (
  [("id", .text self.id), ("protocol", .text self.protocol), ("type", .text self.message_type),
    ("from", .text self.from), ("to", .text self.to), ("createdAt", .uint self.created_at),
    ("exp", .uint self.exp), ("contentType", .text self.content_type)] ++
  optionalField "replyTo" self.reply_to ++
  [("content", cbor.bytesValue self.content), ("signature", cbor.bytesValue self.signature)])

def Message.deserialize (value : cbor.Value) : Except String Message := do
  let fields ← cbor.readFields value
  return {
    id := ← serde.required fields "id" cbor.readString
    protocol := ← serde.required fields "protocol" cbor.readString
    message_type := ← serde.required fields "type" cbor.readString
    «from» := ← serde.required fields "from" cbor.readString
    «to» := ← serde.required fields "to" cbor.readString
    created_at := ← serde.required fields "createdAt" cbor.readU64
    exp := ← serde.defaulted fields "exp" 0 cbor.readU64
    content_type := ← serde.required fields "contentType" cbor.readString
    reply_to := ← serde.defaulted fields "replyTo" none (cbor.readOption cbor.readString)
    content := ← serde.required fields "content" cbor.readBytes
    signature := ← serde.required fields "signature" cbor.readBytes }

/-- `ciborium::ser::into_writer` into a fresh `Vec`. -/
def to_cbor (value : cbor.Value) : MaResult Bytes := to_vec (cbor.encode value)

/-- `ciborium::de::from_reader` for a type with this deserializer. -/
def from_cbor {α : Type} (lib : Lib) (deserialize : cbor.Value → Except String α) (bytes : Bytes) :
    MaResult α := do
  let value ← of_library .CborDecode (lib.ciborium_from_reader bytes)
  of_library .CborDecode (deserialize value)

def validate_message_id (id : String) : MaResult Unit := do
  reject_if id.isEmpty .EmptyMessageId
  reject_if (!id.toList.all is_nanoid_char) .InvalidMessageId

def validate_protocol (kind : String) : MaResult Unit :=
  reject_if (kind != default_protocol) .InvalidMessageType

section
variable (lib : Lib) (clock : Clock)

def validate_message_freshness (created_at exp : UInt64) : MaResult Unit := do
  let now ← now_unix_secs clock
  let latest ← u64_add lib.overflow_checks now DEFAULT_MAX_CLOCK_SKEW_SECS
  reject_if (created_at > latest) .MessageFromFuture
  if exp = 0 then
    return ()
  let deadline ← u64_add lib.overflow_checks exp DEFAULT_MAX_CLOCK_SKEW_SECS
  reject_if (now > deadline) .MessageTooOld

def Headers.validate (self : Headers) : MaResult Unit := do
  validate_message_id self.id
  validate_protocol self.protocol
  forM self.reply_to.toList validate_message_id
  reject_if self.content_type.isEmpty .MissingContentType
  Did.validate lib self.from
  let recipient_is_empty := (trim self.to).isEmpty
  if self.message_type = MESSAGE_TYPE_BROADCAST then
    reject_if (!recipient_is_empty) .BroadcastMustNotHaveRecipient
  else
    reject_if recipient_is_empty .MessageRequiresRecipient
    map_err (fun _ => .InvalidRecipient) (Did.validate_url lib self.to)
  validate_message_freshness lib clock self.created_at self.exp

end

section
variable (lib : Lib)

def content_hash (content : Bytes) : ByteArr 32 := lib.blake3_hash content

namespace Message

def encode (self : Message) : MaResult Bytes := to_cbor self.serialize

def decode (bytes : Bytes) : MaResult Message := from_cbor lib Message.deserialize bytes

/-- The content without its codec, or all of it where it has none. -/
def payload (self : Message) : Bytes :=
  match decode_content self.content with
  | .ok (_, payload) => payload
  | .error _ => self.content

def unsigned_headers (self : Message) : Headers where
  id := self.id
  protocol := self.protocol
  message_type := self.message_type
  «from» := self.from
  «to» := self.to
  created_at := self.created_at
  exp := self.exp
  content_type := self.content_type
  reply_to := self.reply_to
  content_hash := content_hash lib self.content
  signature := []

def headers (self : Message) : Headers :=
  { self.unsigned_headers lib with signature := self.signature }

def headers_cbor (self : Message) : MaResult Bytes := to_cbor (self.headers lib).serialize

def unsigned_headers_cbor (self : Message) : MaResult Bytes :=
  to_cbor (self.unsigned_headers lib).serialize

def sign (self : Message) (signing_key : SigningKey) : MaResult Message := do
  let bytes ← self.unsigned_headers_cbor lib
  return { self with signature := signing_key.sign lib bytes }

def validate_content (self : Message) : MaResult Unit :=
  reject_if self.content.isEmpty .MissingContent

/-- `Message::new_with_options`; `nanoid` is the identifier generated for the message. -/
def new_with_options (clock : Clock) (nanoid : String) («from» «to» message_type content_type : String)
    (content : Bytes) (exp : UInt64) (reply_to : Option String) (signing_key : SigningKey) :
    MaResult Message := do
  let encoded := encode_content (codec_for content_type) content
  let message : Message := {
    id := nanoid
    protocol := default_protocol
    message_type
    «from»
    «to»
    created_at := ← now_unix_secs clock
    exp
    content_type
    reply_to
    content := encoded
    signature := [] }
  (message.unsigned_headers lib).validate lib clock
  message.validate_content
  message.sign lib signing_key

def new_with_exp (clock : Clock) (nanoid : String) («from» «to» message_type content_type : String)
    (content : Bytes) (exp : UInt64) (signing_key : SigningKey) : MaResult Message :=
  new_with_options lib clock nanoid «from» «to» message_type content_type content exp none signing_key

def new (clock : Clock) (nanoid : String) («from» «to» message_type content_type : String)
    (content : Bytes) (signing_key : SigningKey) : MaResult Message := do
  let exp ← u64_add lib.overflow_checks (← now_unix_secs clock) DEFAULT_MESSAGE_TTL_SECS
  new_with_exp lib clock nanoid «from» «to» message_type content_type content exp signing_key

def new_reply (clock : Clock) (nanoid : String) («from» «to» message_type content_type : String)
    (content : Bytes) (reply_to : String) (signing_key : SigningKey) : MaResult Message := do
  let exp ← u64_add lib.overflow_checks (← now_unix_secs clock) DEFAULT_MESSAGE_TTL_SECS
  new_with_options lib clock nanoid «from» «to» message_type content_type content exp (some reply_to)
    signing_key

def verify_with_document (clock : Clock) (self : Message) (sender_document : Document) :
    MaResult Unit := do
  reject_if self.from.isEmpty .MissingSender
  reject_if self.signature.isEmpty .MissingSignature
  let sender_did ← Did.try_from lib self.from
  reject_if (sender_document.id != sender_did.base_id) .InvalidRecipient
  (self.headers lib).validate lib clock
  let bytes ← self.unsigned_headers_cbor lib
  let signature ← ok_or .InvalidMessageSignature (ByteArr.try_from 64 self.signature)
  let public_key ← sender_document.assertion_method_public_key lib
  reject_if (!lib.ed25519_verify public_key bytes signature) .InvalidMessageSignature

@[simp] theorem headers_id (self : Message) : (self.headers lib).id = self.id := rfl

/-- A message with these headers and no content yet. -/
def from_headers (clock : Clock) (headers : Headers) : MaResult Message := do
  headers.validate lib clock
  return {
    id := headers.id
    protocol := headers.protocol
    message_type := headers.message_type
    «from» := headers.from
    «to» := headers.to
    created_at := headers.created_at
    exp := headers.exp
    content_type := headers.content_type
    reply_to := headers.reply_to
    content := []
    signature := headers.signature }

end Message

end

end ma_core.msg
