import MaCore.Base.Result

namespace ma_core.error

/-- The primitive DID and message errors. -/
inductive MaError where
  | EmptyDid
  | InvalidDidPrefix
  | MissingIdentifier
  | MissingFragment
  | UnexpectedFragment
  | InvalidDidFormat
  | InvalidFragment (fragment : String)
  | InvalidIdentifier
  | InvalidMessageId
  | EmptyMessageId
  | InvalidMessageType
  | InvalidKeyType
  | InvalidIdentitySecret
  | InvalidRecipient
  | MissingContent
  | MissingContentType
  | MissingSender
  | MissingSignature
  | InvalidMessageTimestamp
  | MessageTooOld
  | MessageFromFuture
  | ReplayDetected
  | BroadcastMustNotHaveRecipient
  | BroadcastMustNotBeEncrypted
  | EncryptionRequired
  | MessageRequiresRecipient
  | EmptyContext
  | InvalidContext
  | EmptyController
  | VerificationMethodMissingType
  | InvalidVerificationMethodType (kind : String)
  | UnknownVerificationMethod (id : String)
  | EmptyPublicKeyMultibase
  | InvalidPublicKeyMultibase
  | InvalidMulticodec (expected actual : UInt64)
  | InvalidKeyLength (expected actual : Nat)
  | MissingProof
  | InvalidProofType (kind : String)
  | InvalidProofPurpose (purpose : String)
  | InvalidDocumentSignature
  | InvalidMessageSignature
  | InvalidCreatedAt (value : String)
  | InvalidUpdatedAt (value : String)
  | MissingEnvelopeField (field : String)
  | InvalidEphemeralKeyLength
  | CiphertextTooShort
  | Crypto
  | CborEncode (detail : String)
  | CborDecode (detail : String)
deriving DecidableEq, Repr

/-- The `#[error(...)]` texts. -/
def MaError.display : MaError → String
  | EmptyDid => "empty DID"
  | InvalidDidPrefix => "invalid DID prefix, expected did:ma:"
  | MissingIdentifier => "missing DID identifier"
  | MissingFragment => "missing DID fragment"
  | UnexpectedFragment => "unexpected DID fragment"
  | InvalidDidFormat => "invalid DID format"
  | InvalidFragment fragment => "invalid DID fragment: " ++ fragment
  | InvalidIdentifier => "invalid DID identifier"
  | InvalidMessageId => "invalid message id"
  | EmptyMessageId => "empty message id"
  | InvalidMessageType => "invalid message type"
  | InvalidKeyType => "invalid key type"
  | InvalidIdentitySecret => "invalid identity secret"
  | InvalidRecipient => "invalid recipient"
  | MissingContent => "missing message content"
  | MissingContentType => "missing message content type"
  | MissingSender => "missing sender"
  | MissingSignature => "missing signature"
  | InvalidMessageTimestamp => "message timestamp is invalid"
  | MessageTooOld => "message is too old"
  | MessageFromFuture => "message timestamp is too far in the future"
  | ReplayDetected => "replay detected"
  | BroadcastMustNotHaveRecipient => "broadcast messages must not have a recipient"
  | BroadcastMustNotBeEncrypted => "broadcast messages must not be encrypted"
  | EncryptionRequired => "message type requires an encrypted envelope"
  | MessageRequiresRecipient => "encrypted messages require a recipient"
  | EmptyContext => "context missing"
  | InvalidContext => "invalid DID document context"
  | EmptyController => "controller missing"
  | VerificationMethodMissingType => "verification method missing type"
  | InvalidVerificationMethodType kind => "invalid verification method type: " ++ kind
  | UnknownVerificationMethod id => "unknown verification method: " ++ id
  | EmptyPublicKeyMultibase => "public key multibase is empty"
  | InvalidPublicKeyMultibase => "invalid public key multibase"
  | InvalidMulticodec expected actual =>
    "invalid multicodec, expected " ++ toString expected ++ ", got " ++ toString actual
  | InvalidKeyLength expected actual =>
    "invalid key length, expected " ++ toString expected ++ ", got " ++ toString actual
  | MissingProof => "proof is missing"
  | InvalidProofType kind => "invalid proof type: " ++ kind
  | InvalidProofPurpose purpose => "invalid proof purpose: " ++ purpose
  | InvalidDocumentSignature => "document signature is invalid"
  | InvalidMessageSignature => "message signature is invalid"
  | InvalidCreatedAt value =>
    "invalid createdAt timestamp (must be RFC3339 UTC whole-second, e.g. 2026-08-08T12:34:56Z): " ++ value
  | InvalidUpdatedAt value =>
    "invalid updatedAt timestamp (must be RFC3339 UTC whole-second, e.g. 2026-08-08T12:34:56Z): " ++ value
  | MissingEnvelopeField field => "missing envelope field: " ++ field
  | InvalidEphemeralKeyLength => "invalid ephemeral key length"
  | CiphertextTooShort => "ciphertext too short"
  | Crypto => "cryptographic operation failed"
  | CborEncode detail => "CBOR encode failed: " ++ detail
  | CborDecode detail => "CBOR decode failed: " ++ detail

abbrev MaResult (α : Type) := rust.Result MaError α

/-- The errors of the public endpoint API. -/
inductive Error where
  | Transport (detail : String)
  | ConnectionClosed (detail : String)
  | Validation (cause : MaError)
  | Resolution (did detail : String)
  | NoInboxTransport (detail : String)
  | Other (detail : String)
deriving DecidableEq, Repr

/-- Their `#[error(...)]` texts. -/
def Error.display : Error → String
  | Transport detail => "transport error: " ++ detail
  | ConnectionClosed detail => "connection closed: " ++ detail
  | Validation cause => "message validation failed: " ++ cause.display
  | Resolution did detail => "DID resolution failed for " ++ did ++ ": " ++ detail
  | NoInboxTransport detail => "no inbox transport in DID document for " ++ detail
  | Other detail => detail

abbrev ServiceResult (α : Type) := rust.Result Error α

/-- The `?` operator on a `MaResult` where the caller returns an `Error`. -/
def validated {α : Type} (x : MaResult α) : ServiceResult α := rust.map_err Error.Validation x

@[simp] theorem validated_eq_ok_iff {α : Type} {x : MaResult α} {a : α} :
    validated x = .ok a ↔ x = .ok a :=
  rust.map_err_eq_ok_iff

theorem validated_eq_err_iff {α : Type} {x : MaResult α} {cause : MaError} :
    validated x = rust.Err (.Validation cause) ↔ x = rust.Err cause := by
  simp [validated, rust.map_err_eq_err_iff]

end ma_core.error
