import MaCore.Base.Serde
import MaCore.Key

open rust
open ma_core.error ma_core.did ma_core.key ma_core.multiformat

namespace ma_core.doc

def DEFAULT_DID_CONTEXT : List String := ["https://www.w3.org/ns/did/v1.1"]
def DEFAULT_PROOF_TYPE : String := "MultiformatSignature2023"
def DEFAULT_PROOF_PURPOSE : String := "assertionMethod"

structure VerificationMethod where
  id : String
  key_type : String
  controller : String
  public_key_multibase : String
deriving DecidableEq, Repr

structure Proof where
  proof_type : String
  verification_method : String
  proof_purpose : String
  proof_value : String
deriving DecidableEq, Repr

structure Document where
  context : List String
  id : String
  controller : List String
  verification_method : List VerificationMethod
  assertion_method : List String
  key_agreement : List String
  proof : Proof
  created_at : String
  updated_at : String
  ma : Option Ipld

/-! The derived `Serialize` and `Deserialize`. Keys are in the order of the
encoded map. -/

def strings (items : List String) : Ipld := .List (items.map .String)

def readString : Ipld → Except String String
  | .String s => .ok s
  | _ => .error "invalid type: expected a string"

def readList {α : Type} (read : Ipld → Except String α) : Ipld → Except String (List α)
  | .List items => items.mapM read
  | _ => .error "invalid type: expected a sequence"

def readMap : Ipld → Except String (List (String × Ipld))
  | .Map entries => .ok entries
  | _ => .error "invalid type: expected a map"

def VerificationMethod.serialize (self : VerificationMethod) : Ipld := .Map [
  ("controller", .String self.controller),
  ("id", .String self.id),
  ("publicKeyMultibase", .String self.public_key_multibase),
  ("type", .String self.key_type)]

def VerificationMethod.deserialize (value : Ipld) : Except String VerificationMethod := do
  let fields ← readMap value
  return {
    id := ← serde.required fields "id" readString
    key_type := ← serde.required fields "type" readString
    controller := ← serde.required fields "controller" readString
    public_key_multibase := ← serde.required fields "publicKeyMultibase" readString }

def Proof.serialize (self : Proof) : Ipld := .Map [
  ("proofPurpose", .String self.proof_purpose),
  ("proofValue", .String self.proof_value),
  ("type", .String self.proof_type),
  ("verificationMethod", .String self.verification_method)]

def Proof.deserialize (value : Ipld) : Except String Proof := do
  let fields ← readMap value
  return {
    proof_type := ← serde.required fields "type" readString
    verification_method := ← serde.required fields "verificationMethod" readString
    proof_purpose := ← serde.required fields "proofPurpose" readString
    proof_value := ← serde.required fields "proofValue" readString }

/-- An `Option<Ipld>` that is missing or `null` is `None`. -/
def readExtension : Ipld → Except String (Option Ipld)
  | .Null => .ok none
  | value => .ok (some value)

def Document.serialize (self : Document) : Ipld := .Map (
  [("@context", strings self.context),
    ("assertionMethod", strings self.assertion_method),
    ("controller", strings self.controller),
    ("createdAt", .String self.created_at),
    ("id", .String self.id),
    ("keyAgreement", strings self.key_agreement)] ++
  (self.ma.map fun value => ("ma", value)).toList ++
  [("proof", self.proof.serialize),
    ("updatedAt", .String self.updated_at),
    ("verificationMethod", .List (self.verification_method.map (·.serialize)))])

def Document.deserialize (value : Ipld) : Except String Document := do
  let fields ← readMap value
  return {
    context := ← serde.required fields "@context" (readList readString)
    id := ← serde.required fields "id" readString
    controller := ← serde.required fields "controller" (readList readString)
    verification_method :=
      ← serde.required fields "verificationMethod" (readList VerificationMethod.deserialize)
    assertion_method := ← serde.required fields "assertionMethod" (readList readString)
    key_agreement := ← serde.required fields "keyAgreement" (readList readString)
    proof := ← serde.required fields "proof" Proof.deserialize
    created_at := ← serde.required fields "createdAt" readString
    updated_at := ← serde.required fields "updatedAt" readString
    ma := ← serde.defaulted fields "ma" none readExtension }

section
variable (lib : Lib)

def is_valid_rfc3339_utc (value : String) : Bool :=
  value.utf8ByteSize == 20 && value.toList.getLast? == some 'Z' && lib.rfc3339_parses value

def validate_bare_did (value : String) : MaResult Unit := do
  let did ← Did.try_from lib value
  reject_if did.fragment.isSome .UnexpectedFragment

namespace VerificationMethod

def validate (self : VerificationMethod) : MaResult Unit := do
  Did.validate_resource lib self.id
  match self.key_type with
  | "" => Err .VerificationMethodMissingType
  | "Multikey" => .ok ()
  | key_type => Err (.InvalidVerificationMethodType key_type)
  reject_if self.controller.isEmpty .EmptyController
  validate_bare_did lib self.controller
  reject_if self.public_key_multibase.isEmpty .EmptyPublicKeyMultibase
  let _ ← public_key_multibase_decode lib self.public_key_multibase
  return ()

/-- `VerificationMethod::new`: the fragment replaces the one `id` has. -/
def new (id controller key_type fragment public_key_multibase : String) :
    MaResult VerificationMethod := do
  let base_id ← ok_or .MissingIdentifier (split '#' id).head?
  let method : VerificationMethod :=
    { id := base_id ++ "#" ++ fragment, key_type, controller, public_key_multibase }
  validate lib method
  return method

end VerificationMethod

namespace Proof

/-- `Proof::default`. -/
def default : Proof := ⟨"", "", "", ""⟩

def new (proof_value verification_method : String) : Proof where
  proof_type := DEFAULT_PROOF_TYPE
  verification_method
  proof_purpose := DEFAULT_PROOF_PURPOSE
  proof_value

def is_empty (self : Proof) : Bool := self.proof_value.isEmpty

end Proof

namespace Document

/-- `Document::new` at the time `now_iso_utc` returns. -/
def new (identity controller : Did) (now_iso_utc : String) : Document where
  context := DEFAULT_DID_CONTEXT
  id := identity.base_id
  controller := [controller.base_id]
  verification_method := []
  assertion_method := []
  key_agreement := []
  proof := Proof.default
  created_at := now_iso_utc
  updated_at := now_iso_utc
  ma := none

def encode (self : Document) : MaResult Bytes :=
  of_library .CborEncode (lib.dagcbor_to_vec self.serialize)

def decode (bytes : Bytes) : MaResult Document := do
  let value ← of_library .CborDecode (lib.dagcbor_from_slice bytes)
  of_library .CborDecode (Document.deserialize value)

def add_verification_method (self : Document) (method : VerificationMethod) : MaResult Document := do
  VerificationMethod.validate lib method
  let duplicate := self.verification_method.any fun existing =>
    existing.id == method.id || existing.public_key_multibase == method.public_key_multibase
  return if duplicate then self
    else { self with verification_method := self.verification_method ++ [method] }

def get_verification_method_by_id (self : Document) (method_id : String) :
    MaResult VerificationMethod :=
  ok_or (.UnknownVerificationMethod method_id)
    (self.verification_method.find? fun method => method.id == method_id)

/-- The key bytes of a method, which must be under the expected codec and be 32. -/
def key_bytes_for_method (self : Document) (method_id : String) (expected : UInt64) :
    MaResult (ByteArr 32) := do
  let vm ← self.get_verification_method_by_id method_id
  let (codec, public_key_bytes) ← public_key_multibase_decode lib vm.public_key_multibase
  reject_if (codec != expected) (.InvalidMulticodec expected codec)
  ok_or (.InvalidKeyLength 32 public_key_bytes.length) (ByteArr.try_from 32 public_key_bytes)

def verifying_key_for_method (self : Document) (method_id : String) : MaResult (ByteArr 32) := do
  let bytes ← self.key_bytes_for_method lib method_id CODEC_ED25519_PUB
  reject_if (!lib.ed25519_is_point bytes) .Crypto
  return bytes

def assertion_method_public_key (self : Document) : MaResult (ByteArr 32) := do
  let assertion_id ←
    ok_or (.UnknownVerificationMethod "assertionMethod") self.assertion_method.head?
  self.verifying_key_for_method lib assertion_id

def key_agreement_public_key_bytes (self : Document) : MaResult (ByteArr 32) := do
  let agreement_id ← ok_or (.UnknownVerificationMethod "keyAgreement") self.key_agreement.head?
  self.key_bytes_for_method lib agreement_id CODEC_X25519_PUB

def payload_document (self : Document) : Document := { self with proof := Proof.default }

def payload_bytes (self : Document) : MaResult Bytes := self.payload_document.encode lib

def payload_hash (self : Document) : MaResult (ByteArr 32) := do
  return lib.blake3_hash (← self.payload_bytes lib)

def sign (self : Document) (signing_key : SigningKey) (verification_method : VerificationMethod) :
    MaResult Document := do
  reject_if (signing_key.public_key_multibase != verification_method.public_key_multibase)
    .InvalidPublicKeyMultibase
  let signature := signing_key.sign lib (← self.payload_hash lib).val
  let proof_value := signature_multibase_encode lib CODEC_EDDSA_SIG signature
  return { self with proof := Proof.new proof_value verification_method.id }

def verify (self : Document) : MaResult Unit := do
  reject_if self.proof.is_empty .MissingProof
  reject_if (self.proof.proof_type != DEFAULT_PROOF_TYPE) (.InvalidProofType self.proof.proof_type)
  reject_if (self.proof.proof_purpose != DEFAULT_PROOF_PURPOSE)
    (.InvalidProofPurpose self.proof.proof_purpose)
  let (codec, sig_bytes) ← signature_multibase_decode lib self.proof.proof_value
  reject_if (codec != CODEC_EDDSA_SIG) .InvalidDocumentSignature
  let signature ← ok_or .InvalidDocumentSignature (ByteArr.try_from 64 sig_bytes)
  reject_if (!self.assertion_method.contains self.proof.verification_method)
    (.UnknownVerificationMethod self.proof.verification_method)
  let public_key ← self.verifying_key_for_method lib self.proof.verification_method
  let hash ← self.payload_hash lib
  reject_if (!lib.ed25519_verify public_key hash.val signature) .InvalidDocumentSignature

def validate_relationship (self : Document) (expected_codec : UInt64) (method_id : String) :
    MaResult Unit := do
  Did.validate_resource lib method_id
  let method ← self.get_verification_method_by_id method_id
  let (codec, _) ← public_key_multibase_decode lib method.public_key_multibase
  reject_if (codec != expected_codec) (.InvalidMulticodec expected_codec codec)

def validate_relationships (self : Document) (relationships : List String)
    (expected_codec : UInt64) : MaResult Unit :=
  forM relationships (self.validate_relationship lib expected_codec)

def validate (self : Document) : MaResult Unit := do
  reject_if (self.context != DEFAULT_DID_CONTEXT)
    (if self.context.isEmpty then .EmptyContext else .InvalidContext)
  validate_bare_did lib self.id
  reject_if self.controller.isEmpty .EmptyController
  forM self.controller (validate_bare_did lib)
  reject_if (!is_valid_rfc3339_utc lib self.created_at) (.InvalidCreatedAt self.created_at)
  reject_if (!is_valid_rfc3339_utc lib self.updated_at) (.InvalidUpdatedAt self.updated_at)
  forM self.verification_method (VerificationMethod.validate lib)
  reject_if self.assertion_method.isEmpty (.UnknownVerificationMethod "assertionMethod")
  reject_if self.key_agreement.isEmpty (.UnknownVerificationMethod "keyAgreement")
  self.validate_relationships lib self.assertion_method CODEC_ED25519_PUB
  self.validate_relationships lib self.key_agreement CODEC_X25519_PUB

end Document

/-- A document whose identifier is checked has a bare DID for one. -/
theorem validate_bare_did_eq_ok_iff {value : String} :
    validate_bare_did lib value = .ok () ↔ ∃ ipns, Did.parse lib value = .ok (ipns, none) := by
  unfold validate_bare_did
  rw [bind_eq_ok_iff]
  constructor
  · rintro ⟨⟨ipns, fragment⟩, hdid, hbare⟩
    rw [reject_if_eq_ok_iff] at hbare
    rw [Did.try_from_eq_ok_iff] at hdid
    cases fragment with
    | none => exact ⟨ipns, hdid⟩
    | some fragment => simp at hbare
  · rintro ⟨ipns, hparse⟩
    exact ⟨⟨ipns, none⟩, Did.try_from_eq_ok_iff.mpr hparse, reject_if_eq_ok_iff.mpr rfl⟩

end

end ma_core.doc
