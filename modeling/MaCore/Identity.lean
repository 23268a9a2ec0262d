import MaCore.Doc

open rust
open ma_core.error ma_core.did ma_core.key ma_core.doc

namespace ma_core.identity

/-- The Ed25519 secret and the identity derived from it. -/
structure GeneratedIdentity where
  subject_url : Did
  document : Document
  signing_private_key : ByteArr 32
  encryption_private_key : ByteArr 32

section
variable (lib : Lib)

/-- `build_identity_from_keys` at the time `now_iso_utc` returns. -/
def build_identity_from_keys (now_iso_utc ipns : String) (signing_key : SigningKey)
    (encryption_key : EncryptionKey) : ServiceResult GeneratedIdentity := do
  let subject_url ← validated (Did.new_identity lib ipns)
  let document := Document.new subject_url subject_url now_iso_utc
  let assertion_vm ← validated (VerificationMethod.new lib subject_url.base_id subject_url.base_id
    signing_key.key_type "sign" signing_key.public_key_multibase)
  let key_agreement_vm ← validated (VerificationMethod.new lib subject_url.base_id
    subject_url.base_id encryption_key.key_type "enc" encryption_key.public_key_multibase)
  let document ← validated (document.add_verification_method lib assertion_vm)
  let document ← validated (document.add_verification_method lib key_agreement_vm)
  let document := { document with
    assertion_method := [assertion_vm.id]
    key_agreement := [key_agreement_vm.id] }
  let document ← validated (document.sign lib signing_key assertion_vm)
  return {
    subject_url
    document
    signing_private_key := signing_key.secret_key
    encryption_private_key := encryption_key.private_key }

/-- The IPNS identifier of an Ed25519 secret: the CID of its public key. -/
def ipns_from_secret (secret : ByteArr 32) : ServiceResult String := do
  let keypair ← of_library (fun _ => .Validation .InvalidIdentitySecret)
    (lib.keypair_ed25519_from_bytes secret)
  let peer_id := lib.peer_id_from_public_key keypair.public_key
  let cid : Cid := { version := .V1, codec := 0x72, hash := peer_id }
  return lib.multibase_encode_base36_lower (lib.cid_to_bytes cid)

end

end ma_core.identity
