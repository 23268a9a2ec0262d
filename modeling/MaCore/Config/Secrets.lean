import MaCore.Doc.Mutation
import MaCore.Identity

open rust
open ma_core.error ma_core.did ma_core.key ma_core.doc ma_core.identity

namespace ma_core.config

/-- The keys of an identity, and when they were generated. -/
structure SecretBundle where
  iroh_secret_key : ByteArr 32
  ipns_secret_key : ByteArr 32
  did_signing_key : ByteArr 32
  did_encryption_key : ByteArr 32
  created_at : String
  extra_keys : List (String × ByteArr 32)

/-- `map_err(|e| Error::Secrets(format!("…{e}")))`, where the error is its text. -/
def secrets {ε α : Type} (text : String) (display : ε → String) (x : Result ε α) : Result String α :=
  map_err (fun e => text ++ display e) x

theorem secrets_eq_ok_iff {ε α : Type} {text : String} {display : ε → String} {x : Result ε α} {a : α} :
    secrets text display x = .ok a ↔ x = .ok a :=
  map_err_eq_ok_iff

/-- The method `assertion_method[0]` names; the index panics on an empty list. -/
def assertion_vm (document : Document) : Result String VerificationMethod :=
  match document.assertion_method with
  | [] => Panic
  | id :: _ => secrets "assertion vm: " MaError.display (document.get_verification_method_by_id id)

section
variable (lib : Lib)

namespace SecretBundle

def encryption_key (self : SecretBundle) : Result String EncryptionKey := do
  let ipns ← secrets "ipns derivation failed: " Error.display (ipns_from_secret lib self.ipns_secret_key)
  let did ← secrets "enc did: " MaError.display (Did.new_url lib ipns (some "enc") "enc")
  return EncryptionKey.from_private_key_bytes lib did self.did_encryption_key

/-- `generate_identity` at the time `now_iso_utc` returns. -/
def generate_identity (self : SecretBundle) (now_iso_utc : String) : Result String GeneratedIdentity := do
  let ipns ← secrets "ipns derivation failed: " Error.display (ipns_from_secret lib self.ipns_secret_key)
  let sign_did ← secrets "sign did: " MaError.display (Did.new_url lib ipns (some "sign") "sign")
  let signing_key := SigningKey.from_private_key_bytes lib sign_did self.did_signing_key
  let encryption_key ← self.encryption_key lib
  let identity ← secrets "identity generation failed: " Error.display
    (build_identity_from_keys lib now_iso_utc ipns signing_key encryption_key)
  let document := { identity.document with created_at := self.created_at }
  let vm ← assertion_vm document
  let document ← secrets "re-sign after created_at restore: " MaError.display
    (document.sign lib signing_key vm)
  return { identity with document }

/-- `build_document`, where `now_iso_utc` first returns `generated_at` and then `touched_at`. -/
def build_document (self : SecretBundle) (generated_at touched_at : String) (ext : MaExtension) :
    Result String Document := do
  let identity ← self.generate_identity lib generated_at
  let ipns ← secrets "ipns derivation: " Error.display (ipns_from_secret lib self.ipns_secret_key)
  let sign_did ← secrets "sign did: " MaError.display (Did.new_url lib ipns (some "sign") "sign")
  let signing_key := SigningKey.from_private_key_bytes lib sign_did self.did_signing_key
  let vm ← assertion_vm identity.document
  let document := (identity.document.set_ma_extension ext).touch touched_at
  secrets "sign: " MaError.display (document.sign lib signing_key vm)

def signing_key (self : SecretBundle) : Result String SigningKey := do
  let ipns ← secrets "ipns derivation: " Error.display (ipns_from_secret lib self.ipns_secret_key)
  let sign_did ← secrets "sign did: " MaError.display (Did.new_url lib ipns (some "sign") "sign")
  return SigningKey.from_private_key_bytes lib sign_did self.did_signing_key

end SecretBundle

end

end ma_core.config
