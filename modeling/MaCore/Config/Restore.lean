import MaCore.Config.Build
import MaCore.Reference.Storage

open rust
open ma_core.doc

namespace ma_core.config

section
variable {storage : StorageLib} {bundle : SecretBundle} {data : Bytes} {passphrase : String} {wire : BundleJson}

/-- The passphrase opens the blob, and what it seals is read as `wire`. -/
def BundleJson.StoredIn (storage : StorageLib) (data : Bytes) (passphrase : String) (wire : BundleJson) : Prop :=
  ∃ nonce key plaintext value,
    ByteArr.try_from 12 ((data.drop 16).take 12) = some nonce ∧
    storage.argon2_hash_password_into (utf8 passphrase) (data.take 16) = .ok key ∧
    storage.chacha20poly1305_decrypt key nonce (data.drop 28) = some plaintext ∧
    storage.serde_json_from_slice plaintext = .ok value ∧
    BundleJson.deserialize value = .ok wire

theorem SecretBundle.decrypt_eq_ok (hdecrypt : decrypt storage data passphrase = .ok bundle) :
    ∃ wire : BundleJson, wire.StoredIn storage data passphrase ∧ wire.restore storage = .ok bundle := by
  simp only [decrypt, bind_eq_ok_iff, exists_unit, reject_if_eq_ok_iff, ok_or_eq_ok_iff, of_library_eq_ok_iff]
    at hdecrypt
  obtain ⟨_, nonce, hnonce, key, hkey, plaintext, hopen, hread⟩ := hdecrypt
  simp only [from_json_bytes, bind_eq_ok_iff, of_library_eq_ok_iff] at hread
  obtain ⟨wire, hwire, hrestore⟩ := hread
  obtain ⟨value, hvalue, hdeserialize⟩ := serde.bind_eq_ok_iff.mp hwire
  exact ⟨wire, ⟨nonce, key, plaintext, value, hnonce, hkey, hopen, hvalue, hdeserialize⟩, hrestore⟩

/-- The loader checks the keys, and takes the time of creation as it is. -/
theorem BundleJson.restore_created_at (hrestore : wire.restore storage = .ok bundle) :
    bundle.created_at = wire.created_at := by
  simp only [restore, bind_eq_ok_iff] at hrestore
  obtain ⟨_, _, _, _, _, _, _, _, _, _, hbundle⟩ := hrestore
  cases hbundle
  rfl

/-- The documents of a restored bundle are valid exactly if its blob keeps a valid time of creation. -/
theorem SecretBundle.restored_document_valid_iff {lib : Lib} {format : Int → Option String}
    (hbase58 : lib.Base58RoundTrips) (hformat : FormatsUtc lib format)
    (hdecrypt : decrypt storage data passphrase = .ok bundle) {generated_at touched_at : UInt64}
    {ext : MaExtension} {document : Document}
    (hbuild : bundle.build_document lib (doc.now_iso_utc format generated_at) (doc.now_iso_utc format touched_at)
      ext = .ok document) :
    ∃ wire : BundleJson, wire.StoredIn storage data passphrase ∧ bundle.created_at = wire.created_at ∧
      (document.validate lib = .ok () ↔ is_valid_rfc3339_utc lib wire.created_at = true) := by
  obtain ⟨wire, hstored, hrestore⟩ := decrypt_eq_ok hdecrypt
  have hcreated := BundleJson.restore_created_at hrestore
  have hvalid := SecretBundle.build_document_valid_iff hbase58 hformat hbuild
  rw [hcreated] at hvalid
  exact ⟨wire, hstored, hcreated, hvalid⟩

end

theorem SecretBundle.restored_document_valid_iff_agent :
    ∃ (data : Bytes) (document : Document) (wire : BundleJson),
      SecretBundle.decrypt reference.storage data "correct horse" = .ok agent_bundle ∧
      agent_bundle.build_document reference.dagLibrary (doc.now_iso_utc formats_one_second 1786192496)
        (doc.now_iso_utc formats_one_second 1786192496) agent_extension = .ok document ∧
      wire.StoredIn reference.storage data "correct horse" ∧ wire.created_at = "2026-08-08T12:34:56Z" ∧
      document.validate reference.dagLibrary = .ok () := by
  obtain ⟨data, _, hdecrypt⟩ := @reference.restores agent_bundle rfl
  obtain ⟨document, hbuild⟩ := agent_document (is_valid_rfc3339_utc_representable agent_created_at) 1786192496
  obtain ⟨wire, hstored, hcreated, hvalid⟩ := SecretBundle.restored_document_valid_iff
    reference.base58RoundTrips formats_one_second_utc hdecrypt hbuild
  exact ⟨data, document, wire, hdecrypt, hbuild, hstored, hcreated.symm,
    hvalid.mpr (hcreated ▸ agent_created_at)⟩

/-- A time with a fraction of a second is one in RFC 3339, and is restored, but not valid in a document. -/
theorem SecretBundle.fractional_creation_restored :
    ∃ (bundle : SecretBundle) (data : Bytes) (document : Document),
      bundle.created_at = "2026-08-08T12:34:56.789Z" ∧
      bundle.encrypt reference.storage reference.salt reference.short_nonce "correct horse" = .ok data ∧
      SecretBundle.decrypt reference.storage data "correct horse" = .ok bundle ∧
      bundle.build_document reference.dagLibrary (doc.now_iso_utc formats_one_second 1786192496)
        (doc.now_iso_utc formats_one_second 1786192496) agent_extension = .ok document ∧
      document.validate reference.dagLibrary ≠ .ok () := by
  obtain ⟨data, hencrypt, hdecrypt⟩ :=
    @reference.restores { agent_bundle with created_at := "2026-08-08T12:34:56.789Z" } rfl
  obtain ⟨document, hbuild⟩ := @agent_document "2026-08-08T12:34:56.789Z" (by decide +kernel) 1786192496
  refine ⟨_, data, document, rfl, hencrypt, hdecrypt, hbuild, ?_⟩
  intro hvalidate
  have hcreated := (SecretBundle.build_document_valid_iff reference.base58RoundTrips formats_one_second_utc
    hbuild).mp hvalidate
  have hrejected : is_valid_rfc3339_utc reference.dagLibrary "2026-08-08T12:34:56.789Z" = false := by
    decide +kernel
  rw [hrejected] at hcreated
  cases hcreated

end ma_core.config
