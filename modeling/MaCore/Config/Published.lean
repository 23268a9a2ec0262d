import MaCore.Config.Build
import MaCore.Ipfs.Requests

open rust
open ma_core.error ma_core.did ma_core.key ma_core.doc ma_core.msg ma_core.multiformat ma_core.identity ma_core.ipfs

namespace ma_core.doc

/-- Adding a method does not rename the document. -/
theorem Document.add_verification_method_id {lib : Lib} {document changed : Document} {method : VerificationMethod}
    (hadd : document.add_verification_method lib method = .ok changed) : changed.id = document.id := by
  obtain ⟨_, _, hchanged⟩ := bind_eq_ok_iff.mp hadd
  rw [← Except.ok.inj hchanged]
  split <;> rfl

/-- Keys are agreed on with the key of the method for it. -/
theorem Document.Holds.key_agreement_key {lib : Lib} {document : Document} {assertion agreement : VerificationMethod}
    {key : ByteArr 32} (hholds : document.Holds lib assertion agreement)
    (hdecode : public_key_multibase_decode lib agreement.public_key_multibase = .ok (CODEC_X25519_PUB, key.val)) :
    document.key_agreement_public_key_bytes lib = .ok key := by
  have hmethod : document.key_bytes_for_method lib agreement.id CODEC_X25519_PUB = .ok key := by
    rw [Document.key_bytes_for_method, hholds.get_agreement, ok_bind, hdecode, ok_bind]
    simp [reject_if, ok_or_eq_ok_iff]
  rw [Document.key_agreement_public_key_bytes, hholds.key_agreement, List.head?_cons, ok_or, ok_bind, hmethod]

end ma_core.doc

namespace ma_core.config

section
variable {lib : Lib} {bundle : SecretBundle} {document : Document} {identity : GeneratedIdentity}

/-- The document of an identity is under its identifier, -/
theorem build_identity_from_keys_id {now_iso_utc ipns : String} {signing_key : SigningKey}
    {encryption_key : EncryptionKey}
    (hbuild : build_identity_from_keys lib now_iso_utc ipns signing_key encryption_key = .ok identity) :
    identity.document.id = Did.base_id ⟨ipns, none⟩ := by
  simp only [build_identity_from_keys, bind_eq_ok_iff, validated_eq_ok_iff] at hbuild
  obtain ⟨subject_url, hsubject, _, _, _, _, first, hfirst, second, hsecond, signed, hsigned, hidentity⟩ := hbuild
  obtain rfl := (Did.new_identity_eq_ok_iff.mp hsubject).2
  have hid := (Document.add_verification_method_id hsecond).trans (Document.add_verification_method_id hfirst)
  obtain ⟨proof, rfl⟩ := Document.sign_eq_ok hsigned
  cases hidentity
  exact hid

/-- and so is what is built of a bundle. -/
theorem SecretBundle.build_document_id {generated_at touched_at ipns : String} {ext : MaExtension}
    (hbuild : bundle.build_document lib generated_at touched_at ext = .ok document)
    (hipns : ipns_from_secret lib bundle.ipns_secret_key = .ok ipns) :
    document.id = Did.base_id ⟨ipns, none⟩ := by
  simp only [SecretBundle.build_document, SecretBundle.generate_identity, bind_eq_ok_iff, secrets_eq_ok_iff] at hbuild
  obtain ⟨identity, ⟨ipns', hipns', _, _, _, _, built, hbuilt, _, _, resigned, hresigned, hidentity⟩, _, _, _, _,
    _, _, hsigned⟩ := hbuild
  cases hipns.symm.trans hipns'
  have hid := build_identity_from_keys_id hbuilt
  obtain ⟨_, rfl⟩ := Document.sign_eq_ok hresigned
  cases hidentity
  obtain ⟨_, rfl⟩ := Document.sign_eq_ok hsigned
  rw [Document.set_ma_extension_eq]
  exact hid

/-- The encryption key of a bundle is under the identifier of its document. -/
theorem SecretBundle.encryption_key_names {generated_at touched_at : String} {ext : MaExtension}
    {encryption_key : EncryptionKey}
    (hbuild : bundle.build_document lib generated_at touched_at ext = .ok document)
    (hkey : bundle.encryption_key lib = .ok encryption_key) (hvalid : document.Valid lib) :
    ∃ did, Did.try_from lib encryption_key.did.id = .ok did ∧ document.id = did.base_id := by
  simp only [SecretBundle.encryption_key, bind_eq_ok_iff, secrets_eq_ok_iff] at hkey
  obtain ⟨ipns, hipns, did, hdid, hkey⟩ := hkey
  cases hkey
  obtain ⟨hwellformed, rfl⟩ := Did.new_url_eq_ok_iff.mp hdid
  have hid := SecretBundle.build_document_id hbuild hipns
  obtain ⟨_, hbare⟩ := (validate_bare_did_eq_ok_iff lib).mp hvalid.id
  rw [hid] at hbare
  have hhash : '#' ∉ ipns.toList := Did.parse_bare_no_hash hbare
  refine ⟨⟨ipns, some "enc"⟩, Did.try_from_eq_ok_iff.mpr ?_, hid⟩
  exact Did.parse_url hwellformed.identifier hhash (show validate_fragment "enc" = .ok () by decide)

/-- What is built of a bundle, with the keys of the bundle. -/
structure Published (lib : Lib) (bundle : SecretBundle) (ext : MaExtension) (signing_key : SigningKey)
    (encryption_key : EncryptionKey) (document : Document) (bytes : Bytes) : Prop where
  parses : parse_document_bytes lib bytes = .ok document
  extension : document.ma = if ext.map.isEmpty then none else some (.Map ext.map)
  signs : Signs lib document signing_key
  agreement : document.key_agreement_public_key_bytes lib = .ok (lib.x25519_public_key encryption_key.private_key)
  names : ∃ did, Did.try_from lib encryption_key.did.id = .ok did ∧ document.id = did.base_id

theorem Published.valid {ext : MaExtension} {signing_key : SigningKey} {encryption_key : EncryptionKey}
    {bytes : Bytes}
    (hpublished : Published lib bundle ext signing_key encryption_key document bytes) : document.Valid lib :=
  Document.validate_eq_ok_iff.mp (parse_document_bytes_eq_ok_iff.mp hpublished.parses).2.1

/-- A document that is built of a bundle and encoded can be used with the keys of the bundle. -/
theorem SecretBundle.build_document_published {format : Int → Option String} (hed25519 : lib.Ed25519Signs)
    (hbase58 : lib.Base58RoundTrips) (hdagcbor : lib.DagCborRoundTrips) (hformat : FormatsUtc lib format)
    (hcreated : is_valid_rfc3339_utc lib bundle.created_at = true) {generated_at touched_at : UInt64}
    {ext : MaExtension} {signing_key : SigningKey} {encryption_key : EncryptionKey} {bytes : Bytes}
    (hbuild : bundle.build_document lib (doc.now_iso_utc format generated_at) (doc.now_iso_utc format touched_at)
      ext = .ok document)
    (hsigning : bundle.signing_key lib = .ok signing_key)
    (hencryption : bundle.encryption_key lib = .ok encryption_key) (hbytes : document.encode lib = .ok bytes) :
    Published lib bundle ext signing_key encryption_key document bytes := by
  have hvalid := (SecretBundle.build_document_valid_iff hbase58 hformat hbuild).mpr hcreated
  have hnames := SecretBundle.encryption_key_names hbuild hencryption (Document.validate_eq_ok_iff.mp hvalid)
  obtain ⟨unsigned, assertion, agreement, signing, encryption, hsign, hholds, hmatches, _, _, hunsigned_ma⟩ :=
    SecretBundle.build_document_eq_ok hbase58 hbuild
  cases hsigning.symm.trans hmatches.signing
  cases hencryption.symm.trans hmatches.encryption
  obtain ⟨_, hagreement⟩ := hmatches.decodes hbase58
  have hconsistent : signing_key.Consistent lib := by
    obtain ⟨_, _, _, _, rfl⟩ := SecretBundle.signing_key_eq_ok_iff.mp hsigning
    exact SigningKey.consistent_from_private_key_bytes ..
  have hprivate : encryption_key.private_key = bundle.did_encryption_key := by
    obtain ⟨_, _, rfl⟩ := SecretBundle.encryption_key_eq_ok hencryption
    rfl
  have hassertion_mem : assertion.id ∈ unsigned.assertion_method := by simp [hholds.assertion_method]
  have hverify := Document.verify_of_sign hed25519 hbase58 hconsistent hassertion_mem hholds.get_assertion hsign
  obtain ⟨proof, rfl⟩ := Document.sign_eq_ok hsign
  have hholds := hholds.update unsigned.created_at unsigned.updated_at proof unsigned.ma
  have hdecode : Document.decode lib bytes = .ok { unsigned with proof } := by
    refine Document.decode_of_from_slice (hdagcbor _ _ (of_library_eq_ok_iff.mp hbytes)) ?_
    rw [hunsigned_ma]
    split <;> simp
  refine ⟨parse_document_bytes_eq_ok_iff.mpr ⟨hdecode, hvalid, hverify⟩, hunsigned_ma, ⟨?_, hconsistent⟩, ?_, hnames⟩
  · refine ⟨assertion, ?_, hholds.get_assertion, hmatches.assertion_key.symm⟩
    rw [hholds.assertion_method, List.head?_cons]
  · rw [hprivate]
    exact hholds.key_agreement_key hagreement

end

end ma_core.config
