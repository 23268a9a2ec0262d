import MaCore.Config.Secrets
import MaCore.Identity.Build

open rust
open ma_core.error ma_core.did ma_core.key ma_core.doc ma_core.identity ma_core.multiformat ma_core.ipfs

namespace ma_core.config

variable {lib : Lib} {bundle : SecretBundle} {document : Document} {identity : GeneratedIdentity}
  {now_iso_utc : String}

theorem assertion_vm_ok {assertion agreement : VerificationMethod}
    (hholds : document.Holds lib assertion agreement) : assertion_vm document = .ok assertion := by
  rw [assertion_vm, hholds.assertion_method]
  exact secrets_eq_ok_iff.mpr hholds.get_assertion

/-- A signing key and an encryption key are under different codecs. -/
theorem public_key_ne (hbase58 : lib.Base58RoundTrips) {sign_did enc_did : Did} (signing encryption : ByteArr 32) :
    (SigningKey.from_private_key_bytes lib sign_did signing).public_key_multibase ≠
      (EncryptionKey.from_private_key_bytes lib enc_did encryption).public_key_multibase :=
  public_key_multibase_encode_ne hbase58 (by decide)
    (List.ne_nil_of_length_eq_add_one (ByteArr.length_val _))
    (List.ne_nil_of_length_eq_add_one (ByteArr.length_val _))

/-- The keys of the bundle are those of the two methods. -/
structure SecretBundle.Matches (lib : Lib) (bundle : SecretBundle) (assertion agreement : VerificationMethod)
    (signing_key : SigningKey) (encryption_key : EncryptionKey) : Prop where
  signing : bundle.signing_key lib = .ok signing_key
  encryption : bundle.encryption_key lib = .ok encryption_key
  assertion_id : assertion.id = signing_key.did.id
  agreement_id : agreement.id = encryption_key.did.id
  assertion_key : assertion.public_key_multibase = signing_key.public_key_multibase
  agreement_key : agreement.public_key_multibase = encryption_key.public_key_multibase

theorem new_url_eq_ok {ipns fragment nanoid : String} {did : Did}
    (hurl : Did.new_url lib ipns (some fragment) nanoid = .ok did) : did = ⟨ipns, some fragment⟩ := by
  simp only [Did.new_url, bind_eq_ok_iff] at hurl
  obtain ⟨_, _, _, _, hdid⟩ := hurl
  exact (Except.ok.inj hdid).symm

theorem SecretBundle.signing_key_eq_ok_iff {signing_key : SigningKey} :
    bundle.signing_key lib = .ok signing_key ↔ ∃ ipns did, ipns_from_secret lib bundle.ipns_secret_key = .ok ipns ∧
      Did.new_url lib ipns (some "sign") "sign" = .ok did ∧
      signing_key = SigningKey.from_private_key_bytes lib did bundle.did_signing_key := by
  simp only [SecretBundle.signing_key, bind_eq_ok_iff, secrets_eq_ok_iff]
  constructor
  · rintro ⟨ipns, hipns, did, hdid, hkey⟩
    exact ⟨ipns, did, hipns, hdid, (Except.ok.inj hkey).symm⟩
  · rintro ⟨ipns, did, hipns, hdid, rfl⟩
    exact ⟨ipns, hipns, did, hdid, rfl⟩

theorem SecretBundle.encryption_key_eq_ok {encryption_key : EncryptionKey}
    (hkey : bundle.encryption_key lib = .ok encryption_key) :
    ∃ ipns, ipns_from_secret lib bundle.ipns_secret_key = .ok ipns ∧
      encryption_key = EncryptionKey.from_private_key_bytes lib ⟨ipns, some "enc"⟩ bundle.did_encryption_key := by
  simp only [SecretBundle.encryption_key, bind_eq_ok_iff, secrets_eq_ok_iff] at hkey
  obtain ⟨ipns, hipns, did, hdid, hkey⟩ := hkey
  rw [new_url_eq_ok hdid] at hkey
  exact ⟨ipns, hipns, (Except.ok.inj hkey).symm⟩

/-- The two methods hold the public keys of the bundle. -/
theorem SecretBundle.Matches.decodes (hbase58 : lib.Base58RoundTrips) {assertion agreement : VerificationMethod}
    {signing_key : SigningKey} {encryption_key : EncryptionKey}
    (hmatches : bundle.Matches lib assertion agreement signing_key encryption_key) :
    public_key_multibase_decode lib assertion.public_key_multibase =
        .ok (CODEC_ED25519_PUB, (lib.ed25519_public_key bundle.did_signing_key).val) ∧
      public_key_multibase_decode lib agreement.public_key_multibase =
        .ok (CODEC_X25519_PUB, (lib.x25519_public_key bundle.did_encryption_key).val) := by
  obtain ⟨_, _, _, _, rfl⟩ := SecretBundle.signing_key_eq_ok_iff.mp hmatches.signing
  obtain ⟨_, _, rfl⟩ := SecretBundle.encryption_key_eq_ok hmatches.encryption
  rw [hmatches.assertion_key, hmatches.agreement_key]
  exact ⟨public_key_multibase_decode_encode hbase58 _ (List.ne_nil_of_length_eq_add_one (ByteArr.length_val _)),
    public_key_multibase_decode_encode hbase58 _ (List.ne_nil_of_length_eq_add_one (ByteArr.length_val _))⟩

/-- A generated identity has the bundle's keys and its time of creation. -/
theorem SecretBundle.generate_identity_eq_ok (hbase58 : lib.Base58RoundTrips)
    (hgenerate : bundle.generate_identity lib now_iso_utc = .ok identity) :
    ∃ assertion agreement signing_key encryption_key, identity.document.Holds lib assertion agreement ∧
      bundle.Matches lib assertion agreement signing_key encryption_key ∧
      identity.document.created_at = bundle.created_at := by
  simp only [SecretBundle.generate_identity, bind_eq_ok_iff, secrets_eq_ok_iff] at hgenerate
  obtain ⟨ipns, hipns, sign_did, hsign_did, encryption_key, hencryption, built, hbuilt, vm, hvm, signed, hsigned,
    hidentity⟩ := hgenerate
  obtain ⟨_, hsame, rfl⟩ := SecretBundle.encryption_key_eq_ok hencryption
  rw [hipns] at hsame
  cases hsame
  obtain ⟨assertion, agreement, hholds, hassertion_id, hagreement_id, hassertion, hagreement⟩ :=
    build_identity_from_keys_eq_ok hbuilt (public_key_ne hbase58 _ _)
  obtain ⟨proof, rfl⟩ := Document.sign_eq_ok hsigned
  cases hidentity
  have hsigning := SecretBundle.signing_key_eq_ok_iff.mpr ⟨ipns, sign_did, hipns, hsign_did, rfl⟩
  refine ⟨assertion, agreement, _, _, hholds.update _ _ _ _, ⟨hsigning, hencryption, ?_, hagreement_id, hassertion,
    hagreement⟩, rfl⟩
  rw [hassertion_id, new_url_eq_ok hsign_did]
  rfl

/-- A built document is signed last, with the bundle's key, after all its fields are set. -/
theorem SecretBundle.build_document_eq_ok (hbase58 : lib.Base58RoundTrips) {generated_at touched_at : String}
    {ext : MaExtension} (hbuild : bundle.build_document lib generated_at touched_at ext = .ok document) :
    ∃ (unsigned : Document) (assertion agreement : VerificationMethod) (signing_key : SigningKey)
        (encryption_key : EncryptionKey),
      unsigned.sign lib signing_key assertion = .ok document ∧ unsigned.Holds lib assertion agreement ∧
      bundle.Matches lib assertion agreement signing_key encryption_key ∧
      unsigned.created_at = bundle.created_at ∧ unsigned.updated_at = touched_at ∧
      unsigned.ma = if ext.map.isEmpty then none else some (.Map ext.map) := by
  simp only [SecretBundle.build_document, bind_eq_ok_iff, secrets_eq_ok_iff] at hbuild
  obtain ⟨identity, hidentity, ipns, hipns, sign_did, hsign_did, vm, hvm, hsign⟩ := hbuild
  obtain ⟨assertion, agreement, signing_key, encryption_key, hholds, hmatches, hcreated⟩ :=
    SecretBundle.generate_identity_eq_ok hbase58 hidentity
  rw [assertion_vm_ok hholds] at hvm
  cases hvm
  have hsigning := SecretBundle.signing_key_eq_ok_iff.mpr ⟨ipns, sign_did, hipns, hsign_did, rfl⟩
  rw [hmatches.signing] at hsigning
  cases hsigning
  rw [Document.set_ma_extension_eq] at hsign
  exact ⟨_, vm, agreement, _, encryption_key, hsign, hholds.update _ _ _ _, hmatches, hcreated, rfl, rfl⟩

/-- A bundle generates its identity if the identifier of its secret is valid. -/
theorem SecretBundle.generate_identity_ok (hbase58 : lib.Base58RoundTrips) (hencodes : lib.DagCborEncodes)
    {ipns : String} (hipns : ipns_from_secret lib bundle.ipns_secret_key = .ok ipns)
    (hidentifier : validate_identifier lib ipns = .ok ()) (hhash : '#' ∉ ipns.toList)
    (hlength : (utf8 ipns).length < 2 ^ 32) (hcreated : (Ipld.String bundle.created_at).representable = true)
    (hnow : (Ipld.String now_iso_utc).representable = true) :
    ∃ identity, bundle.generate_identity lib now_iso_utc = .ok identity ∧ identity.document.Fits := by
  have hurl {fragment : String} (hfragment : validate_fragment fragment = .ok ()) :
      Did.new_url lib ipns (some fragment) fragment = .ok ⟨ipns, some fragment⟩ := by
    rw [Did.new_url, Option.getD_some, hidentifier, ok_bind, hfragment, ok_bind]
    rfl
  have hsign := hurl (show validate_fragment "sign" = .ok () by decide)
  have henc := hurl (show validate_fragment "enc" = .ok () by decide)
  have hencryption : bundle.encryption_key lib =
      .ok (EncryptionKey.from_private_key_bytes lib ⟨ipns, some "enc"⟩ bundle.did_encryption_key) := by
    simp only [SecretBundle.encryption_key, bind_eq_ok_iff, secrets_eq_ok_iff]
    exact ⟨ipns, hipns, _, henc, rfl⟩
  obtain ⟨built, hbuilt⟩ := build_identity_from_keys_ok hbase58 hencodes hidentifier hhash hlength hnow
    ⟨ipns, some "sign"⟩ ⟨ipns, some "enc"⟩ bundle.did_signing_key bundle.did_encryption_key
  obtain ⟨assertion, agreement, hholds, _, _, hassertion, _⟩ :=
    build_identity_from_keys_eq_ok hbuilt (public_key_ne hbase58 _ _)
  have hfits := build_identity_from_keys_fits hencodes hbuilt
  have hfits := hfits.update built.document.proof hcreated hfits.updated_at hfits.ma
  have hholds := hholds.update bundle.created_at built.document.updated_at built.document.proof built.document.ma
  obtain ⟨proof, hsigned⟩ := hfits.sign hencodes hassertion.symm
  refine ⟨{ built with document := _ }, ?_, hfits.update proof hcreated hfits.updated_at hfits.ma⟩
  simp only [SecretBundle.generate_identity, bind_eq_ok_iff, secrets_eq_ok_iff]
  exact ⟨ipns, hipns, _, hsign, _, hencryption, built, hbuilt, assertion, assertion_vm_ok hholds, _, hsigned, rfl⟩

/-- So does its document, if the extension can be encoded. -/
theorem SecretBundle.build_document_ok (hbase58 : lib.Base58RoundTrips) (hencodes : lib.DagCborEncodes)
    {ipns : String} (hipns : ipns_from_secret lib bundle.ipns_secret_key = .ok ipns)
    (hidentifier : validate_identifier lib ipns = .ok ()) (hhash : '#' ∉ ipns.toList)
    (hlength : (utf8 ipns).length < 2 ^ 32) (hcreated : (Ipld.String bundle.created_at).representable = true)
    {generated_at touched_at : String} (hgenerated : (Ipld.String generated_at).representable = true)
    (htouched : (Ipld.String touched_at).representable = true) {ext : MaExtension}
    (hext : (Ipld.Map ext.map).representable = true) :
    ∃ document, bundle.build_document lib generated_at touched_at ext = .ok document := by
  obtain ⟨identity, hidentity, hfits⟩ := SecretBundle.generate_identity_ok hbase58 hencodes hipns hidentifier hhash
    hlength hcreated hgenerated
  obtain ⟨assertion, agreement, signing_key, encryption_key, hholds, hmatches, _⟩ :=
    SecretBundle.generate_identity_eq_ok hbase58 hidentity
  obtain ⟨_, did, hsame, hdid, rfl⟩ := SecretBundle.signing_key_eq_ok_iff.mp hmatches.signing
  rw [hipns] at hsame
  cases hsame
  have hma : ∀ value, (if ext.map.isEmpty then none else some (Ipld.Map ext.map)) = some value →
      value.representable = true := by
    intro value hvalue
    split at hvalue
    · cases hvalue
    · cases hvalue
      exact hext
  have hfits := hfits.update identity.document.proof hfits.created_at htouched hma
  obtain ⟨proof, hsigned⟩ := hfits.sign hencodes hmatches.assertion_key.symm
  simp only [SecretBundle.build_document, Document.set_ma_extension_eq, bind_eq_ok_iff, secrets_eq_ok_iff]
  exact ⟨_, identity, hidentity, ipns, hipns, did, hdid, assertion, assertion_vm_ok hholds, hsigned⟩

/-- All of a built document but its time of creation is valid. -/
theorem SecretBundle.build_document_valid_iff {format : Int → Option String} (hbase58 : lib.Base58RoundTrips)
    (hformat : FormatsUtc lib format) {generated_at : String} {touched_at : UInt64} {ext : MaExtension}
    (hbuild : bundle.build_document lib generated_at (doc.now_iso_utc format touched_at) ext = .ok document) :
    document.validate lib = .ok () ↔ is_valid_rfc3339_utc lib bundle.created_at = true := by
  obtain ⟨unsigned, assertion, agreement, signing_key, encryption_key, hsign, hholds, hmatches, hcreated,
    hupdated, _⟩ := SecretBundle.build_document_eq_ok hbase58 hbuild
  obtain ⟨proof, rfl⟩ := Document.sign_eq_ok hsign
  obtain ⟨hassertion, hagreement⟩ := hmatches.decodes hbase58
  rw [Document.validate_eq_ok_iff, ← hcreated]
  constructor
  · intro hvalid
    exact hvalid.created_at
  · intro hvalid
    have hholds := hholds.update unsigned.created_at unsigned.updated_at proof unsigned.ma
    exact hholds.valid hvalid (hupdated ▸ now_iso_utc_valid hformat touched_at) hassertion hagreement

/-- The bundle of an agent. -/
def agent_bundle : SecretBundle where
  iroh_secret_key := reference.secret 1
  ipns_secret_key := reference.secret 2
  did_signing_key := reference.secret 3
  did_encryption_key := reference.secret 4
  created_at := "2026-08-08T12:34:56Z"
  extra_keys := []

def agent_extension : MaExtension := ⟨[("type", .String "agent")]⟩

theorem agent_created_at : is_valid_rfc3339_utc reference.dagLibrary agent_bundle.created_at = true := by
  decide +kernel

theorem agent_ipns : ipns_from_secret reference.dagLibrary (reference.secret 2) = .ok (reference.ipns 2) := by
  rw [reference.ipns_from_secret_dagLibrary]
  exact reference.ipns_from_secret_eq 2

theorem agent_identifier : validate_identifier reference.dagLibrary (reference.ipns 2) = .ok () := by
  rw [reference.validate_identifier_dagLibrary]
  exact reference.validate_identifier_ipns 2

theorem agent_ipns_length : (utf8 (reference.ipns 2)).length < 2 ^ 32 := by
  have hdid := reference.did_length 2
  rw [Did.base_id, utf8_append_length] at hdid
  exact Nat.lt_of_le_of_lt (Nat.le_trans (Nat.le_add_left _ _) hdid) (by decide)

theorem agent_now (seconds : UInt64) :
    (Ipld.String (doc.now_iso_utc formats_one_second seconds)).representable = true :=
  is_valid_rfc3339_utc_representable (now_iso_utc_valid formats_one_second_utc seconds)

/-- The agent's bundle builds a document whatever its time of creation is. -/
theorem agent_document {created_at : String} (hcreated : (Ipld.String created_at).representable = true)
    (touched_at : UInt64) : ∃ document, { agent_bundle with created_at }.build_document reference.dagLibrary
      (doc.now_iso_utc formats_one_second 1786192496) (doc.now_iso_utc formats_one_second touched_at)
      agent_extension = .ok document := by
  have hext : (Ipld.Map agent_extension.map).representable = true := by decide
  exact @SecretBundle.build_document_ok _ { agent_bundle with created_at } reference.base58RoundTrips
    reference.dagCborEncodes _ agent_ipns agent_identifier (reference.ipns_no_hash 2) agent_ipns_length hcreated
    _ _ (agent_now 1786192496) (agent_now touched_at) _ hext

end ma_core.config
