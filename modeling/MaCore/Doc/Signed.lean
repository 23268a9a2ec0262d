import MaCore.Doc.Declared
import MaCore.Key
import MaCore.Laws

open rust
open ma_core.error ma_core.key ma_core.multiformat

namespace ma_core

theorem entriesRepresentable_iff {entries : List (String × Ipld)} :
    entriesRepresentable entries = true ↔
      ∀ entry ∈ entries, (utf8 entry.1).length < 2 ^ 64 ∧ entry.2.representable = true := by
  induction entries with
  | nil => simp [entriesRepresentable]
  | cons entry entries ih =>
    obtain ⟨key, item⟩ := entry
    rw [entriesRepresentable, Bool.and_eq_true, Bool.and_eq_true, decide_eq_true_eq, ih, List.forall_mem_cons]

theorem itemsRepresentable_iff {items : List Ipld} :
    itemsRepresentable items = true ↔ ∀ item ∈ items, item.representable = true := by
  induction items with
  | nil => simp [itemsRepresentable]
  | cons item items ih => rw [itemsRepresentable, Bool.and_eq_true, ih, List.forall_mem_cons]

theorem representable_map_iff {entries : List (String × Ipld)} :
    (Ipld.Map entries).representable = true ↔ entries.length < 2 ^ 64 ∧
      ∀ entry ∈ entries, (utf8 entry.1).length < 2 ^ 64 ∧ entry.2.representable = true := by
  rw [Ipld.representable, Bool.and_eq_true, decide_eq_true_eq, entriesRepresentable_iff]

end ma_core

namespace ma_core.multiformat

variable {lib : Lib}

/-- What is encoded under a codec is read back with it. -/
theorem public_key_multibase_decode_encode (hbase58 : lib.Base58RoundTrips) (codec : UInt64) {payload : Bytes}
    (hpayload : payload ≠ []) :
    public_key_multibase_decode lib (public_key_multibase_encode lib codec payload) = .ok (codec, payload) := by
  rw [public_key_multibase_decode, multibase_decode, public_key_multibase_encode, multibase_encode,
    hbase58.decodes, ok_or, ok_bind, multicodec_decode_encode codec hpayload]

theorem public_key_multibase_encode_ne (hbase58 : lib.Base58RoundTrips) {codec other : UInt64}
    (hcodec : codec ≠ other)
    {payload others : Bytes} (hpayload : payload ≠ []) (hothers : others ≠ []) :
    public_key_multibase_encode lib codec payload ≠ public_key_multibase_encode lib other others := by
  intro heq
  have hdecode := public_key_multibase_decode_encode hbase58 codec hpayload
  rw [heq, public_key_multibase_decode_encode hbase58 other hothers] at hdecode
  cases hdecode
  exact hcodec rfl

end ma_core.multiformat

namespace ma_core.doc

variable {lib : Lib} {document signed : Document} {signing_key : SigningKey} {method : VerificationMethod}

/-- A document is signed with the key of the method, over all of it but its proof. -/
theorem Document.sign_eq_ok_iff :
    document.sign lib signing_key method = .ok signed ↔
      signing_key.public_key_multibase = method.public_key_multibase ∧
      ∃ hash, document.payload_hash lib = .ok hash ∧
        signed = { document with
          proof := Proof.new (signature_multibase_encode lib CODEC_EDDSA_SIG (signing_key.sign lib hash.val))
            method.id } := by
  simp only [Document.sign, bind_eq_ok_iff, exists_unit, reject_if_eq_ok_iff, bne_eq_false_iff_eq]
  constructor
  · rintro ⟨hkey, hash, hhash, hsigned⟩
    exact ⟨hkey, hash, hhash, (Except.ok.inj hsigned).symm⟩
  · rintro ⟨hkey, hash, hhash, rfl⟩
    exact ⟨hkey, hash, hhash, rfl⟩

/-- The proof verifies under the key of the method, where the document asserts that method. -/
theorem Document.verify_of_sign (hed25519 : lib.Ed25519Signs) (hbase58 : lib.Base58RoundTrips)
    (hkey : signing_key.public_key_multibase =
      public_key_multibase_encode lib CODEC_ED25519_PUB (lib.ed25519_public_key signing_key.secret_key).val)
    (hassertion : method.id ∈ document.assertion_method)
    (hmethod : document.get_verification_method_by_id method.id = .ok method)
    (hsign : document.sign lib signing_key method = .ok signed) : signed.verify lib = .ok () := by
  obtain ⟨hsame, hash, hhash, rfl⟩ := Document.sign_eq_ok_iff.mp hsign
  have hpublic_ne : (lib.ed25519_public_key signing_key.secret_key).val ≠ [] :=
    List.ne_nil_of_length_eq_add_one (ByteArr.length_val _)
  have hsignature_ne : (lib.ed25519_sign signing_key.secret_key hash.val).val ≠ [] :=
    List.ne_nil_of_length_eq_add_one (ByteArr.length_val _)
  have hpublic := public_key_multibase_decode_encode hbase58 CODEC_ED25519_PUB hpublic_ne
  rw [← hkey, hsame] at hpublic
  have hverifying : document.verifying_key_for_method lib method.id =
      .ok (lib.ed25519_public_key signing_key.secret_key) := by
    simp only [verifying_key_for_method, key_bytes_for_method, hmethod, hpublic, ok_bind, bne_self_eq_false,
      reject_if, Bool.false_eq_true, if_false, ByteArr.try_from_val, ok_or, hed25519.is_point, Bool.not_true]
    rfl
  unfold Document.verify
  simp only [bind_eq_ok_iff, exists_unit, reject_if_eq_ok_iff, ok_or_eq_ok_iff, bne_eq_false_iff_eq,
    Bool.not_eq_false']
  exact ⟨hbase58.nonempty _, rfl, rfl, _, public_key_multibase_decode_encode hbase58 CODEC_EDDSA_SIG hsignature_ne,
    rfl, _, ByteArr.try_from_val _, List.contains_iff_mem.mpr hassertion, _, hverifying, hash, hhash,
    hed25519.verifies _ _⟩

/-- What can be encoded without its proof can be encoded with one. -/
theorem Document.representable_with_proof {proof : Proof}
    (hpayload : document.payload_document.serialize.representable = true)
    (hproof : proof.serialize.representable = true) :
    ({ document with proof } : Document).serialize.representable = true := by
  obtain ⟨hlength, hentries⟩ := representable_map_iff.mp hpayload
  refine representable_map_iff.mpr ⟨?_, fun entry hentry => ?_⟩
  · simpa [Document.payload_document] using hlength
  · obtain rfl | ⟨payload, hserialize, hmem⟩ := Document.mem_payload_document rfl hentry
    · have hkey : (utf8 "proof").length < 2 ^ 64 := by decide
      exact ⟨hkey, hproof⟩
    · cases hserialize
      exact hentries entry hmem

/-- The identifiers of the assertion methods of a document that can be encoded are short enough. -/
theorem Document.assertion_method_length (hdocument : document.serialize.representable = true) {id : String}
    (hid : id ∈ document.assertion_method) : (utf8 id).length < 2 ^ 64 := by
  obtain ⟨_, hentries⟩ := representable_map_iff.mp hdocument
  have hlist : (strings document.assertion_method).representable = true :=
    (hentries ("assertionMethod", strings document.assertion_method) (by simp)).2
  rw [strings, Ipld.representable, Bool.and_eq_true, itemsRepresentable_iff] at hlist
  have hstring := hlist.2 (.String id) (List.mem_map_of_mem hid)
  rwa [Ipld.representable, decide_eq_true_eq] at hstring

/-- A struct of texts. -/
theorem texts_representable {fields : List (String × String)} (hlength : fields.length < 2 ^ 64)
    (htexts : ∀ field ∈ fields, (utf8 field.1).length < 2 ^ 64 ∧ (utf8 field.2).length < 2 ^ 64) :
    (Ipld.Map (fields.map fun field => (field.1, .String field.2))).representable = true := by
  refine representable_map_iff.mpr ⟨by rwa [List.length_map], fun entry hentry => ?_⟩
  obtain ⟨field, hfield, rfl⟩ := List.mem_map.mp hentry
  rw [Ipld.representable, decide_eq_true_eq]
  exact htexts field hfield

theorem Proof.representable {proof_value verification_method : String} (hvalue : (utf8 proof_value).length < 2 ^ 64)
    (hmethod : (utf8 verification_method).length < 2 ^ 64) :
    (Proof.new proof_value verification_method).serialize.representable = true := by
  have hfixed : ∀ text ∈ ["proofPurpose", "proofValue", "type", "verificationMethod", DEFAULT_PROOF_PURPOSE,
      DEFAULT_PROOF_TYPE], (utf8 text).length < 2 ^ 64 := by decide
  refine @texts_representable [("proofPurpose", DEFAULT_PROOF_PURPOSE), ("proofValue", proof_value),
    ("type", DEFAULT_PROOF_TYPE), ("verificationMethod", verification_method)] ?_ ?_
  · simp
  · simp only [List.forall_mem_cons] at hfixed ⊢
    obtain ⟨hpurpose_key, hvalue_key, htype_key, hmethod_key, hpurpose, htype, _⟩ := hfixed
    exact ⟨⟨hpurpose_key, hpurpose⟩, ⟨hvalue_key, hvalue⟩, ⟨htype_key, htype⟩, ⟨hmethod_key, hmethod⟩,
      List.forall_mem_nil _⟩

/-- A document that was signed can be encoded. -/
theorem Document.encode_of_sign (hencodes : lib.DagCborEncodes) (hbase58 : lib.Base58RoundTrips)
    (hassertion : method.id ∈ document.assertion_method)
    (hsign : document.sign lib signing_key method = .ok signed) : ∃ bytes, signed.encode lib = .ok bytes := by
  obtain ⟨_, hash, hhash, rfl⟩ := Document.sign_eq_ok_iff.mp hsign
  obtain ⟨payload, hpayload, _⟩ := bind_eq_ok_iff.mp hhash
  have hrepresentable : document.payload_document.serialize.representable = true :=
    (hencodes _).mp ⟨payload, of_library_eq_ok_iff.mp hpayload⟩
  have hmethod : (utf8 method.id).length < 2 ^ 64 := Document.assertion_method_length hrepresentable hassertion
  have hvalue : (utf8 (signature_multibase_encode lib CODEC_EDDSA_SIG (signing_key.sign lib hash.val))).length <
      2 ^ 64 := by
    have htext := hbase58.length_le (multicodec_encode CODEC_EDDSA_SIG (signing_key.sign lib hash.val))
    have hcodec : (unsigned_varint.encode_u64 CODEC_EDDSA_SIG).length = 3 := by decide
    have hsignature : (signing_key.sign lib hash.val).length = 64 := ByteArr.length_val _
    rw [multicodec_encode, List.length_append] at htext
    rw [signature_multibase_encode, multibase_encode, multicodec_encode]
    omega
  obtain ⟨bytes, hbytes⟩ := (hencodes _).mpr
    (Document.representable_with_proof hrepresentable (Proof.representable hvalue hmethod))
  exact ⟨bytes, of_library_eq_ok_iff.mpr hbytes⟩

theorem strings_representable {items : List String} (hlength : items.length < 2 ^ 64)
    (hitems : ∀ item ∈ items, (utf8 item).length < 2 ^ 64) : (strings items).representable = true := by
  rw [strings, Ipld.representable, Bool.and_eq_true, decide_eq_true_eq, List.length_map, itemsRepresentable_iff]
  refine ⟨hlength, fun item hmem => ?_⟩
  obtain ⟨text, htext, rfl⟩ := List.mem_map.mp hmem
  rw [Ipld.representable, decide_eq_true_eq]
  exact hitems text htext

theorem VerificationMethod.representable (hcontroller : (utf8 method.controller).length < 2 ^ 64)
    (hid : (utf8 method.id).length < 2 ^ 64) (hkey : (utf8 method.public_key_multibase).length < 2 ^ 64)
    (htype : (utf8 method.key_type).length < 2 ^ 64) : method.serialize.representable = true := by
  have hfixed : ∀ text ∈ ["controller", "id", "publicKeyMultibase", "type"], (utf8 text).length < 2 ^ 64 := by decide
  refine @texts_representable [("controller", method.controller), ("id", method.id),
    ("publicKeyMultibase", method.public_key_multibase), ("type", method.key_type)] ?_ ?_
  · simp
  · simp only [List.forall_mem_cons] at hfixed ⊢
    obtain ⟨hcontroller_key, hid_key, hkey_key, htype_key, _⟩ := hfixed
    exact ⟨⟨hcontroller_key, hcontroller⟩, ⟨hid_key, hid⟩, ⟨hkey_key, hkey⟩, ⟨htype_key, htype⟩,
      List.forall_mem_nil _⟩

/-- Every field of the document but its proof can be encoded. -/
structure Document.Fits (document : Document) : Prop where
  context : (strings document.context).representable = true
  assertion_method : (strings document.assertion_method).representable = true
  controller : (strings document.controller).representable = true
  created_at : (Ipld.String document.created_at).representable = true
  id : (Ipld.String document.id).representable = true
  key_agreement : (strings document.key_agreement).representable = true
  ma : ∀ value, document.ma = some value → value.representable = true
  updated_at : (Ipld.String document.updated_at).representable = true
  verification_method : (Ipld.List (document.verification_method.map (·.serialize))).representable = true

theorem Document.Fits.representable (hfits : document.Fits) :
    document.payload_document.serialize.representable = true := by
  have hkeys : ∀ key ∈ Document.keys, (utf8 key).length < 2 ^ 64 := by decide
  have hproof : Proof.default.serialize.representable = true := by decide
  refine representable_map_iff.mpr ⟨?_, fun entry hentry => ?_⟩
  · cases hma : document.ma <;> simp [Document.payload_document, hma]
  · simp only [List.mem_append, List.mem_cons, List.not_mem_nil, or_false, Option.mem_toList,
      Option.map_eq_some_iff] at hentry
    rcases hentry with ((rfl | rfl | rfl | rfl | rfl | rfl) | ⟨ma, hsome, rfl⟩) | rfl | rfl | rfl
    · exact ⟨hkeys "@context" (by decide), hfits.context⟩
    · exact ⟨hkeys "assertionMethod" (by decide), hfits.assertion_method⟩
    · exact ⟨hkeys "controller" (by decide), hfits.controller⟩
    · exact ⟨hkeys "createdAt" (by decide), hfits.created_at⟩
    · exact ⟨hkeys "id" (by decide), hfits.id⟩
    · exact ⟨hkeys "keyAgreement" (by decide), hfits.key_agreement⟩
    · exact ⟨hkeys "ma" (by decide), hfits.ma ma hsome⟩
    · exact ⟨hkeys "proof" (by decide), hproof⟩
    · exact ⟨hkeys "updatedAt" (by decide), hfits.updated_at⟩
    · exact ⟨hkeys "verificationMethod" (by decide), hfits.verification_method⟩

/-- So can the fields of a document that was signed. -/
theorem Document.Fits.of_sign (hencodes : lib.DagCborEncodes)
    (hsign : document.sign lib signing_key method = .ok signed) : document.Fits := by
  obtain ⟨_, hash, hhash, _⟩ := Document.sign_eq_ok_iff.mp hsign
  obtain ⟨payload, hpayload, _⟩ := bind_eq_ok_iff.mp hhash
  obtain ⟨_, hentries⟩ := representable_map_iff.mp ((hencodes _).mp ⟨payload, of_library_eq_ok_iff.mp hpayload⟩)
  have hfield (key : String) {value : Ipld} (hmem : (key, value) ∈
      [("@context", strings document.context), ("assertionMethod", strings document.assertion_method),
        ("controller", strings document.controller), ("createdAt", .String document.created_at),
        ("id", .String document.id), ("keyAgreement", strings document.key_agreement)] ++
      (document.ma.map fun value => ("ma", value)).toList ++
      [("proof", Proof.default.serialize), ("updatedAt", .String document.updated_at),
        ("verificationMethod", .List (document.verification_method.map (·.serialize)))]) :
      value.representable = true := (hentries (key, value) hmem).2
  exact {
    context := hfield "@context" (by simp)
    assertion_method := hfield "assertionMethod" (by simp)
    controller := hfield "controller" (by simp)
    created_at := hfield "createdAt" (by simp)
    id := hfield "id" (by simp)
    key_agreement := hfield "keyAgreement" (by simp)
    ma := fun value hma => hfield "ma" (by simp [hma])
    updated_at := hfield "updatedAt" (by simp)
    verification_method := hfield "verificationMethod" (by simp) }

/-- Other times, another proof and another extension can be encoded if they can by themselves. -/
theorem Document.Fits.update (hfits : document.Fits) {created_at updated_at : String} (proof : Proof)
    {ma : Option Ipld} (hcreated : (Ipld.String created_at).representable = true)
    (hupdated : (Ipld.String updated_at).representable = true)
    (hma : ∀ value, ma = some value → value.representable = true) :
    ({ document with created_at, updated_at, proof, ma } : Document).Fits where
  context := hfits.context
  assertion_method := hfits.assertion_method
  controller := hfits.controller
  created_at := hcreated
  id := hfits.id
  key_agreement := hfits.key_agreement
  ma := hma
  updated_at := hupdated
  verification_method := hfits.verification_method

/-- A time that is accepted is twenty bytes long. -/
theorem is_valid_rfc3339_utc_representable {value : String} (hvalid : is_valid_rfc3339_utc lib value = true) :
    (Ipld.String value).representable = true := by
  rw [is_valid_rfc3339_utc, Bool.and_eq_true, Bool.and_eq_true, beq_iff_eq] at hvalid
  have hlength : (utf8 value).length = 20 := hvalid.1.1
  rw [Ipld.representable, decide_eq_true_eq, hlength]
  decide

/-- A document whose fields can be encoded is signed with the key of a method. -/
theorem Document.Fits.sign (hencodes : lib.DagCborEncodes) (hfits : document.Fits)
    (hkey : signing_key.public_key_multibase = method.public_key_multibase) :
    ∃ proof, document.sign lib signing_key method = .ok { document with proof } := by
  obtain ⟨payload, hpayload⟩ := (hencodes _).mpr hfits.representable
  have hhash : document.payload_hash lib = .ok (lib.blake3_hash payload) := by
    rw [Document.payload_hash, Document.payload_bytes, Document.encode, hpayload]
    rfl
  exact ⟨_, Document.sign_eq_ok_iff.mpr ⟨hkey, _, hhash, rfl⟩⟩

end ma_core.doc
