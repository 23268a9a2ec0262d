import MaCore.Doc.RoundTrip
import MaCore.Doc.Signed
import MaCore.Identity

open rust
open ma_core.error ma_core.did ma_core.key ma_core.doc ma_core.multiformat

namespace ma_core.doc

variable {lib : Lib} {method : VerificationMethod}

theorem VerificationMethod.validate_eq_ok (hvalid : method.validate lib = .ok ()) :
    Did.validate_resource lib method.id = .ok () ∧ validate_bare_did lib method.controller = .ok () := by
  obtain ⟨⟨⟩, hresource, hrest⟩ := bind_eq_ok_iff.mp hvalid
  refine ⟨hresource, ?_⟩
  split at hrest
  · cases hrest
  · simp only [ok_bind, bind_eq_ok_iff] at hrest
    obtain ⟨_, _, ⟨⟩, hcontroller, _⟩ := hrest
    exact hcontroller
  · cases hrest

/-- A new method has an id with the given fragment, and is checked. -/
theorem VerificationMethod.new_eq_ok {id controller key_type fragment public_key_multibase : String}
    (hnew : VerificationMethod.new lib id controller key_type fragment public_key_multibase = .ok method) :
    method.id = (split '#' id).headD "" ++ "#" ++ fragment ∧ method.controller = controller ∧
      method.public_key_multibase = public_key_multibase ∧ method.validate lib = .ok () := by
  simp only [VerificationMethod.new, bind_eq_ok_iff, exists_unit, ok_or_eq_ok_iff] at hnew
  obtain ⟨base_id, hbase, hvalid, hmethod⟩ := hnew
  cases hmethod
  rw [List.headD_eq_head?_getD, hbase]
  exact ⟨rfl, rfl, rfl, hvalid⟩

/-- The document has one method to assert with and one to agree on keys, both of which check, and is
    its own controller. -/
structure Document.Holds (lib : Lib) (assertion agreement : VerificationMethod) (document : Document) : Prop where
  context : document.context = DEFAULT_DID_CONTEXT
  controller : document.controller = [document.id]
  methods : document.verification_method = [assertion, agreement]
  assertion_method : document.assertion_method = [assertion.id]
  key_agreement : document.key_agreement = [agreement.id]
  distinct : assertion.id ≠ agreement.id
  assertion_controller : assertion.controller = document.id
  assertion_valid : assertion.validate lib = .ok ()
  agreement_valid : agreement.validate lib = .ok ()

section
variable {assertion agreement : VerificationMethod} {document : Document}

/-- It does so whatever its times, its proof and its extension are. -/
theorem Document.Holds.update (hholds : document.Holds lib assertion agreement) (created_at updated_at : String)
    (proof : Proof) (ma : Option Ipld) :
    ({ document with created_at, updated_at, proof, ma } : Document).Holds lib assertion agreement :=
  ⟨hholds.context, hholds.controller, hholds.methods, hholds.assertion_method, hholds.key_agreement,
    hholds.distinct, hholds.assertion_controller, hholds.assertion_valid, hholds.agreement_valid⟩

theorem Document.Holds.get_assertion (hholds : document.Holds lib assertion agreement) :
    document.get_verification_method_by_id assertion.id = .ok assertion := by
  simp [get_verification_method_by_id, hholds.methods, ok_or]

theorem Document.Holds.get_agreement (hholds : document.Holds lib assertion agreement) :
    document.get_verification_method_by_id agreement.id = .ok agreement := by
  simp [get_verification_method_by_id, hholds.methods, hholds.distinct, ok_or]

/-- The document is valid if its times are and each of the two keys is under the codec of its use. -/
theorem Document.Holds.valid (hholds : document.Holds lib assertion agreement)
    (hcreated : is_valid_rfc3339_utc lib document.created_at = true)
    (hupdated : is_valid_rfc3339_utc lib document.updated_at = true) {signing encryption : Bytes}
    (hassertion : public_key_multibase_decode lib assertion.public_key_multibase = .ok (CODEC_ED25519_PUB, signing))
    (hagreement : public_key_multibase_decode lib agreement.public_key_multibase =
      .ok (CODEC_X25519_PUB, encryption)) : document.Valid lib := by
  have hbare : validate_bare_did lib document.id = .ok () := by
    rw [← hholds.assertion_controller]
    exact (VerificationMethod.validate_eq_ok hholds.assertion_valid).2
  have hrelationship {method : VerificationMethod} {codec : UInt64} {bytes : Bytes}
      (hvalid : method.validate lib = .ok ())
      (hmethod : document.get_verification_method_by_id method.id = .ok method)
      (hdecode : public_key_multibase_decode lib method.public_key_multibase = .ok (codec, bytes)) :
      document.validate_relationship lib codec method.id = .ok () := by
    simp only [validate_relationship, (VerificationMethod.validate_eq_ok hvalid).1, hmethod, hdecode, ok_bind,
      bne_self_eq_false, reject_if_eq_ok_iff]
  have hsign := hrelationship hholds.assertion_valid hholds.get_assertion hassertion
  have henc := hrelationship hholds.agreement_valid hholds.get_agreement hagreement
  exact {
    context := hholds.context
    id := hbare
    controller_nonempty := by simp [hholds.controller]
    controller := by simpa [hholds.controller] using hbare
    created_at := hcreated
    updated_at := hupdated
    methods := by simpa [hholds.methods] using ⟨hholds.assertion_valid, hholds.agreement_valid⟩
    assertion_nonempty := by simp [hholds.assertion_method]
    agreement_nonempty := by simp [hholds.key_agreement]
    assertions := by simpa [hholds.assertion_method] using hsign
    agreements := by simpa [hholds.key_agreement] using henc }

/-- A method that shares neither its id nor its key with another is added. -/
theorem Document.add_verification_method_new {changed : Document}
    (hadd : document.add_verification_method lib method = .ok changed)
    (hnew : ∀ existing ∈ document.verification_method,
      existing.id ≠ method.id ∧ existing.public_key_multibase ≠ method.public_key_multibase) :
    changed = { document with verification_method := document.verification_method ++ [method] } := by
  have hduplicate : document.verification_method.any (fun existing =>
      existing.id == method.id || existing.public_key_multibase == method.public_key_multibase) = false := by
    rw [List.any_eq_false]
    intro existing hexisting
    simpa using hnew existing hexisting
  obtain ⟨_, _, hchanged⟩ := bind_eq_ok_iff.mp hadd
  simp only [hduplicate] at hchanged
  exact (Except.ok.inj hchanged).symm

/-- An extension is set as a map, and one without entries not at all. -/
theorem Document.set_ma_extension_eq (document : Document) (ext : MaExtension) :
    document.set_ma_extension ext =
      { document with ma := if ext.map.isEmpty then none else some (.Map ext.map) } := by
  obtain ⟨entries⟩ := ext
  cases entries with
  | nil => rfl
  | cons entry entries => rfl

end

end ma_core.doc

namespace ma_core.identity

variable {lib : Lib} {identity : GeneratedIdentity} {now_iso_utc ipns : String} {signing_key : SigningKey}
  {encryption_key : EncryptionKey}

/-- A generated document holds both keys, if they are not the same. -/
theorem build_identity_from_keys_eq_ok
    (hbuild : build_identity_from_keys lib now_iso_utc ipns signing_key encryption_key = .ok identity)
    (hkeys : signing_key.public_key_multibase ≠ encryption_key.public_key_multibase) :
    ∃ assertion agreement, identity.document.Holds lib assertion agreement ∧
      assertion.id = Did.id ⟨ipns, some "sign"⟩ ∧ agreement.id = Did.id ⟨ipns, some "enc"⟩ ∧
      assertion.public_key_multibase = signing_key.public_key_multibase ∧
      agreement.public_key_multibase = encryption_key.public_key_multibase := by
  simp only [build_identity_from_keys, bind_eq_ok_iff, validated_eq_ok_iff] at hbuild
  obtain ⟨subject_url, hsubject, assertion, hassertion, agreement, hagreement, first, hfirst, second, hsecond, signed,
    hsigned, hidentity⟩ := hbuild
  obtain ⟨hassertion_id, hassertion_controller, hassertion_key, hassertion_valid⟩ :=
    VerificationMethod.new_eq_ok hassertion
  obtain ⟨hagreement_id, _, hagreement_key, hagreement_valid⟩ := VerificationMethod.new_eq_ok hagreement
  obtain rfl : subject_url = ⟨ipns, none⟩ := by
    obtain ⟨_, _, hdid⟩ := bind_eq_ok_iff.mp hsubject
    exact (Except.ok.inj hdid).symm
  have hbase : (split '#' (Did.base_id ⟨ipns, none⟩)).headD "" = DID_PREFIX ++ ipns := by
    have hbare := (VerificationMethod.validate_eq_ok hassertion_valid).2
    rw [hassertion_controller] at hbare
    obtain ⟨_, hparse⟩ := (validate_bare_did_eq_ok_iff lib).mp hbare
    have hhash := Did.parse_bare_no_hash hparse
    have habsent : '#' ∉ (DID_PREFIX ++ ipns).toList := by simpa [DID_PREFIX] using hhash
    rw [Did.base_id, split_eq_singleton habsent, List.headD_cons]
  rw [hbase] at hassertion_id hagreement_id
  have hdistinct : assertion.id ≠ agreement.id := by
    rw [hassertion_id, hagreement_id]
    simp
  have hfirst := Document.add_verification_method_new hfirst (List.forall_mem_nil _)
  subst hfirst
  have hsecond := Document.add_verification_method_new hsecond (by
    simpa [Document.new] using ⟨hdistinct, hassertion_key ▸ hagreement_key ▸ hkeys⟩)
  subst hsecond
  obtain ⟨proof, rfl⟩ := Document.sign_eq_ok hsigned
  cases hidentity
  exact ⟨assertion, agreement, ⟨rfl, rfl, rfl, rfl, rfl, hdistinct, hassertion_controller, hassertion_valid,
    hagreement_valid⟩, hassertion_id, hagreement_id, hassertion_key, hagreement_key⟩

/-- A generated document can be encoded. -/
theorem build_identity_from_keys_fits (hencodes : lib.DagCborEncodes)
    (hbuild : build_identity_from_keys lib now_iso_utc ipns signing_key encryption_key = .ok identity) :
    identity.document.Fits := by
  simp only [build_identity_from_keys, bind_eq_ok_iff, validated_eq_ok_iff] at hbuild
  obtain ⟨_, _, _, _, _, _, _, _, _, _, signed, hsigned, hidentity⟩ := hbuild
  have hfits := Document.Fits.of_sign hencodes hsigned
  obtain ⟨proof, rfl⟩ := Document.sign_eq_ok hsigned
  cases hidentity
  exact hfits.update proof hfits.created_at hfits.updated_at hfits.ma

/-! Generation succeeds. -/

/-- The method of a key of an identity. -/
def method_of (lib : Lib) (ipns fragment : String) (codec : UInt64) (key : ByteArr 32) : VerificationMethod where
  id := DID_PREFIX ++ ipns ++ "#" ++ fragment
  key_type := "Multikey"
  controller := DID_PREFIX ++ ipns
  public_key_multibase := public_key_multibase_encode lib codec key.val

/-- The document of an identity with two methods, before it is signed. -/
def unsigned_document (ipns now_iso_utc : String) (assertion agreement : VerificationMethod) : Document where
  context := DEFAULT_DID_CONTEXT
  id := DID_PREFIX ++ ipns
  controller := [DID_PREFIX ++ ipns]
  verification_method := [assertion, agreement]
  assertion_method := [assertion.id]
  key_agreement := [agreement.id]
  proof := Proof.default
  created_at := now_iso_utc
  updated_at := now_iso_utc
  ma := none

section
variable {fragment : String} {codec : UInt64} {key : ByteArr 32}

theorem method_of_valid (hbase58 : lib.Base58RoundTrips) (hidentifier : validate_identifier lib ipns = .ok ())
    (hhash : '#' ∉ ipns.toList) (hfragment : validate_fragment fragment = .ok ()) :
    (method_of lib ipns fragment codec key).validate lib = .ok () := by
  have hnonempty : ipns ≠ "" := by
    obtain ⟨_, hreject, _⟩ := bind_eq_ok_iff.mp hidentifier
    simpa [String.isEmpty_eq_false_iff] using reject_if_eq_ok_iff.mp hreject
  have hparse := Did.parse_base_id hidentifier hnonempty hhash
  have hbare := (validate_bare_did_eq_ok_iff lib).mpr ⟨ipns, hparse⟩
  have hcontroller := Did.parse_nonempty hparse
  have hresource : Did.validate_resource lib (DID_PREFIX ++ ipns ++ "#" ++ fragment) = .ok () := by
    rw [Did.validate_resource, Did.parse_url hidentifier hhash hfragment, ok_bind]
  have hkey := public_key_multibase_decode_encode hbase58 codec
    (List.ne_nil_of_length_eq_add_one (ByteArr.length_val key))
  have htext : (public_key_multibase_encode lib codec key.val).isEmpty = false := hbase58.nonempty _
  simp only [method_of, VerificationMethod.validate, hresource, hcontroller, hbare, htext, hkey, reject_if, ok_bind,
    Bool.false_eq_true, if_false]
  rfl

/-- A key of a valid identity is a new method, whatever its codec and its fragment. -/
theorem method_of_new (hbase58 : lib.Base58RoundTrips) (hidentifier : validate_identifier lib ipns = .ok ())
    (hhash : '#' ∉ ipns.toList) (hfragment : validate_fragment fragment = .ok ()) :
    VerificationMethod.new lib (DID_PREFIX ++ ipns) (DID_PREFIX ++ ipns) "Multikey" fragment
      (public_key_multibase_encode lib codec key.val) = .ok (method_of lib ipns fragment codec key) := by
  have habsent : '#' ∉ (DID_PREFIX ++ ipns).toList := by simpa [DID_PREFIX] using hhash
  have hvalid := @method_of_valid lib ipns fragment codec key hbase58 hidentifier hhash hfragment
  rw [method_of] at hvalid ⊢
  simp only [VerificationMethod.new, split_eq_singleton habsent, List.head?_cons, ok_or, ok_bind, hvalid]
  rfl

theorem base_id_length (hlength : (utf8 ipns).length < 2 ^ 32) : (utf8 (DID_PREFIX ++ ipns)).length < 2 ^ 33 := by
  have hprefix : (utf8 DID_PREFIX).length = 7 := by decide
  rw [utf8_append_length, hprefix]
  omega

theorem method_of_id_length (hlength : (utf8 ipns).length < 2 ^ 32) (hfragment : (utf8 fragment).length < 2 ^ 32) :
    (utf8 (method_of lib ipns fragment codec key).id).length < 2 ^ 64 := by
  have hbase := base_id_length hlength
  have hsep : (utf8 "#").length = 1 := by decide
  rw [method_of, utf8_append_length, utf8_append_length, hsep]
  omega

theorem method_of_representable (hbase58 : lib.Base58RoundTrips) (hlength : (utf8 ipns).length < 2 ^ 32)
    (hfragment : (utf8 fragment).length < 2 ^ 32) (hcodec : (unsigned_varint.encode_u64 codec).length ≤ 10) :
    (method_of lib ipns fragment codec key).serialize.representable = true := by
  have hbase := base_id_length hlength
  have hkey : (utf8 (public_key_multibase_encode lib codec key.val)).length < 2 ^ 64 := by
    have htext := hbase58.length_le (multicodec_encode codec key.val)
    have hbytes := key.length_val
    rw [multicodec_encode, List.length_append] at htext
    rw [public_key_multibase_encode, multibase_encode, multicodec_encode]
    omega
  have htype : (utf8 "Multikey").length < 2 ^ 64 := by decide
  exact VerificationMethod.representable (Nat.lt_trans hbase (by decide)) (method_of_id_length hlength hfragment) hkey
    htype

end

/-- A method of an id and a key of its own is added. -/
theorem add_verification_method_ok {document : Document} {method : VerificationMethod}
    (hvalid : method.validate lib = .ok ())
    (hnew : ∀ existing ∈ document.verification_method,
      existing.id ≠ method.id ∧ existing.public_key_multibase ≠ method.public_key_multibase) :
    document.add_verification_method lib method =
      .ok { document with verification_method := document.verification_method ++ [method] } := by
  cases hadd : document.add_verification_method lib method with
  | ok changed => rw [Document.add_verification_method_new hadd hnew]
  | error e =>
    rw [Document.add_verification_method, hvalid, ok_bind] at hadd
    cases hadd

theorem unsigned_document_fits (hlength : (utf8 ipns).length < 2 ^ 32)
    (hnow : (Ipld.String now_iso_utc).representable = true)
    {assertion agreement : VerificationMethod} (hassertion : assertion.serialize.representable = true)
    (hagreement : agreement.serialize.representable = true) (hassertion_id : (utf8 assertion.id).length < 2 ^ 64)
    (hagreement_id : (utf8 agreement.id).length < 2 ^ 64) :
    (unsigned_document ipns now_iso_utc assertion agreement).Fits := by
  have hbase : (utf8 (DID_PREFIX ++ ipns)).length < 2 ^ 64 := Nat.lt_trans (base_id_length hlength) (by decide)
  have hsingleton {text : String} (htext : (utf8 text).length < 2 ^ 64) : (strings [text]).representable = true :=
    strings_representable (by simp) (by simpa using htext)
  exact {
    context := show (strings DEFAULT_DID_CONTEXT).representable = true by decide
    assertion_method := hsingleton hassertion_id
    controller := hsingleton hbase
    created_at := hnow
    id := decide_eq_true_eq.mpr hbase
    key_agreement := hsingleton hagreement_id
    ma := fun value hma => by cases hma
    updated_at := hnow
    verification_method := by
      simp [unsigned_document, Ipld.representable, itemsRepresentable, hassertion, hagreement] }

/-- An identity is generated from any two keys if its identifier is valid. -/
theorem build_identity_from_keys_ok (hbase58 : lib.Base58RoundTrips) (hencodes : lib.DagCborEncodes)
    (hidentifier : validate_identifier lib ipns = .ok ()) (hhash : '#' ∉ ipns.toList)
    (hlength : (utf8 ipns).length < 2 ^ 32) (hnow : (Ipld.String now_iso_utc).representable = true)
    (sign_did enc_did : Did) (signing encryption : ByteArr 32) :
    ∃ identity, build_identity_from_keys lib now_iso_utc ipns (SigningKey.from_private_key_bytes lib sign_did signing)
      (EncryptionKey.from_private_key_bytes lib enc_did encryption) = .ok identity := by
  have hsubject : Did.new_identity lib ipns = .ok ⟨ipns, none⟩ := by
    rw [Did.new_identity, hidentifier, ok_bind]
    rfl
  have hsign : validate_fragment "sign" = .ok () := by decide
  have henc : validate_fragment "enc" = .ok () := by decide
  have hkeys := public_key_multibase_encode_ne hbase58 (show CODEC_ED25519_PUB ≠ CODEC_X25519_PUB by decide)
    (List.ne_nil_of_length_eq_add_one (ByteArr.length_val (lib.ed25519_public_key signing)))
    (List.ne_nil_of_length_eq_add_one (ByteArr.length_val (lib.x25519_public_key encryption)))
  have hassertion_valid := @method_of_valid lib ipns "sign" CODEC_ED25519_PUB (lib.ed25519_public_key signing)
    hbase58 hidentifier hhash hsign
  have hagreement_valid := @method_of_valid lib ipns "enc" CODEC_X25519_PUB (lib.x25519_public_key encryption)
    hbase58 hidentifier hhash henc
  have hfirst := @add_verification_method_ok lib (Document.new ⟨ipns, none⟩ ⟨ipns, none⟩ now_iso_utc) _
    hassertion_valid (List.forall_mem_nil _)
  have hsecond := @add_verification_method_ok lib { Document.new ⟨ipns, none⟩ ⟨ipns, none⟩ now_iso_utc with
      verification_method := [method_of lib ipns "sign" CODEC_ED25519_PUB (lib.ed25519_public_key signing)] } _
    hagreement_valid (by simpa [method_of] using hkeys)
  have hfits := @unsigned_document_fits now_iso_utc ipns hlength hnow
    (method_of lib ipns "sign" CODEC_ED25519_PUB (lib.ed25519_public_key signing))
    (method_of lib ipns "enc" CODEC_X25519_PUB (lib.x25519_public_key encryption))
    (method_of_representable hbase58 hlength (by decide) (by decide))
    (method_of_representable hbase58 hlength (by decide) (by decide))
    (method_of_id_length hlength (by decide)) (method_of_id_length hlength (by decide))
  have hkey : (SigningKey.from_private_key_bytes lib sign_did signing).public_key_multibase =
      (method_of lib ipns "sign" CODEC_ED25519_PUB (lib.ed25519_public_key signing)).public_key_multibase := rfl
  obtain ⟨proof, hsigned⟩ := hfits.sign hencodes hkey
  simp only [build_identity_from_keys, bind_eq_ok_iff, validated_eq_ok_iff]
  exact ⟨_, _, hsubject, _, method_of_new hbase58 hidentifier hhash hsign, _,
    method_of_new hbase58 hidentifier hhash henc, _, hfirst, _, hsecond, _, hsigned, rfl⟩

end ma_core.identity
