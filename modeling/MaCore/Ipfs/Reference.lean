import MaCore.Doc.Wire
import MaCore.Ipfs.Publish
import MaCore.Msg.Wire
import MaCore.Reference

open rust
open ma_core.error ma_core.did ma_core.key ma_core.doc ma_core.msg ma_core.service ma_core.multiformat
open ma_core.ipfs

/-! Publish requests on the reference library. -/

namespace ma_core.reference

theorem fromCborItems_toCborItems_map {α : Type} {write : α → Ipld}
    (hwrite : ∀ a, fromCbor (toCbor (write a)) = some (write a)) (items : List α) :
    fromCborItems (toCborItems (items.map write)) = some (items.map write) := by
  induction items with
  | nil => rfl
  | cons item items ih => simp [toCborItems, fromCborItems, hwrite, ih]

/-- A document without extension is read back by the codec. -/
theorem fromCbor_toCbor_document {document : Document} (hma : document.ma = none) :
    fromCbor (toCbor document.serialize) = some document.serialize := by
  have hstrings (items : List String) : fromCbor (toCbor (strings items)) = some (strings items) := by
    have hitems := @fromCborItems_toCborItems_map String .String (fun _ => rfl) items
    simp only [strings, toCbor, fromCbor, hitems, Option.map_some]
  have hmethods := @fromCborItems_toCborItems_map _ VerificationMethod.serialize (fun _ => rfl)
    document.verification_method
  have hproof : fromCbor (toCbor document.proof.serialize) = some document.proof.serialize := rfl
  simp [Document.serialize, hma, toCbor, toCborEntries, fromCbor, fromCborEntries, hstrings, hproof,
    hmethods]

theorem decode_document {document : Document} (hma : document.ma = none)
    (hdepth : (toCbor document.serialize).depth ≤ 256)
    (hlength : (cbor.encode (toCbor document.serialize)).length < 2 ^ 64) :
    Document.decode library (cbor.encode (toCbor document.serialize)) = .ok document := by
  have hdecode := cbor.decode_encode (cbor.Value.fits_of_length hdepth hlength)
  refine Document.decode_of_from_slice ?_ (by simp [hma])
  simp [library, hdecode, fromCbor_toCbor_document hma]

theorem encode_map_length_le (entries : List (String × Ipld)) :
    (cbor.encode (toCbor (.Map entries))).length ≤
      (entries.map fun entry => (utf8 entry.1).length + 9 + (cbor.encode (toCbor entry.2)).length).sum + 9 := by
  have hentries : toCborEntries entries =
      (entries.map fun entry => (entry.1, toCbor entry.2)).map fun entry => (.text entry.1, entry.2) := by
    induction entries with
    | nil => rfl
    | cons entry entries ih => simp [toCborEntries, ih]
  have hsize := cbor.encode_structValue_length_le (entries.map fun entry => (entry.1, toCbor entry.2))
  rw [List.map_map, cbor.structValue, ← hentries] at hsize
  exact hsize

theorem encode_map_append_length_le (entries others : List (String × Ipld)) :
    (cbor.encode (toCbor (.Map (entries ++ others)))).length ≤
      (cbor.encode (toCbor (.Map entries))).length + (cbor.encode (toCbor (.Map others))).length + 9 := by
  have happend : toCborEntries (entries ++ others) = toCborEntries entries ++ toCborEntries others := by
    induction entries with
    | nil => rfl
    | cons entry entries ih => simp [toCborEntries, ih]
  have hhead := cbor.headSize_le (toCborEntries entries ++ toCborEntries others).length
  simp only [toCbor, happend, cbor.encode, cbor.encodeEntries_append, cbor.encodeHead_length,
    List.length_append] at hhead ⊢
  omega

theorem encode_list_length_le (items : List Ipld) :
    (cbor.encode (toCbor (.List items))).length ≤
      (items.map fun item => (cbor.encode (toCbor item)).length).sum + 9 := by
  have hitems : (cbor.encodeItems (toCborItems items)).length =
      (items.map fun item => (cbor.encode (toCbor item)).length).sum := by
    induction items with
    | nil => rfl
    | cons item items ih => simp [toCborItems, cbor.encodeItems, ih]
  have hhead := cbor.headSize_le (toCborItems items).length
  simp only [toCbor, cbor.encode, cbor.encodeHead_length, List.length_append, hitems]
  omega

theorem encode_string_length_le (s : String) :
    (cbor.encode (toCbor (.String s))).length ≤ (utf8 s).length + 9 :=
  cbor.encode_text_length_le s

/-! Documents. -/

/-- A document with these keys, before it is signed. -/
def documentOf (id signing_key encryption_key : String) : Document where
  context := DEFAULT_DID_CONTEXT
  id
  controller := [id]
  verification_method := [
    ⟨id ++ "#sign", "Multikey", id, signing_key⟩, ⟨id ++ "#enc", "Multikey", id, encryption_key⟩]
  assertion_method := [id ++ "#sign"]
  key_agreement := [id ++ "#enc"]
  proof := Proof.default
  created_at := "2026-08-08T12:34:56Z"
  updated_at := "2026-08-08T12:34:56Z"
  ma := none

/-- The document signed with the key of this seed. -/
def signedDocument (signer : UInt8) (document : Document) : Document :=
  let hash := digest 32 (cbor.encode (toCbor document.serialize))
  { document with
    proof := Proof.new (signature_multibase_encode library CODEC_EDDSA_SIG
      ((signingKey signer).sign library hash.val)) (document.id ++ "#sign") }

/-- A document with the identifier of one seed and the keys of another, which
    also signs it. -/
def claimed (owner signer : UInt8) : Document :=
  signedDocument signer (documentOf (did owner).base_id (signingKey signer).public_key_multibase
    (encryptionKey signer).public_key_multibase)

theorem method_length_le (vm : VerificationMethod) :
    (cbor.encode (toCbor vm.serialize)).length ≤ (utf8 vm.controller).length + (utf8 vm.id).length +
      (utf8 vm.public_key_multibase).length + (utf8 vm.key_type).length + 115 := by
  have hsize : (cbor.encode (toCbor vm.serialize)).length ≤ _ := encode_map_length_le _
  have hnames : (utf8 "controller").length + (utf8 "id").length + (utf8 "publicKeyMultibase").length +
      (utf8 "type").length = 34 := rfl
  have hcontroller := encode_string_length_le vm.controller
  have hid := encode_string_length_le vm.id
  have hkey := encode_string_length_le vm.public_key_multibase
  have htype := encode_string_length_le vm.key_type
  simp only [List.map_cons, List.map_nil, List.sum_cons, List.sum_nil] at hsize
  omega

theorem proof_length_le (proof : Proof) :
    (cbor.encode (toCbor proof.serialize)).length ≤ (utf8 proof.proof_purpose).length +
      (utf8 proof.proof_value).length + (utf8 proof.proof_type).length +
      (utf8 proof.verification_method).length + 125 := by
  have hsize : (cbor.encode (toCbor proof.serialize)).length ≤ _ := encode_map_length_le _
  have hnames : (utf8 "proofPurpose").length + (utf8 "proofValue").length + (utf8 "type").length +
      (utf8 "verificationMethod").length = 44 := rfl
  have hpurpose := encode_string_length_le proof.proof_purpose
  have hvalue := encode_string_length_le proof.proof_value
  have htype := encode_string_length_le proof.proof_type
  have hmethod := encode_string_length_le proof.verification_method
  simp only [List.map_cons, List.map_nil, List.sum_cons, List.sum_nil] at hsize
  omega

/-- A document is as long as its identifier, its keys and its proof allow. -/
theorem documentOf_length_le {id signing_key encryption_key : String} {proof : Proof} :
    (cbor.encode (toCbor
      ({ documentOf id signing_key encryption_key with proof } : Document).serialize)).length ≤
      8 * (utf8 id).length + (utf8 signing_key).length + (utf8 encryption_key).length +
        (utf8 proof.proof_type).length + (utf8 proof.verification_method).length +
        (utf8 proof.proof_purpose).length + (utf8 proof.proof_value).length + 1024 := by
  have hsize : (cbor.encode (toCbor ({ documentOf id signing_key encryption_key with proof } :
    Document).serialize)).length ≤ _ := encode_map_length_le _
  have hnames : (utf8 "@context").length + (utf8 "assertionMethod").length + (utf8 "controller").length +
      (utf8 "createdAt").length + (utf8 "id").length + (utf8 "keyAgreement").length +
      (utf8 "proof").length + (utf8 "updatedAt").length + (utf8 "verificationMethod").length = 88 := rfl
  have hstrings (s : String) : (cbor.encode (toCbor (strings [s]))).length ≤ (utf8 s).length + 18 := by
    have hlist : (cbor.encode (toCbor (strings [s]))).length ≤ _ := encode_list_length_le _
    have hstring := encode_string_length_le s
    simp only [List.map_cons, List.map_nil, List.sum_cons, List.sum_nil] at hlist
    omega
  have hurl (fragment : String) : (utf8 (id ++ fragment)).length = (utf8 id).length + (utf8 fragment).length :=
    utf8_append_length id fragment
  have hfragments : (utf8 "#sign").length + (utf8 "#enc").length = 9 := rfl
  have htype : (utf8 "Multikey").length = 8 := rfl
  have hcontext := hstrings "https://www.w3.org/ns/did/v1.1"
  have hcontext_size : (utf8 "https://www.w3.org/ns/did/v1.1").length = 30 := rfl
  have hassertion := hstrings (id ++ "#sign")
  have hcontroller := hstrings id
  have htime := encode_string_length_le "2026-08-08T12:34:56Z"
  have htime_size : (utf8 "2026-08-08T12:34:56Z").length = 20 := rfl
  have hid := encode_string_length_le id
  have hagreement := hstrings (id ++ "#enc")
  have hproof := proof_length_le proof
  have hmethods := encode_list_length_le [
    VerificationMethod.serialize ⟨id ++ "#sign", "Multikey", id, signing_key⟩,
    VerificationMethod.serialize ⟨id ++ "#enc", "Multikey", id, encryption_key⟩]
  have hsign := method_length_le ⟨id ++ "#sign", "Multikey", id, signing_key⟩
  have henc := method_length_le ⟨id ++ "#enc", "Multikey", id, encryption_key⟩
  simp only [documentOf, DEFAULT_DID_CONTEXT, Option.map_none, Option.toList_none, List.append_nil,
    List.cons_append, List.nil_append, List.map_cons, List.map_nil, List.sum_cons, List.sum_nil, hurl]
    at hsize hassertion hagreement hmethods hsign henc
  simp only [documentOf, DEFAULT_DID_CONTEXT]
  omega

/-- The signing key of one seed as a method of the identity of another. -/
def methodOf (owner signer : UInt8) (suffix : String) : VerificationMethod :=
  ⟨(did owner).base_id ++ suffix, "Multikey", (did owner).base_id, (signingKey signer).public_key_multibase⟩

theorem signing_key_injective {left right : UInt8}
    (heq : (signingKey left).public_key_multibase = (signingKey right).public_key_multibase) : left = right := by
  have hdecode := signing_key_decode left
  rw [heq, signing_key_decode right] at hdecode
  have hsecret : (secret right).val = (secret left).val := congrArg Prod.snd (Except.ok.inj hdecode)
  exact ((List.replicate_inj.mp hsecret).2.resolve_left (by decide)).symm

theorem multibase_encode_nonempty (bytes : Bytes) :
    (multibase_encode library bytes).isEmpty = false := by
  simp [multibase_encode, library, String.isEmpty_eq_false_iff]

section
variable {id signing_key encryption_key : String} {signing_bytes encryption_bytes : Bytes}

theorem documentOf_validate {proof : Proof} (hid : validate_bare_did library id = .ok ())
    (hsign : Did.validate_resource library (id ++ "#sign") = .ok ())
    (henc : Did.validate_resource library (id ++ "#enc") = .ok ())
    (hsigning : public_key_multibase_decode library signing_key = .ok (CODEC_ED25519_PUB, signing_bytes))
    (hencryption : public_key_multibase_decode library encryption_key =
      .ok (CODEC_X25519_PUB, encryption_bytes))
    (hsigning_key : signing_key.isEmpty = false) (hencryption_key : encryption_key.isEmpty = false) :
    ({ documentOf id signing_key encryption_key with proof } : Document).validate library = .ok () := by
  obtain ⟨_, hparse⟩ := (validate_bare_did_eq_ok_iff library).mp hid
  have hnonempty := Did.parse_nonempty hparse
  have htime : is_valid_rfc3339_utc library "2026-08-08T12:34:56Z" = true := by decide +kernel
  simp [documentOf, Document.validate, Document.validate_relationships, Document.validate_relationship,
    VerificationMethod.validate, Document.get_verification_method_by_id, hid, hsign, henc, htime, reject_if,
    hsigning, hencryption, hsigning_key, hencryption_key, hnonempty, pure, Except.pure, ok_or]

theorem documentOf_key {proof : Proof} {key : ByteArr 32}
    (hsigning : public_key_multibase_decode library signing_key = .ok (CODEC_ED25519_PUB, key.val)) :
    ({ documentOf id signing_key encryption_key with proof } : Document).verifying_key_for_method library
      (id ++ "#sign") = .ok key := by
  have hpoint : library.ed25519_is_point key = true := rfl
  simp [documentOf, Document.verifying_key_for_method, Document.key_bytes_for_method,
    Document.get_verification_method_by_id, hsigning, hpoint, ok_or, reject_if, pure, Except.pure]

/-- What the signing key of a document's first method signed verifies. -/
theorem signedDocument_verify {signer : UInt8} {document : Document}
    (hproof : document.payload_document = document)
    (hmethod : document.assertion_method.contains (document.id ++ "#sign") = true)
    (hkey : (signedDocument signer document).verifying_key_for_method library (document.id ++ "#sign") =
      .ok (secret signer))
    (hvalue : signature_multibase_decode library (signedDocument signer document).proof.proof_value =
      .ok (CODEC_EDDSA_SIG,
        (ed25519_sign (secret signer) (digest 32 (cbor.encode (toCbor document.serialize))).val).val)) :
    (signedDocument signer document).verify library = .ok () := by
  have hempty : (signedDocument signer document).proof.is_empty = false := multibase_encode_nonempty _
  have hhash : (signedDocument signer document).payload_hash library =
      .ok (digest 32 (cbor.encode (toCbor document.serialize))) := by
    have hpayload : (signedDocument signer document).payload_document = document := hproof
    rw [Document.payload_hash, Document.payload_bytes, hpayload]
    rfl
  unfold Document.verify
  simp only [bind_eq_ok_iff, exists_unit, reject_if_eq_ok_iff, ok_or_eq_ok_iff, bne_eq_false_iff_eq,
    Bool.not_eq_false']
  refine ⟨hempty, rfl, rfl, _, hvalue, rfl, _, ByteArr.try_from_eq_some_iff.mpr rfl, hmethod, _, hkey, _,
    hhash, ?_⟩
  simp [library]

end

theorem methodOf_validate (owner signer : UInt8) {fragment : String}
    (hfragment : validate_fragment fragment = .ok ()) :
    (methodOf owner signer ("#" ++ fragment)).validate library = .ok () := by
  have hresource := did_resource owner hfragment
  rw [String.append_assoc] at hresource
  have hbare : validate_bare_did library (did owner).base_id = .ok () :=
    (validate_bare_did_eq_ok_iff library).mpr ⟨_, did_parse owner⟩
  have hnonempty := Did.parse_nonempty (did_parse owner)
  have hkey_nonempty : (signingKey signer).public_key_multibase.isEmpty = false := multibase_encode_nonempty _
  simp only [VerificationMethod.validate, methodOf, hresource, hbare, hnonempty, signing_key_decode, hkey_nonempty,
    ok_bind, reject_if, Bool.false_eq_true, if_false, pure, Except.pure]

theorem claimed_validate (owner signer : UInt8) : (claimed owner signer).validate library = .ok () := by
  have hsign := @did_resource owner "sign" (by decide)
  have henc := @did_resource owner "enc" (by decide)
  rw [String.append_assoc] at hsign henc
  exact documentOf_validate ((validate_bare_did_eq_ok_iff library).mpr ⟨_, did_parse owner⟩) hsign henc
    (signing_key_decode signer) (encryption_key_decode signer) (multibase_encode_nonempty _)
    (multibase_encode_nonempty _)

theorem claimed_key (owner signer : UInt8) :
    (claimed owner signer).verifying_key_for_method library ((did owner).base_id ++ "#sign") =
      .ok (secret signer) :=
  documentOf_key (signing_key_decode signer)

theorem claimed_assertion_key (owner signer : UInt8) :
    (claimed owner signer).assertion_method_public_key library = .ok (secret signer) := by
  have hmethod : (claimed owner signer).assertion_method.head? = some ((did owner).base_id ++ "#sign") := rfl
  rw [Document.assertion_method_public_key, hmethod, ok_or, ok_bind, claimed_key]

theorem claimed_verify (owner signer : UInt8) : (claimed owner signer).verify library = .ok () :=
  signedDocument_verify rfl (by simp [documentOf]) (claimed_key owner signer)
    (public_key_multibase_decode_encode _
      (List.ne_nil_of_length_eq_add_one (ed25519_sign (secret signer) _).length_val))

theorem multibase_encode_length_le (bytes : Bytes) :
    (utf8 (multibase_encode library bytes)).length ≤ 12 * bytes.length + 4 := by
  have hchars : (multibase_encode library bytes).toList.length = (radix.encode BASE58_BTC bytes).length + 1 := by
    simp [multibase_encode, library]
  have hdigits := @radix.encode_length_le BASE58_BTC bytes
  have hsize := utf8_length_le (multibase_encode library bytes)
  omega

theorem library_base58RoundTrips : library.Base58RoundTrips where
  nonempty := multibase_encode_nonempty
  length_le := multibase_encode_length_le
  decodes := multibase_decode_base58

theorem library_ed25519Signs : library.Ed25519Signs where
  is_point _ := rfl
  verifies secret data := decide_eq_true (show ed25519_sign secret data = ed25519_sign secret data from rfl)

theorem claimed_size (owner signer : UInt8) :
    (cbor.encode (toCbor (claimed owner signer).serialize)).length ≤ 8192 := by
  have hsize := @documentOf_length_le (did owner).base_id (signingKey signer).public_key_multibase
    (encryptionKey signer).public_key_multibase (claimed owner signer).proof
  have hid := did_length owner
  have hkey (codec : UInt64) (hcodec : (unsigned_varint.encode_u64 codec).length ≤ 3) {n : Nat} (key : ByteArr n) :
      (utf8 (multibase_encode library (multicodec_encode codec key.val))).length ≤ 12 * (n + 3) + 4 := by
    have htext := multibase_encode_length_le (multicodec_encode codec key.val)
    have hlength := key.length_val
    simp only [multicodec_encode, List.length_append] at htext ⊢
    omega
  have hsigning : (utf8 (signingKey signer).public_key_multibase).length ≤ _ :=
    hkey CODEC_ED25519_PUB (by decide) (secret signer)
  have hencryption : (utf8 (encryptionKey signer).public_key_multibase).length ≤ _ :=
    hkey CODEC_X25519_PUB (by decide) (secret signer)
  have hproof : (utf8 (claimed owner signer).proof.proof_value).length ≤ _ :=
    hkey CODEC_EDDSA_SIG (by decide) (ed25519_sign (secret signer) _)
  have hmethod : (utf8 (claimed owner signer).proof.verification_method).length = _ :=
    utf8_append_length (did owner).base_id "#sign"
  have hfragment : (utf8 "#sign").length = 5 := rfl
  have hfixed : (utf8 (claimed owner signer).proof.proof_type).length +
      (utf8 (claimed owner signer).proof.proof_purpose).length = 39 := rfl
  have hclaimed : (cbor.encode (toCbor (claimed owner signer).serialize)).length ≤ _ := hsize
  omega

theorem claimed_depth (owner signer : UInt8) : (toCbor (claimed owner signer).serialize).depth ≤ 256 := by
  simp [claimed, signedDocument, documentOf, Document.serialize, strings, VerificationMethod.serialize,
    Proof.serialize, toCbor, toCborItems, toCborEntries, cbor.Value.depth, cbor.itemsDepth, cbor.entriesDepth, DEFAULT_DID_CONTEXT]

theorem claimed_decode (owner signer : UInt8) :
    Document.decode library (cbor.encode (toCbor (claimed owner signer).serialize)) = .ok (claimed owner signer) :=
  decode_document rfl (claimed_depth owner signer) (Nat.lt_of_le_of_lt (claimed_size owner signer) (by decide))

/-! A request for the identity of the first seed by the second. -/

/-- The document and the key of the second. -/
def forgedRequest : IdentityPublishRequest where
  document := cbor.encode (toCbor (claimed 1 2).serialize)
  ipns_secret_key := (secret 2).val

/-- The request in a message the second signed. -/
def forged : Message :=
  let message : Message := {
    id := "m"
    protocol := default_protocol
    message_type := MESSAGE_TYPE_IDENTITY_PUBLISH_REQUEST
    «from» := (did 1).base_id
    «to» := (did 2).base_id
    created_at := 0
    exp := 0
    content_type := CONTENT_TYPE_CBOR
    reply_to := none
    content := encode_content CODEC_CBOR (cbor.encode forgedRequest.serialize)
    signature := [] }
  { message with
    signature := (signingKey 2).sign library (cbor.encode (message.unsigned_headers library).serialize) }

def forgedValidated : ValidatedIdentityPublish where
  document_bytes := forgedRequest.document
  ipns_secret_key := forgedRequest.ipns_secret_key
  document := claimed 1 2
  document_did := did 1

/-- A request of the first identity in the same message, signed with the key of this seed. -/
def publishing (signer : UInt8) (request : IdentityPublishRequest) : Message :=
  let message : Message := { forged with
    content := encode_content CODEC_CBOR (cbor.encode request.serialize)
    signature := [] }
  { message with
    signature := (signingKey signer).sign library
      (cbor.encode (message.unsigned_headers library).serialize) }

section
variable {signer : UInt8} {request : IdentityPublishRequest}

theorem publishing_type : (publishing signer request).message_type ≠ MESSAGE_TYPE_BROADCAST :=
  show MESSAGE_TYPE_IDENTITY_PUBLISH_REQUEST ≠ MESSAGE_TYPE_BROADCAST by decide

theorem publishing_headers : ((publishing signer request).headers library).Valid library (some 1000) where
  id := show validate_message_id "m" = .ok () by decide
  protocol := rfl
  reply_to _ hmem := by cases hmem
  content_type := show CONTENT_TYPE_CBOR.isEmpty = false by decide
  sender := ⟨_, did_parse 1⟩
  broadcast hbroadcast := absurd hbroadcast (@publishing_type signer request)
  recipient _ := ⟨did_trim 2, _, did_parse 2⟩
  fresh := ⟨1000, rfl, fresh_never (by decide)⟩

theorem publishing_headers_size :
    (cbor.encode ((publishing signer request).unsigned_headers library).serialize).length ≤ 4096 := by
  have hsize := ((publishing signer request).unsigned_headers library).serialize_length_le
  have hsender := did_length 1
  have hrecipient := did_length 2
  have htexts : (utf8 "m").length + (utf8 default_protocol).length +
      (utf8 MESSAGE_TYPE_IDENTITY_PUBLISH_REQUEST).length + (utf8 CONTENT_TYPE_CBOR).length = 69 := rfl
  simp only [Message.unsigned_headers, publishing, forged, Option.elim_none, List.length_nil] at hsize ⊢
  omega

theorem publishing_size (hrequest : (cbor.encode request.serialize).length ≤ 32768) :
    (wire (publishing signer request)).length ≤ 131072 := by
  have hsize := (publishing signer request).serialize_length_le
  have hsender := did_length 1
  have hrecipient := did_length 2
  have htexts : (utf8 "m").length + (utf8 default_protocol).length +
      (utf8 MESSAGE_TYPE_IDENTITY_PUBLISH_REQUEST).length + (utf8 CONTENT_TYPE_CBOR).length = 69 := rfl
  have hcodec : (unsigned_varint.encode_u64 CODEC_CBOR).length = 1 := by decide
  have hcontent : (publishing signer request).content.length ≤ 32769 := by
    simp only [publishing, encode_content, multicodec_encode, List.length_append, hcodec]
    omega
  have hsignature : (publishing signer request).signature.length = 64 :=
    (ed25519_sign (secret signer) _).length_val
  have hparts : (utf8 (publishing signer request).id).length + (utf8 (publishing signer request).protocol).length +
      (utf8 (publishing signer request).message_type).length +
        (utf8 (publishing signer request).content_type).length = 69 := htexts
  have hnames : (utf8 (publishing signer request).from).length +
      (utf8 (publishing signer request).to).length ≤ 1024 :=
    Nat.add_le_add hsender hrecipient
  have hreply : ((publishing signer request).reply_to.elim 0 fun id => (utf8 id).length) = 0 := rfl
  unfold wire
  omega

theorem publishing_verifies :
    (publishing signer request).verify_with_document library (some 1000) (claimed 1 signer) = .ok () := by
  have hsignature : (publishing signer request).SignatureVerifies library (claimed 1 signer) :=
    signatureVerifies rfl (claimed_assertion_key 1 signer) (Nat.le_trans publishing_headers_size (by decide))
  exact Message.verify_with_document_eq_ok_iff.mpr ⟨⟨did 1, did_try_from 1, rfl⟩, publishing_headers, hsignature⟩

theorem publishing_payload : (publishing signer request).payload = cbor.encode request.serialize := by
  have hpayload : cbor.encode request.serialize ≠ [] :=
    List.ne_nil_of_length_pos (cbor.encode_length_pos _)
  have hcontent : (publishing signer request).content =
      multicodec_encode CODEC_CBOR (cbor.encode request.serialize) := rfl
  simp only [Message.payload, decode_content, hcontent, multicodec_decode_encode CODEC_CBOR hpayload]

theorem publishing_request (hrequest : (cbor.encode request.serialize).length ≤ 32768) :
    (library.ciborium_from_reader (publishing signer request).payload >>= IdentityPublishRequest.deserialize) =
      .ok request := by
  rw [publishing_payload]
  exact IdentityPublishRequest.from_reader cborRoundTrips
    (Nat.le_trans hrequest (show 32768 ≤ MAX_ALLOCATION by decide))

/-- A request for the document the signer made under the first identity is valid. -/
theorem publishing_valid (hdocument : request.document = cbor.encode (toCbor (claimed 1 signer).serialize))
    (hrequest : (cbor.encode request.serialize).length ≤ 32768) :
    validate_identity_publish_request library (some 1000) (wire (publishing signer request)) =
      .ok ⟨request.document, request.ipns_secret_key, claimed 1 signer, did 1⟩ := by
  have hmessage : Message.decode library (wire (publishing signer request)) = .ok (publishing signer request) :=
    Message.decode_encode cborRoundTrips (encode_eq_wire
      (Nat.le_trans (publishing_size hrequest) (show 131072 ≤ MAX_ALLOCATION by decide)))
  refine bind_eq_ok_iff.mpr ⟨_, map_err_eq_ok_iff.mpr hmessage, ?_⟩
  exact validate_identity_publish_message_eq_ok_iff.mpr {
    message_type := rfl
    payload := publishing_request hrequest
    sender := ⟨did 1, did_try_from 1, rfl⟩
    document := hdocument ▸ claimed_decode 1 signer
    validate := claimed_validate 1 signer
    verify := claimed_verify 1 signer
    document_did := did_try_from 1
    request := publishing_verifies }

end

theorem forgedRequest_size : (cbor.encode forgedRequest.serialize).length ≤ 32768 := by
  have hsize := forgedRequest.serialize_length_le
  have hdocument : forgedRequest.document.length ≤ 8192 := claimed_size 1 2
  have hkey : forgedRequest.ipns_secret_key.length = 32 := (secret 2).length_val
  omega

/-- The second identity's request for the name of the first is valid. -/
theorem forged_valid :
    validate_identity_publish_request library (some 1000) (wire forged) = .ok forgedValidated :=
  publishing_valid rfl forgedRequest_size

/-! The request of the first identity for its own document. -/

def own_request : IdentityPublishRequest where
  document := cbor.encode (toCbor (claimed 1 1).serialize)
  ipns_secret_key := (secret 1).val

theorem own_request_size : (cbor.encode own_request.serialize).length ≤ 32768 := by
  have hsize := own_request.serialize_length_le
  have hdocument : own_request.document.length ≤ 8192 := claimed_size 1 1
  have hkey : own_request.ipns_secret_key.length = 32 := (secret 1).length_val
  omega

end ma_core.reference
