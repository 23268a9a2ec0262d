import MaCore.Doc.Signed
import MaCore.Doc.Usable
import MaCore.Ipfs.Reference

open rust
open ma_core.error ma_core.did ma_core.key ma_core.doc ma_core.multiformat ma_core.service

namespace ma_core.key

/-- A signing key shows the public key of its secret, as both of its constructors make it. -/
def SigningKey.Consistent (lib : Lib) (self : SigningKey) : Prop :=
  self.public_key_multibase =
    public_key_multibase_encode lib CODEC_ED25519_PUB (lib.ed25519_public_key self.secret_key).val

theorem SigningKey.consistent_from_private_key_bytes (lib : Lib) (did : Did) (private_key : ByteArr 32) :
    (SigningKey.from_private_key_bytes lib did private_key).Consistent lib := rfl

end ma_core.key

namespace ma_core.msg

variable {lib : Lib} {clock : Clock} {document : Document} {id : String} {method : VerificationMethod}
  {signing_key : SigningKey} {draft m : Message}

/-- The keys of a document's assertion methods. -/
def assertion_keys (lib : Lib) (document : Document) : Set (ByteArr 32) :=
  { key | ∃ id ∈ document.assertion_method, document.verifying_key_for_method lib id = .ok key }

/-- The method of a signing key holds the public key of its secret. -/
theorem method_key_bytes_of_consistent (hbase58 : lib.Base58RoundTrips)
    (hmethod : document.get_verification_method_by_id id = .ok method)
    (hkey : signing_key.public_key_multibase = method.public_key_multibase)
    (hconsistent : signing_key.Consistent lib) :
    document.method_key_bytes lib id = .ok (lib.ed25519_public_key signing_key.secret_key).val := by
  have hnonempty : (lib.ed25519_public_key signing_key.secret_key).val ≠ [] :=
    List.ne_nil_of_length_eq_add_one (ByteArr.length_val _)
  have hdecode := public_key_multibase_decode_encode hbase58 CODEC_ED25519_PUB hnonempty
  rw [← hconsistent, hkey] at hdecode
  simp only [Document.method_key_bytes, hmethod, hdecode, ok_bind]
  rfl

/-- A message is verified with the key that the first assertion method holds. -/
theorem assertion_key_iff (hvalid : document.Valid lib) {first : String}
    (hfirst : document.assertion_method.head? = some first) (key : ByteArr 32) :
    document.assertion_method_public_key lib = .ok key ↔
      document.method_key_bytes lib first = .ok key.val ∧ lib.ed25519_is_point key = true := by
  rw [Document.assertion_method_public_key, hfirst, ok_or, ok_bind,
    Document.verifying_key_for_method_eq_ok_iff (hvalid.assertions first (List.mem_of_mem_head? hfirst))]

/-- A signed message is the draft with a signature of its headers, which do not have the signature in them. -/
theorem sign_eq_ok (hsign : draft.sign lib signing_key = .ok m) :
    ∃ bytes, m.unsigned_headers_cbor lib = .ok bytes ∧ m.signature = signing_key.sign lib bytes := by
  obtain ⟨bytes, hbytes, hm⟩ := bind_eq_ok_iff.mp hsign
  cases hm
  exact ⟨bytes, hbytes, rfl⟩

/-- What was signed verifies if the first assertion method holds a key under which the signature is valid. -/
theorem signatureVerifies_iff_of_sign (hsign : draft.sign lib signing_key = .ok m) :
    m.SignatureVerifies lib document ↔ ∃ bytes key, m.unsigned_headers_cbor lib = .ok bytes ∧
      document.assertion_method_public_key lib = .ok key ∧
      lib.ed25519_verify key bytes (lib.ed25519_sign signing_key.secret_key bytes) = true := by
  obtain ⟨bytes, hbytes, hsignature⟩ := sign_eq_ok hsign
  have hread : ByteArr.try_from 64 m.signature = some (lib.ed25519_sign signing_key.secret_key bytes) := by
    rw [hsignature]
    exact ByteArr.try_from_val _
  constructor
  · rintro ⟨bytes', signature, key, hbytes', hsignature', hkey, hverify⟩
    rw [hbytes] at hbytes'
    cases hbytes'
    rw [hread] at hsignature'
    cases hsignature'
    exact ⟨bytes, key, hbytes, hkey, hverify⟩
  · rintro ⟨bytes', key, hbytes', hkey, hverify⟩
    rw [hbytes] at hbytes'
    cases hbytes'
    exact ⟨bytes, _, key, hbytes, hread, hkey, hverify⟩

/-- A message signed with the key of any assertion method passes exactly if the first one holds that key,
    while a proof made with it always does. -/
theorem authorised_key_verifies_iff (hed25519 : lib.Ed25519Signs) (hbase58 : lib.Base58RoundTrips)
    (hvalid : document.validate lib = .ok ()) (hid : id ∈ document.assertion_method)
    (hmethod : document.get_verification_method_by_id id = .ok method)
    (hkey : signing_key.public_key_multibase = method.public_key_multibase)
    (hconsistent : signing_key.Consistent lib) (hsign : draft.sign lib signing_key = .ok m)
    (hsent : m.SentBy lib document) (hfresh : (m.headers lib).Valid lib clock)
    (hexclusive : lib.SignsExclusively signing_key.secret_key (assertion_keys lib document)
      { bytes | m.unsigned_headers_cbor lib = .ok bytes }) :
    (m.verify_with_document lib clock document = .ok () ↔
      ∀ first, document.assertion_method.head? = some first →
        document.method_key_bytes lib first = document.method_key_bytes lib id) ∧
    ∀ signed, document.sign lib signing_key method = .ok signed → signed.verify lib = .ok () := by
  have hvalid := Document.validate_eq_ok_iff.mp hvalid
  have hbytes := method_key_bytes_of_consistent hbase58 hmethod hkey hconsistent
  obtain ⟨first, hfirst⟩ : ∃ first, document.assertion_method.head? = some first := by
    rw [← Option.isSome_iff_exists, List.isSome_head?]
    simpa using hvalid.assertion_nonempty
  constructor
  · rw [Message.verify_with_document_eq_ok_iff, signatureVerifies_iff_of_sign hsign]
    constructor
    · rintro ⟨_, _, bytes, key, hunsigned, hassertion, hsigned⟩ _ hhead
      rw [hfirst] at hhead
      cases hhead
      have hmem : key ∈ assertion_keys lib document := by
        rw [Document.assertion_method_public_key, hfirst, ok_or, ok_bind] at hassertion
        exact ⟨first, List.mem_of_mem_head? hfirst, hassertion⟩
      have hsame := hexclusive key hmem bytes hunsigned hsigned
      rw [((assertion_key_iff hvalid hfirst key).mp hassertion).1, hbytes, hsame]
    · intro hsame
      obtain ⟨bytes, hunsigned, _⟩ := sign_eq_ok hsign
      have hassertion := (assertion_key_iff hvalid hfirst (lib.ed25519_public_key signing_key.secret_key)).mpr
        ⟨(hsame first hfirst).trans hbytes, hed25519.is_point _⟩
      exact ⟨hsent, hfresh, bytes, _, hunsigned, hassertion, hed25519.verifies _ _⟩
  · intro signed hproof
    cases Document.id_of_get_verification_method_by_id hmethod
    exact Document.verify_of_sign hed25519 hbase58 hconsistent hid hmethod hproof

/-! A document with two assertion methods, as while a key is replaced. -/

def next_method : VerificationMethod := reference.methodOf 1 2 "#next"

/-- The document of the first identity, which asserts the key of the second after its own. -/
def rotating : Document :=
  let id := (reference.did 1).base_id
  let document := reference.documentOf id (reference.signingKey 1).public_key_multibase
    (reference.encryptionKey 1).public_key_multibase
  { document with
    verification_method := document.verification_method ++ [next_method]
    assertion_method := [id ++ "#sign", id ++ "#next"] }

theorem next_method_resource :
    Did.validate_resource reference.library ((reference.did 1).base_id ++ "#next") = .ok () := by
  have hnext := @reference.did_resource 1 "next" (by decide)
  rw [String.append_assoc] at hnext
  exact hnext

theorem next_method_id_new : ∀ existing ∈ (reference.documentOf (reference.did 1).base_id
    (reference.signingKey 1).public_key_multibase
    (reference.encryptionKey 1).public_key_multibase).verification_method, existing.id ≠ next_method.id := by
  simp [reference.documentOf, next_method, reference.methodOf]

theorem rotating_validate (proof : Proof) :
    ({ rotating with proof } : Document).validate reference.library = .ok () := by
  have hsign := @reference.did_resource 1 "sign" (by decide)
  have henc := @reference.did_resource 1 "enc" (by decide)
  rw [String.append_assoc] at hsign henc
  have hbare : validate_bare_did reference.library (reference.did 1).base_id = .ok () :=
    (validate_bare_did_eq_ok_iff reference.library).mpr ⟨_, reference.did_parse 1⟩
  have hvalid := Document.validate_eq_ok_iff.mp (@reference.documentOf_validate _ _ _ _ _ proof hbare hsign henc
    (reference.signing_key_decode 1) (reference.encryption_key_decode 1) (reference.multibase_encode_nonempty _)
    (reference.multibase_encode_nonempty _))
  have hpushed := hvalid.push_method (@reference.methodOf_validate 1 2 "next" (by decide))
  have hassertion := Document.validate_relationship_append_new next_method_id_new next_method_resource
    (reference.signing_key_decode 2)
  refine Document.validate_eq_ok_iff.mpr { hpushed with
    assertion_nonempty := List.cons_ne_nil _ _, assertions := ?_ }
  intro id hmem
  obtain rfl | hmem := List.mem_cons.mp hmem
  · exact hpushed.assertions _ List.mem_cons_self
  · rw [List.mem_singleton.mp hmem]
    exact hassertion

theorem rotating_assertion_key (proof : Proof) :
    ({ rotating with proof } : Document).assertion_method_public_key reference.library =
      .ok (reference.secret 1) := by
  have hmethod : ({ rotating with proof } : Document).assertion_method.head? =
      some ((reference.did 1).base_id ++ "#sign") := rfl
  have hkey := @reference.documentOf_key (reference.did 1).base_id _
    (reference.encryptionKey 1).public_key_multibase proof _ (reference.signing_key_decode 1)
  rw [Document.assertion_method_public_key, hmethod, ok_or, ok_bind]
  exact @Document.verifying_key_for_method_append _ _ next_method _ _ hkey

theorem valid_with_signature (hvalid : (m.headers lib).Valid lib clock) (signature : Bytes) :
    (({ m with signature } : Message).headers lib).Valid lib clock := hvalid.resign _ _

theorem sign_of_length
    (hlength : (cbor.encode (draft.unsigned_headers lib).serialize).length ≤ MAX_ALLOCATION) :
    ∃ signature, draft.sign lib signing_key = .ok { draft with signature } := by
  have hbytes : draft.unsigned_headers_cbor lib = .ok (cbor.encode (draft.unsigned_headers lib).serialize) :=
    to_vec_eq_ok_iff.mpr ⟨rfl, hlength⟩
  exact ⟨_, bind_eq_ok_iff.mpr ⟨_, hbytes, rfl⟩⟩

/-- A broadcast of the first identity can be signed with any key. -/
theorem broadcast_sign (signer : UInt8) : ∃ m,
    (reference.broadcast 1 "m" 0).sign reference.library (reference.signingKey signer) = .ok m ∧
      m.from = (reference.did 1).base_id ∧ (m.headers reference.library).Valid reference.library (some 1000) := by
  have hlength := (@reference.broadcast_length_le 1 "m" 0 (show 1 ≤ 1024 by decide)).2.2
  have hmax : 4096 ≤ MAX_ALLOCATION := by decide
  have hvalid := @reference.broadcast_valid 1 "m" 0 1000 (show validate_message_id "m" = .ok () by decide)
    (reference.fresh_never (show (1000 : UInt64).toNat + 30 < 2 ^ 64 by decide))
  obtain ⟨signature, hsign⟩ := sign_of_length (Nat.le_trans hlength hmax)
  exact ⟨_, hsign, rfl, valid_with_signature hvalid signature⟩

theorem reference_sign (document : Document) {signing_key : SigningKey} {method : VerificationMethod}
    (hkey : signing_key.public_key_multibase = method.public_key_multibase) :
    ∃ proof, document.sign reference.library signing_key method = .ok { document with proof } :=
  ⟨_, Document.sign_eq_ok_iff.mpr ⟨hkey, _, rfl, rfl⟩⟩

/-- Of the two keys of a document the first verifies a message, and the second only the document. -/
theorem authorised_key_verifies_iff_rotating :
    ∃ m m' signed, (reference.broadcast 1 "m" 0).sign reference.library (reference.signingKey 1) = .ok m ∧
      m.verify_with_document reference.library (some 1000) rotating = .ok () ∧
      (reference.broadcast 1 "m" 0).sign reference.library (reference.signingKey 2) = .ok m' ∧
      m'.verify_with_document reference.library (some 1000) rotating ≠ .ok () ∧
      rotating.sign reference.library (reference.signingKey 2) next_method = .ok signed ∧
      signed.verify reference.library = .ok () := by
  have hdocument : rotating.validate reference.library = .ok () := rotating_validate rotating.proof
  have hfirst : rotating.assertion_method.head? = some ((reference.did 1).base_id ++ "#sign") := rfl
  have hsent {m : Message} (hfrom : m.from = (reference.did 1).base_id) :
      m.SentBy reference.library rotating := by
    unfold Message.SentBy
    rw [hfrom]
    exact ⟨_, reference.did_try_from 1, rfl⟩
  have hmethod : rotating.get_verification_method_by_id ((reference.did 1).base_id ++ "#sign") =
      .ok ⟨(reference.did 1).base_id ++ "#sign", "Multikey", (reference.did 1).base_id,
        (reference.signingKey 1).public_key_multibase⟩ :=
    Document.get_verification_method_by_id_eq_ok_iff.mpr (List.find?_cons_of_pos (beq_self_eq_true _))
  have hnext : rotating.get_verification_method_by_id next_method.id = .ok next_method :=
    Document.get_verification_method_by_id_append_new next_method_id_new
  have hmem : next_method.id ∈ rotating.assertion_method := List.mem_cons_of_mem _ List.mem_cons_self
  obtain ⟨m, hsign, hfrom, hvalid⟩ := broadcast_sign 1
  obtain ⟨m', hsign', hfrom', hvalid'⟩ := broadcast_sign 2
  obtain ⟨proof, hproof⟩ := @reference_sign rotating (reference.signingKey 2) next_method rfl
  obtain ⟨hverifies, _⟩ := authorised_key_verifies_iff reference.library_ed25519Signs
    reference.library_base58RoundTrips hdocument List.mem_cons_self hmethod rfl rfl hsign (hsent hfrom) hvalid
    (reference.signsExclusively _ _ _)
  obtain ⟨hverifies', hproofs⟩ := authorised_key_verifies_iff reference.library_ed25519Signs
    reference.library_base58RoundTrips hdocument hmem hnext rfl rfl hsign' (hsent hfrom') hvalid'
    (reference.signsExclusively _ _ _)
  have hbytes := @method_key_bytes_of_consistent _ _ _ _ (reference.signingKey 1) reference.library_base58RoundTrips
    hmethod rfl rfl
  have hnext_bytes := @method_key_bytes_of_consistent _ _ _ _ (reference.signingKey 2)
    reference.library_base58RoundTrips hnext rfl rfl
  refine ⟨m, m', _, hsign, hverifies.mpr ?_, hsign', ?_, hproof, hproofs _ hproof⟩
  · intro first hhead
    cases hfirst.symm.trans hhead
    rfl
  · intro hverify
    have hsame := hverifies'.mp hverify _ hfirst
    rw [hbytes, hnext_bytes] at hsame
    exact absurd (Except.ok.inj hsame) (show (reference.secret 1).val ≠ (reference.secret 2).val by decide)

/-- A document proof with the second key is accepted, a message signed with it is not. -/
theorem second_assertion_method_rejected :
    ∃ d m, rotating.sign reference.library (reference.signingKey 2) next_method = .ok d ∧
      d.validate reference.library = .ok () ∧ d.verify reference.library = .ok () ∧
      next_method.id ∈ d.assertion_method ∧ d.get_verification_method_by_id next_method.id = .ok next_method ∧
      (reference.signingKey 2).public_key_multibase = next_method.public_key_multibase ∧
      (reference.broadcast 1 "m" 0).sign reference.library (reference.signingKey 2) = .ok m ∧
      m.SentBy reference.library d ∧ (m.headers reference.library).Valid reference.library (some 1000) ∧
      m.verify_with_document reference.library (some 1000) d ≠ .ok () := by
  obtain ⟨m, hsign, hfrom, hvalid⟩ := broadcast_sign 2
  have hkey : (reference.signingKey 2).public_key_multibase = next_method.public_key_multibase := rfl
  obtain ⟨proof, hproof⟩ := reference_sign rotating hkey
  have hmem : next_method.id ∈ rotating.assertion_method := List.mem_cons_of_mem _ List.mem_cons_self
  have hmethod : rotating.get_verification_method_by_id next_method.id = .ok next_method :=
    Document.get_verification_method_by_id_append_new next_method_id_new
  refine ⟨_, m, hproof, rotating_validate _, ?_, hmem, hmethod, hkey, hsign, ?_, hvalid, ?_⟩
  · exact Document.verify_of_sign reference.library_ed25519Signs reference.library_base58RoundTrips rfl hmem
      hmethod hproof
  · unfold Message.SentBy
    rw [hfrom]
    exact ⟨_, reference.did_try_from 1, rfl⟩
  · intro hverify
    obtain ⟨_, _, hsigned⟩ := Message.verify_with_document_eq_ok_iff.mp hverify
    obtain ⟨bytes, key, _, hassertion, hsigned⟩ := (signatureVerifies_iff_of_sign hsign).mp hsigned
    rw [rotating_assertion_key] at hassertion
    cases hassertion
    have hsame := reference.signsExclusively _ {reference.secret 1} {bytes} _ rfl _ rfl hsigned
    exact absurd hsame (show reference.secret 1 ≠ reference.secret 2 by decide)

end ma_core.msg
