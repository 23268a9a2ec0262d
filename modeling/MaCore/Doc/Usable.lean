import MaCore.Doc.Mutation
import MaCore.Msg.Envelope

open rust
open ma_core.error ma_core.did ma_core.key ma_core.multiformat ma_core.msg

namespace ma_core.doc

/-- The key that the method of this id holds, whatever its codec and its length. -/
def Document.method_key_bytes (lib : Lib) (self : Document) (method_id : String) : MaResult Bytes := do
  let vm ← self.get_verification_method_by_id method_id
  let (_, public_key_bytes) ← public_key_multibase_decode lib vm.public_key_multibase
  return public_key_bytes

section
variable {lib : Lib} {document : Document} {method_id : String} {codec : UInt64} {bytes : Bytes}

/-- A relationship that validates names a method whose key is under its codec. -/
theorem Document.method_key_bytes_of_valid
    (hrelationship : document.validate_relationship lib codec method_id = .ok ()) :
    ∃ vm bytes, document.get_verification_method_by_id method_id = .ok vm ∧
      public_key_multibase_decode lib vm.public_key_multibase = .ok (codec, bytes) ∧
      document.method_key_bytes lib method_id = .ok bytes := by
  simp only [Document.validate_relationship, bind_eq_ok_iff, reject_if_eq_ok_iff, bne_eq_false_iff_eq]
    at hrelationship
  obtain ⟨_, _, vm, hvm, ⟨found, bytes⟩, hdecode, rfl⟩ := hrelationship
  refine ⟨vm, bytes, hvm, hdecode, ?_⟩
  simp only [method_key_bytes, hvm, hdecode, ok_bind]
  rfl

/-- Its key can be used exactly if it is 32 bytes long. -/
theorem Document.key_bytes_for_method_ok_iff
    (hrelationship : document.validate_relationship lib codec method_id = .ok ()) (key : ByteArr 32) :
    document.key_bytes_for_method lib method_id codec = .ok key ↔
      document.method_key_bytes lib method_id = .ok key.val := by
  obtain ⟨vm, bytes, hvm, hdecode, hbytes⟩ := Document.method_key_bytes_of_valid hrelationship
  simp only [key_bytes_for_method, hvm, hdecode, hbytes, ok_bind, bne_self_eq_false, reject_if,
    Bool.false_eq_true, if_false, ok_or_eq_ok_iff, ByteArr.try_from_eq_some_iff, Except.ok.injEq]

theorem Document.key_agreement_ok_iff {agreement_id : String}
    (hhead : document.key_agreement.head? = some agreement_id)
    (hrelationship : document.validate_relationship lib CODEC_X25519_PUB agreement_id = .ok ()) :
    (∃ key, document.key_agreement_public_key_bytes lib = .ok key) ↔
      ∀ bytes, document.method_key_bytes lib agreement_id = .ok bytes → bytes.length = 32 := by
  have hkey : ∀ key, document.key_agreement_public_key_bytes lib = .ok key ↔
      document.method_key_bytes lib agreement_id = .ok key.val := by
    intro key
    rw [key_agreement_public_key_bytes, hhead, ok_or, ok_bind,
      Document.key_bytes_for_method_ok_iff hrelationship]
  obtain ⟨_, bytes, _, _, hbytes⟩ := Document.method_key_bytes_of_valid hrelationship
  constructor
  · rintro ⟨key, hok⟩ other hother
    rw [(hkey key).mp hok] at hother
    cases hother
    exact key.length_val
  · intro hlength
    exact ⟨⟨bytes, hlength bytes hbytes⟩, (hkey _).mpr hbytes⟩

theorem Document.verifying_key_for_method_eq_ok_iff
    (hrelationship : document.validate_relationship lib CODEC_ED25519_PUB method_id = .ok ()) (key : ByteArr 32) :
    document.verifying_key_for_method lib method_id = .ok key ↔
      document.method_key_bytes lib method_id = .ok key.val ∧ lib.ed25519_is_point key = true := by
  simp only [verifying_key_for_method, bind_eq_ok_iff, exists_unit, reject_if_eq_ok_iff,
    Document.key_bytes_for_method_ok_iff hrelationship, Bool.not_eq_false']
  constructor
  · rintro ⟨_, hbytes, hpoint, hsame⟩
    cases hsame
    exact ⟨hbytes, hpoint⟩
  · rintro ⟨hbytes, hpoint⟩
    exact ⟨key, hbytes, hpoint, rfl⟩

theorem Document.verifying_key_ok_iff
    (hrelationship : document.validate_relationship lib CODEC_ED25519_PUB method_id = .ok ()) :
    (∃ key, document.verifying_key_for_method lib method_id = .ok key) ↔
      ∀ bytes, document.method_key_bytes lib method_id = .ok bytes →
        ∃ key : ByteArr 32, key.val = bytes ∧ lib.ed25519_is_point key = true := by
  have hkey := Document.verifying_key_for_method_eq_ok_iff hrelationship
  obtain ⟨_, bytes, _, _, hbytes⟩ := Document.method_key_bytes_of_valid hrelationship
  constructor
  · rintro ⟨key, hok⟩ other hother
    obtain ⟨hval, hpoint⟩ := (hkey key).mp hok
    rw [hval] at hother
    cases hother
    exact ⟨key, rfl, hpoint⟩
  · intro husable
    obtain ⟨key, rfl, hpoint⟩ := husable bytes hbytes
    exact ⟨key, (hkey key).mpr ⟨hbytes, hpoint⟩⟩

/-- The keys of a valid document can be used exactly if the one its first key agreement names is 32
    bytes long, and those of its assertion methods are 32 bytes that are a point. -/
theorem Document.usable_iff (hvalid : document.validate lib = .ok ()) :
    ((∃ key, document.key_agreement_public_key_bytes lib = .ok key) ∧
        ∀ id ∈ document.assertion_method, ∃ key, document.verifying_key_for_method lib id = .ok key) ↔
      (∀ id bytes, document.key_agreement.head? = some id → document.method_key_bytes lib id = .ok bytes →
        bytes.length = 32) ∧
      ∀ id ∈ document.assertion_method, ∀ bytes, document.method_key_bytes lib id = .ok bytes →
        ∃ key : ByteArr 32, key.val = bytes ∧ lib.ed25519_is_point key = true := by
  have hvalid := Document.validate_eq_ok_iff.mp hvalid
  obtain ⟨agreement_id, hhead⟩ : ∃ id, document.key_agreement.head? = some id := by
    rw [← Option.isSome_iff_exists, List.isSome_head?]
    simpa using hvalid.agreement_nonempty
  have hagreement := hvalid.agreements agreement_id (List.mem_of_mem_head? hhead)
  rw [Document.key_agreement_ok_iff hhead hagreement]
  refine and_congr ?_ (forall₂_congr fun id hid =>
    Document.verifying_key_ok_iff (hvalid.assertions id hid))
  constructor
  · intro hlength id bytes hid
    rw [hhead] at hid
    cases hid
    exact hlength bytes
  · intro hlength bytes
    exact hlength agreement_id bytes hhead

end

theorem Document.usable_iff_claimed :
    (reference.claimed 1 1).validate reference.library = .ok () ∧
      (((∃ key, (reference.claimed 1 1).key_agreement_public_key_bytes reference.library = .ok key) ∧
          ∀ id ∈ (reference.claimed 1 1).assertion_method,
            ∃ key, (reference.claimed 1 1).verifying_key_for_method reference.library id = .ok key) ↔
        (∀ id bytes, (reference.claimed 1 1).key_agreement.head? = some id →
          (reference.claimed 1 1).method_key_bytes reference.library id = .ok bytes → bytes.length = 32) ∧
        ∀ id ∈ (reference.claimed 1 1).assertion_method, ∀ bytes,
          (reference.claimed 1 1).method_key_bytes reference.library id = .ok bytes →
            ∃ key : ByteArr 32, key.val = bytes ∧ reference.library.ed25519_is_point key = true) :=
  ⟨reference.claimed_validate 1 1, Document.usable_iff (reference.claimed_validate 1 1)⟩

/-- A key that lacks a byte. -/
def short_key : Bytes := List.replicate 31 7

/-- The document of an identity with such a key for key agreement. -/
def short_key_document : Document :=
  reference.signedDocument 1 (reference.documentOf (reference.did 1).base_id
    (reference.signingKey 1).public_key_multibase
    (public_key_multibase_encode reference.library CODEC_X25519_PUB short_key))

theorem short_key_decode :
    public_key_multibase_decode reference.library
      (public_key_multibase_encode reference.library CODEC_X25519_PUB short_key) =
        .ok (CODEC_X25519_PUB, short_key) :=
  reference.public_key_multibase_decode_encode _ (by decide)

/-- A document of this form cannot agree on a key of another length. -/
theorem documentOf_key_agreement {id signing_key encryption_key : String} {proof : Proof} {bytes : Bytes}
    (hdecode : public_key_multibase_decode reference.library encryption_key = .ok (CODEC_X25519_PUB, bytes))
    (hlength : bytes.length ≠ 32) :
    ({ reference.documentOf id signing_key encryption_key with proof } : Document).key_agreement_public_key_bytes
      reference.library = Err (.InvalidKeyLength 32 bytes.length) := by
  have hnone : ByteArr.try_from 32 bytes = none := dif_neg hlength
  simp [reference.documentOf, Document.key_agreement_public_key_bytes, Document.key_bytes_for_method,
    Document.get_verification_method_by_id, hdecode, hnone, ok_or, reject_if]

/-- It validates and verifies, and nobody can enclose a message for it. -/
theorem short_key_document_unusable :
    short_key_document.validate reference.library = .ok () ∧
      short_key_document.verify reference.library = .ok () ∧
      short_key_document.key_agreement_public_key_bytes reference.library = Err (.InvalidKeyLength 32 31) ∧
      ∀ (message : Message) clock ephemeral_secret headers_nonce content_nonce envelope,
        message.enclose_for reference.library clock ephemeral_secret headers_nonce content_nonce
          short_key_document ≠ .ok envelope := by
  have hkey : short_key_document.key_agreement_public_key_bytes reference.library =
      Err (.InvalidKeyLength 32 31) :=
    documentOf_key_agreement short_key_decode (by decide)
  refine ⟨?_, ?_, hkey, ?_⟩
  · have hsign := @reference.did_resource 1 "sign" (by decide)
    have henc := @reference.did_resource 1 "enc" (by decide)
    rw [String.append_assoc] at hsign henc
    exact reference.documentOf_validate
      ((validate_bare_did_eq_ok_iff reference.library).mpr ⟨_, reference.did_parse 1⟩) hsign henc
      (reference.signing_key_decode 1) short_key_decode (reference.multibase_encode_nonempty _)
      (reference.multibase_encode_nonempty _)
  · exact reference.signedDocument_verify rfl (by simp [reference.documentOf])
      (reference.documentOf_key (reference.signing_key_decode 1))
      (reference.public_key_multibase_decode_encode _
        (List.ne_nil_of_length_eq_add_one (reference.ed25519_sign (reference.secret 1) _).length_val))
  · intro message clock ephemeral_secret headers_nonce content_nonce envelope henclose
    simp only [Message.enclose_for, bind_eq_ok_iff, hkey] at henclose
    obtain ⟨_, _, _, hok, _⟩ := henclose
    cases hok

end ma_core.doc
