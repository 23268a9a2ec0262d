import MaCore.Msg.Validate
import MaCore.Msg.Wire
import MaCore.Reference

open rust
open ma_core.error ma_core.doc

namespace ma_core.msg

/-- Two messages have the same fields, and contents with the same hash. -/
structure SameSigned (lib : Lib) (left right : Message) : Prop where
  id : left.id = right.id
  protocol : left.protocol = right.protocol
  message_type : left.message_type = right.message_type
  «from» : left.from = right.from
  «to» : left.to = right.to
  created_at : left.created_at = right.created_at
  exp : left.exp = right.exp
  content_type : left.content_type = right.content_type
  reply_to : left.reply_to = right.reply_to
  content : lib.blake3_hash left.content = lib.blake3_hash right.content

section
variable {lib : Lib} {clock clock' : Clock} {m m' : Message} {bytes : Bytes} {document : Document}

/-- Headers are told apart by their bytes. -/
theorem Headers.to_cbor_injective {left right : Headers} (hleft : to_cbor left.serialize = .ok bytes)
    (hright : to_cbor right.serialize = .ok bytes) : left = right := by
  have hmax : MAX_ALLOCATION < 2 ^ 64 := by decide
  have hfits {headers : Headers} (hbytes : to_cbor headers.serialize = .ok bytes) :
      headers.serialize.Fits 256 ∧ cbor.encode headers.serialize = bytes := by
    obtain ⟨hencode, hlength⟩ := to_vec_eq_ok_iff.mp hbytes
    exact ⟨cbor.Value.fits_of_length headers.serialize_depth_le (by omega), hencode.symm⟩
  obtain ⟨hleft_fits, hleft_bytes⟩ := hfits hleft
  obtain ⟨hright_fits, hright_bytes⟩ := hfits hright
  have hvalue : left.serialize = right.serialize :=
    cbor.encode_injective hleft_fits hright_fits (hleft_bytes.trans hright_bytes.symm)
  have hread := Headers.deserialize_serialize left
  rw [hvalue, Headers.deserialize_serialize] at hread
  exact (Except.ok.inj hread).symm

theorem sameSigned_of_bytes (hleft : m.unsigned_headers_cbor lib = .ok bytes)
    (hright : m'.unsigned_headers_cbor lib = .ok bytes) : SameSigned lib m m' := by
  have hheaders : m.unsigned_headers lib = m'.unsigned_headers lib := Headers.to_cbor_injective hleft hright
  simp only [Message.unsigned_headers, Headers.mk.injEq, content_hash] at hheaders
  obtain ⟨hid, hprotocol, htype, hfrom, hto, hcreated, hexp, hcontent_type, hreply, hcontent, _⟩ := hheaders
  exact ⟨hid, hprotocol, htype, hfrom, hto, hcreated, hexp, hcontent_type, hreply, hcontent⟩

/-- The content hash alone makes headers longer than a hash. -/
theorem Headers.length_gt (headers : Headers) : 32 < (cbor.encode headers.serialize).length := by
  have hlength : headers.content_hash.val.length < (cbor.encode headers.serialize).length :=
    cbor.structValue_length_gt (List.mem_append_right _ List.mem_cons_self)
  rwa [headers.content_hash.length_val] at hlength

/-- Two messages with the same signature that verify with one document are one message. -/
theorem eq_of_sameSigned (hsigned : SameSigned lib m m') (hcontent : m.content = m'.content)
    (hsignature : m.signature = m'.signature) : m = m' := by
  obtain ⟨hid, hprotocol, htype, hfrom, hto, hcreated, hexp, hcontent_type, hreply, _⟩ := hsigned
  cases m
  cases m'
  simp_all

theorem signed_bytes_eq {signed : Set Bytes} (hsigns : lib.SignsOnce signed)
    (hleft : m.verify_with_document lib clock document = .ok ())
    (hright : m'.verify_with_document lib clock' document = .ok ())
    (hsignature : m.signature = m'.signature)
    (hsigned : ∀ bytes, m.unsigned_headers_cbor lib = .ok bytes ∨ m'.unsigned_headers_cbor lib = .ok bytes →
      bytes ∈ signed) :
    ∃ bytes, m.unsigned_headers_cbor lib = .ok bytes ∧ m'.unsigned_headers_cbor lib = .ok bytes := by
  obtain ⟨_, _, bytes, signature, key, hbytes, hsig, hkey, hverify⟩ :=
    Message.verify_with_document_eq_ok_iff.mp hleft
  obtain ⟨_, _, bytes', signature', key', hbytes', hsig', hkey', hverify'⟩ :=
    Message.verify_with_document_eq_ok_iff.mp hright
  rw [← hsignature, hsig] at hsig'
  cases hsig'
  rw [hkey] at hkey'
  cases hkey'
  have heq := hsigns key signature bytes (hsigned bytes (.inl hbytes)) bytes' (hsigned bytes' (.inr hbytes'))
    hverify hverify'
  exact ⟨bytes, hbytes, heq ▸ hbytes'⟩

/-- A signature binds every field of a message: the bytes signed determine them
    and the hash of the content, they are never those of a document, and a
    signature that verifies for two messages with one document is for one. -/
theorem signature_binds {hashed signed : Set Bytes} (hhashes : lib.HashesInjectively hashed)
    (hsigns : lib.SignsOnce signed) :
    (∀ (m m' : Message) (bytes : Bytes), m.unsigned_headers_cbor lib = .ok bytes →
      m'.unsigned_headers_cbor lib = .ok bytes → SameSigned lib m m') ∧
    (∀ (m : Message) (bytes : Bytes), m.unsigned_headers_cbor lib = .ok bytes →
      32 < bytes.length ∧
        ∀ (document : Document) (hash : ByteArr 32), document.payload_hash lib = .ok hash → bytes ≠ hash.val) ∧
    ∀ (m m' : Message) (document : Document) (clock clock' : Clock), m.content ∈ hashed → m'.content ∈ hashed →
      (∀ bytes, m.unsigned_headers_cbor lib = .ok bytes ∨ m'.unsigned_headers_cbor lib = .ok bytes →
        bytes ∈ signed) →
      m.verify_with_document lib clock document = .ok () →
      m'.verify_with_document lib clock' document = .ok () →
      m.signature = m'.signature → m = m' := by
  refine ⟨fun m m' bytes => sameSigned_of_bytes, ?_, ?_⟩
  · intro m bytes hbytes
    obtain ⟨rfl, _⟩ := to_vec_eq_ok_iff.mp hbytes
    have hlength := (m.unsigned_headers lib).length_gt
    refine ⟨hlength, fun document hash _ hsame => ?_⟩
    have hhash := hash.length_val
    rw [← hsame] at hhash
    omega
  · intro m m' document clock clock' hcontent hcontent' hsigned hleft hright hsignature
    obtain ⟨bytes, hbytes, hbytes'⟩ := signed_bytes_eq hsigns hleft hright hsignature hsigned
    have hsame := sameSigned_of_bytes hbytes hbytes'
    exact eq_of_sameSigned hsame (hhashes hcontent hcontent' hsame.content) hsignature

end

/-! Two broadcasts of one sender. -/

def first_broadcast : Message := reference.broadcast 1 "m" 0

def signed_by_first (draft : Message) : Message := { draft with
  signature := (reference.signingKey 1).sign reference.library
    (cbor.encode (draft.unsigned_headers reference.library).serialize) }

/-- It has another content, and a signature for that. -/
def second_broadcast : Message := signed_by_first { first_broadcast with content := encode_content 0 [104] }

theorem signed_by_first_signature (draft : Message) : (signed_by_first draft).signature =
    (reference.signingKey 1).sign reference.library
      (cbor.encode ((signed_by_first draft).unsigned_headers reference.library).serialize) := rfl

theorem broadcast_bytes {m : Message} (hm : m = first_broadcast ∨ m = second_broadcast) :
    m.unsigned_headers_cbor reference.library =
      .ok (cbor.encode (m.unsigned_headers reference.library).serialize) := by
  refine to_vec_eq_ok_iff.mpr ⟨rfl, ?_⟩
  obtain rfl | rfl := hm <;> decide +kernel

theorem broadcast_verified {m : Message} (hm : m = first_broadcast ∨ m = second_broadcast) :
    m.verify_with_document reference.library (some 1000) (reference.document 1) = .ok () := by
  have hvalid : (first_broadcast.headers reference.library).Valid reference.library (some 1000) :=
    reference.broadcast_valid (by decide) (reference.fresh_never (by decide))
  obtain ⟨_, hlength⟩ := to_vec_eq_ok_iff.mp (broadcast_bytes hm)
  have hkey := reference.document_key 1
  have hsent : m.SentBy reference.library (reference.document 1) := by
    obtain rfl | rfl := hm <;> exact ⟨_, reference.did_try_from 1, rfl⟩
  have hheaders : (m.headers reference.library).Valid reference.library (some 1000) := by
    obtain rfl | rfl := hm
    · exact hvalid
    · exact hvalid.resign _ _
  have hsignature : m.SignatureVerifies reference.library (reference.document 1) := by
    obtain rfl | rfl := hm
    · exact reference.signatureVerifies rfl hkey hlength
    · exact reference.signatureVerifies (signed_by_first_signature _) hkey hlength
  exact Message.verify_with_document_eq_ok_iff.mpr ⟨hsent, hheaders, hsignature⟩

/-- Among their bytes a signature is valid for one. -/
theorem broadcasts_signsOnce : reference.library.SignsOnce
    {cbor.encode (first_broadcast.unsigned_headers reference.library).serialize,
      cbor.encode (second_broadcast.unsigned_headers reference.library).serialize} := by
  have hdigests : reference.digest 32 (cbor.encode (first_broadcast.unsigned_headers reference.library).serialize) ≠
      reference.digest 32 (cbor.encode (second_broadcast.unsigned_headers reference.library).serialize) := by
    decide +kernel
  intro key signature left hleft right hright hverify hverify'
  have hsame : reference.ed25519_sign key left = reference.ed25519_sign key right :=
    (of_decide_eq_true hverify).symm.trans (of_decide_eq_true hverify')
  have hdigest : reference.digest 32 left = reference.digest 32 right :=
    Subtype.ext (List.append_cancel_left (congrArg Subtype.val hsame))
  obtain rfl | rfl := hleft
  · obtain rfl | rfl := hright
    · rfl
    · exact absurd hdigest hdigests
  · obtain rfl | rfl := hright
    · exact absurd hdigest.symm hdigests
    · rfl

/-- Without its signature the first is the same signed message; the second is signed otherwise. -/
theorem signature_binds_broadcasts :
    SameSigned reference.library first_broadcast { first_broadcast with signature := [] } ∧
      32 < (cbor.encode (first_broadcast.unsigned_headers reference.library).serialize).length ∧
      first_broadcast.verify_with_document reference.library (some 1000) (reference.document 1) = .ok () ∧
      second_broadcast.verify_with_document reference.library (some 1000) (reference.document 1) = .ok () ∧
      first_broadcast.signature ≠ second_broadcast.signature := by
  have hcontents : first_broadcast.content ≠ second_broadcast.content := by decide +kernel
  have hhashes : reference.library.HashesInjectively {first_broadcast.content, second_broadcast.content} := by
    rw [Lib.HashesInjectively, Set.injOn_pair]
    intro hsame
    exact absurd hsame (by decide +kernel)
  have hbytes := broadcast_bytes (.inl rfl)
  have hbytes' := broadcast_bytes (.inr rfl)
  have hverified := broadcast_verified (.inl rfl)
  have hverified' := broadcast_verified (.inr rfl)
  obtain ⟨hsigned, hlonger, hone⟩ := signature_binds hhashes broadcasts_signsOnce
  refine ⟨hsigned first_broadcast _ _ hbytes hbytes, (hlonger first_broadcast _ hbytes).1, hverified, hverified', ?_⟩
  intro hsame
  have heq := hone first_broadcast second_broadcast (reference.document 1) (some 1000) (some 1000) (.inl rfl)
    (.inr rfl) ?_ hverified hverified' hsame
  · exact hcontents (congrArg Message.content heq)
  · rintro bytes (hsigned | hsigned)
    · exact .inl (Except.ok.inj (hsigned.symm.trans hbytes))
    · exact .inr (Except.ok.inj (hsigned.symm.trans hbytes'))

end ma_core.msg
