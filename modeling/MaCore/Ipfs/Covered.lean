import MaCore.Doc.Declared
import MaCore.Doc.RoundTrip
import MaCore.Ipfs.Publish

open rust
open ma_core.error ma_core.did ma_core.key ma_core.doc ma_core.msg ma_core.service

namespace ma_core.ipfs

/-- The block is what the document is encoded to, so each of its fields is the proof or among those the
    proof signs. -/
structure ValidatedIdentityPublish.Covered (lib : Lib) (validated : ValidatedIdentityPublish) : Prop where
  encoded : validated.document.encode lib = .ok validated.document_bytes
  signed : ∀ fields, lib.dagcbor_from_slice validated.document_bytes = .ok (.Map fields) →
    ∀ entry ∈ fields, entry.1 = "proof" ∨
      ∃ payload, validated.document.payload_document.serialize = .Map payload ∧ entry ∈ payload

/-- The bytes the library writes for a value that has the declared fields only. -/
def CanonicalDocument (lib : Lib) (bytes : Bytes) : Prop :=
  ∃ value, lib.dagcbor_from_slice bytes = .ok value ∧ lib.dagcbor_to_vec value = .ok bytes ∧
    Document.Declared value

section
variable {lib : Lib} {document : Document} {bytes : Bytes}

/-- A document that decoded encodes to the same bytes exactly if they are canonical. -/
theorem encode_eq_iff_canonical (hdagcbor : lib.DagCborRoundTrips)
    (hdecode : Document.decode lib bytes = .ok document) :
    document.encode lib = .ok bytes ↔ CanonicalDocument lib bytes := by
  obtain ⟨value, hvalue, hdocument⟩ := bind_eq_ok_iff.mp hdecode
  rw [of_library_eq_ok_iff] at hvalue hdocument
  constructor
  · intro hencode
    have hbytes := of_library_eq_ok_iff.mp hencode
    exact ⟨document.serialize, hdagcbor _ _ hbytes, hbytes,
      Document.declared_serialize (Document.deserialize_ma hdocument)⟩
  · rintro ⟨written, hwritten, hbytes, hdeclared⟩
    rw [hvalue] at hwritten
    cases hwritten
    rw [Document.serialize_of_declared hdocument hdeclared] at hbytes
    exact of_library_eq_ok_iff.mpr hbytes

/-- The block of an accepted message is covered by the verified proof exactly if the message carries it
    in canonical form. -/
theorem validate_identity_publish_message_covered_iff {clock : Clock} {message : Message}
    {request : IdentityPublishRequest} {validated : ValidatedIdentityPublish} (hdagcbor : lib.DagCborRoundTrips)
    (hrequest : (lib.ciborium_from_reader message.payload >>= IdentityPublishRequest.deserialize) = .ok request)
    (hvalid : validate_identity_publish_message lib clock message = .ok validated) :
    validated.Covered lib ↔ CanonicalDocument lib request.document := by
  have hvalid := validate_identity_publish_message_eq_ok_iff.mp hvalid
  have hbytes : validated.document_bytes = request.document := by
    rw [hvalid.payload] at hrequest
    cases hrequest
    rfl
  rw [← hbytes, ← encode_eq_iff_canonical hdagcbor hvalid.document]
  constructor
  · exact ValidatedIdentityPublish.Covered.encoded
  · intro hencode
    refine ⟨hencode, fun fields hfields entry hentry =>
      (Document.mem_payload_document ?_ hentry).imp_left (congrArg Prod.fst)⟩
    rw [hdagcbor _ _ (of_library_eq_ok_iff.mp hencode)] at hfields
    exact Except.ok.inj hfields

end

/-! A message whose document carries a field of its own. -/

/-- What the document of the first identity is serialized to, with a key that is not a field. -/
def padded_value : Ipld :=
  match (reference.claimed 1 1).serialize with
  | .Map fields => .Map (fields ++ [("zzz", .Bool true)])
  | value => value

def padded_request : IdentityPublishRequest where
  document := cbor.encode (reference.toCbor padded_value)
  ipns_secret_key := (reference.secret 1).val

def padded_validated : ValidatedIdentityPublish where
  document_bytes := padded_request.document
  ipns_secret_key := padded_request.ipns_secret_key
  document := reference.claimed 1 1
  document_did := reference.did 1

theorem padded_value_eq : ∃ fields, (reference.claimed 1 1).serialize = .Map fields ∧
    padded_value = .Map (fields ++ [("zzz", .Bool true)]) := ⟨_, rfl, rfl⟩

theorem padded_representable : padded_value.representable = true := by decide +kernel

theorem padded_bytes : padded_request.document = cbor.encode (reference.toCbor padded_value) := rfl

theorem padded_decode :
    Document.decode reference.dagLibrary padded_request.document = .ok (reference.claimed 1 1) := by
  have hvalue := reference.dagLibrary_from_slice padded_representable
  rw [← padded_bytes] at hvalue
  have hdocument : Document.deserialize padded_value = .ok (reference.claimed 1 1) := by
    have hma : (reference.claimed 1 1).ma ≠ some .Null := show none ≠ some Ipld.Null by simp
    obtain ⟨fields, hfields, hpadded⟩ := padded_value_eq
    rw [hpadded, Document.deserialize_append_other (by decide), ← hfields]
    exact Document.deserialize_serialize hma
  exact bind_eq_ok_iff.mpr ⟨_, of_library_eq_ok_iff.mpr hvalue, of_library_eq_ok_iff.mpr hdocument⟩

theorem padded_request_size : (cbor.encode padded_request.serialize).length ≤ 32768 := by
  obtain ⟨fields, hfields, hpadded⟩ := padded_value_eq
  have hsize := padded_request.serialize_length_le
  have hclaimed := reference.claimed_size 1 1
  have hdocument := reference.encode_map_append_length_le fields [("zzz", .Bool true)]
  have hother : (cbor.encode (reference.toCbor (.Map [("zzz", .Bool true)]))).length = 6 := by decide
  have hkey : padded_request.ipns_secret_key.length = 32 := (reference.secret 1).length_val
  rw [← hpadded, ← padded_bytes] at hdocument
  rw [hfields] at hclaimed
  omega

theorem padded_payload :
    (reference.dagLibrary.ciborium_from_reader (reference.publishing 1 padded_request).payload >>=
      IdentityPublishRequest.deserialize) = .ok padded_request := by
  have hreader : reference.dagLibrary.ciborium_from_reader = reference.library.ciborium_from_reader := rfl
  rw [hreader]
  exact reference.publishing_request padded_request_size

theorem padded_request_verifies :
    (reference.publishing 1 padded_request).verify_with_document reference.dagLibrary (some 1000)
      (reference.claimed 1 1) = .ok () := by
  rw [reference.verify_with_document_dagLibrary]
  exact reference.publishing_verifies

/-- A message whose document carries an unknown field is accepted. -/
theorem padded_valid :
    validate_identity_publish_message reference.dagLibrary (some 1000) (reference.publishing 1 padded_request) =
      .ok padded_validated :=
  validate_identity_publish_message_eq_ok_iff.mpr {
    message_type := rfl
    payload := padded_payload
    sender := ⟨reference.did 1, reference.did_try_from 1, rfl⟩
    document := padded_decode
    validate := (reference.validate_dagLibrary _).trans (reference.claimed_validate 1 1)
    verify := (reference.verify_dagLibrary (by decide +kernel)).trans (reference.claimed_verify 1 1)
    document_did := reference.did_try_from 1
    request := padded_request_verifies }

/-- Its bytes are not canonical. -/
theorem padded_not_canonical : ¬ CanonicalDocument reference.dagLibrary padded_request.document := by
  rintro ⟨value, hvalue, _, hdeclared⟩
  rw [padded_bytes, reference.dagLibrary_from_slice padded_representable] at hvalue
  cases hvalue
  obtain ⟨fields, _, hpadded⟩ := padded_value_eq
  have hunknown {keys : List String} (hkeys : HasKeys keys padded_value) : "zzz" ∈ keys := by
    obtain ⟨entries, hentries, rfl⟩ := hkeys
    rw [hpadded] at hentries
    cases hentries
    simp
  rcases hdeclared.keys with hkeys | hkeys
  · exact absurd (hunknown hkeys) (by decide)
  · exact absurd (hunknown hkeys) (by decide)

theorem validate_identity_publish_message_covered_iff_padded : ¬ padded_validated.Covered reference.dagLibrary :=
  fun hcovered => padded_not_canonical
    ((validate_identity_publish_message_covered_iff reference.dagCborRoundTrips padded_payload padded_valid).mp
      hcovered)

/-- What is published is not what the document encodes to, and a field of it is not signed. -/
theorem unknown_field_is_published :
    validate_identity_publish_message reference.dagLibrary (some 1000) (reference.publishing 1 padded_request) =
        .ok padded_validated ∧
      padded_validated.document.encode reference.dagLibrary ≠ .ok padded_validated.document_bytes ∧
      ∃ fields, reference.dagLibrary.dagcbor_from_slice padded_validated.document_bytes = .ok (.Map fields) ∧
        ("zzz", .Bool true) ∈ fields ∧
        ∀ payload, padded_validated.document.payload_document.serialize = .Map payload →
          ("zzz", .Bool true) ∉ payload := by
  obtain ⟨fields, _, hpadded⟩ := padded_value_eq
  have hslice := reference.dagLibrary_from_slice padded_representable
  have hblock : padded_validated.document_bytes = padded_request.document := rfl
  rw [← padded_bytes, ← hblock, hpadded] at hslice
  refine ⟨padded_valid, fun hencode => ?_, _, hslice, by simp, fun payload hpayload hmem => ?_⟩
  · exact padded_not_canonical ((encode_eq_iff_canonical reference.dagCborRoundTrips padded_decode).mp hencode)
  · have hkeys : payload.map Prod.fst = Document.keys.erase "ma" := by
      cases hpayload
      rfl
    have hkey : "zzz" ∈ payload.map Prod.fst := List.mem_map_of_mem hmem
    rw [hkeys] at hkey
    exact absurd hkey (by decide)

end ma_core.ipfs
