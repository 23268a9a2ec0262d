import MaCore.Doc.Mutation
import MaCore.Doc.Wire
import MaCore.Reference.DagCbor

open rust
open ma_core.error ma_core.did ma_core.key

namespace ma_core.doc

/-- The documents that can be made: new ones, decoded ones, and what calls make of them. -/
inductive Document.Built (lib : Lib) (format : Int → Option String) : Document → Prop
  | new (identity controller : Did) (unix_seconds : UInt64) :
    Built lib format (Document.new identity controller (now_iso_utc format unix_seconds))
  | decode (bytes : Bytes) (document : Document) (hdecode : Document.decode lib bytes = .ok document) :
    Built lib format document
  | mutate (document : Document) (call : Mutation) (hbuilt : Built lib format document) :
    Built lib format (call.apply lib format document)

section
variable {lib : Lib} {format : Int → Option String} {document : Document}

theorem readExtension_ne_null {value : Ipld} {ma : Option Ipld} (hread : readExtension value = .ok ma) :
    ma ≠ some .Null := by
  rintro rfl
  cases value <;> cases hread

theorem Document.deserialize_ma {value : Ipld} (hdocument : Document.deserialize value = .ok document) :
    document.ma ≠ some .Null := by
  obtain ⟨fields, _, _, _, _, _, _, _, _, _, _, hma⟩ := Document.deserialize_eq_ok_iff.mp hdocument
  obtain ⟨found, _, hfound⟩ := serde.bind_eq_ok_iff.mp hma
  cases found with
  | none =>
    rw [← Except.ok.inj hfound]
    simp
  | some value => exact readExtension_ne_null hfound

theorem Document.set_ma_ne_null (ma : Ipld) : (document.set_ma ma).ma ≠ some .Null := by
  unfold Document.set_ma
  split
  · simp
  · simp
  · rename_i hnull _
    simpa using hnull

/-- No document that can be made has an extension that is `null`. -/
theorem Document.Built.ma_ne_null (hbuilt : document.Built lib format) : document.ma ≠ some .Null := by
  induction hbuilt with
  | new => simp [Document.new]
  | decode bytes document hdecode =>
    obtain ⟨value, _, hdocument⟩ := bind_eq_ok_iff.mp hdecode
    exact Document.deserialize_ma (of_library_eq_ok_iff.mp hdocument)
  | mutate document call _ ih =>
    cases call with
    | add_controller controller =>
      refine or_unchanged_of (P := fun d => d.ma ≠ some .Null) ih fun changed hadd => ?_
      obtain ⟨_, ⟨_, rfl⟩ | rfl⟩ := Document.add_controller_eq_ok hadd <;> exact ih
    | add_verification_method method =>
      refine or_unchanged_of (P := fun d => d.ma ≠ some .Null) ih fun changed hadd => ?_
      obtain ⟨_, rfl | rfl⟩ := Document.add_verification_method_eq_ok hadd <;> exact ih
    | set_ma ma => exact Document.set_ma_ne_null ma
    | set_ma_extension ext => exact Document.set_ma_ne_null ext.build
    | clear_ma => simp [Mutation.apply, Document.clear_ma]
    | touch unix_seconds => exact ih
    | sign signing_key verification_method =>
      refine or_unchanged_of (P := fun d => d.ma ≠ some .Null) ih fun changed hsign => ?_
      obtain ⟨_, rfl⟩ := Document.sign_eq_ok hsign
      exact ih

/-- A document that can be made is read back from its encoding, with the same hash and the same
    verdict on its proof. -/
theorem Document.decode_encode_built (hdagcbor : lib.DagCborRoundTrips) (hbuilt : document.Built lib format)
    {bytes : Bytes} (hencode : document.encode lib = .ok bytes) :
    Document.decode lib bytes = .ok document ∧
      ∀ decoded, Document.decode lib bytes = .ok decoded →
        decoded.payload_hash lib = document.payload_hash lib ∧ decoded.verify lib = document.verify lib := by
  have hbytes := hdagcbor _ _ (of_library_eq_ok_iff.mp hencode)
  have hdecode := Document.decode_of_from_slice hbytes hbuilt.ma_ne_null
  refine ⟨hdecode, fun decoded hdecoded => ?_⟩
  rw [hdecode] at hdecoded
  cases hdecoded
  exact ⟨rfl, rfl⟩

end

/-- A new document with a link in its extension. -/
def linked_document : Document :=
  Mutation.apply reference.dagLibrary formats_one_second
    (Document.new ⟨"alice", none⟩ ⟨"alice", none⟩ (now_iso_utc formats_one_second 1786192496))
    (.set_ma (.Map [("icon", .Link [1, 0x55, 0, 0]), ("type", .String "agent")]))

theorem linked_document_encode : ∃ bytes, linked_document.encode reference.dagLibrary = .ok bytes := by
  have hvalue : linked_document.serialize.representable = true := by decide +kernel
  obtain ⟨bytes, hbytes⟩ := (reference.dagCborEncodes _).mpr hvalue
  exact ⟨bytes, of_library_eq_ok_iff.mpr hbytes⟩

theorem Document.decode_encode_built_linked :
    ∃ bytes, linked_document.encode reference.dagLibrary = .ok bytes ∧
      Document.decode reference.dagLibrary bytes = .ok linked_document ∧
      ∀ decoded, Document.decode reference.dagLibrary bytes = .ok decoded →
        decoded.payload_hash reference.dagLibrary = linked_document.payload_hash reference.dagLibrary ∧
        decoded.verify reference.dagLibrary = linked_document.verify reference.dagLibrary := by
  obtain ⟨bytes, hbytes⟩ := linked_document_encode
  exact ⟨bytes, hbytes, Document.decode_encode_built reference.dagCborRoundTrips
    (.mutate _ _ (.new ⟨"alice", none⟩ ⟨"alice", none⟩ 1786192496)) hbytes⟩

end ma_core.doc
