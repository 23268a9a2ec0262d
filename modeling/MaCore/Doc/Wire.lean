import MaCore.Doc

open rust
open ma_core.error

namespace ma_core.doc

theorem readList_map {α : Type} {read : Ipld → Except String α} {write : α → Ipld}
    (hread : ∀ a, read (write a) = .ok a) (items : List α) :
    readList read (.List (items.map write)) = .ok items := by
  simp only [readList]
  induction items with
  | nil => rfl
  | cons item items ih => simp [hread, ih]

@[simp] theorem readList_strings (items : List String) :
    readList readString (strings items) = .ok items :=
  @readList_map String readString .String (fun _ => rfl) items

@[simp] theorem VerificationMethod.deserialize_serialize (vm : VerificationMethod) :
    VerificationMethod.deserialize vm.serialize = .ok vm := by
  simp [VerificationMethod.deserialize, VerificationMethod.serialize, readMap, readString,
    serde.required, serde.field, pure, Except.pure]

@[simp] theorem Proof.deserialize_serialize (proof : Proof) :
    Proof.deserialize proof.serialize = .ok proof := by
  simp [Proof.deserialize, Proof.serialize, readMap, readString, serde.required, serde.field, pure,
    Except.pure]

theorem readMap_eq_ok_iff {value : Ipld} {entries : List (String × Ipld)} :
    readMap value = .ok entries ↔ value = .Map entries := by
  cases value <;> simp [readMap]

/-- What a document is read from: a map with its fields. -/
theorem Document.deserialize_eq_ok_iff {value : Ipld} {document : Document} :
    Document.deserialize value = .ok document ↔ ∃ fields, value = .Map fields ∧
      serde.required fields "@context" (readList readString) = .ok document.context ∧
      serde.required fields "id" readString = .ok document.id ∧
      serde.required fields "controller" (readList readString) = .ok document.controller ∧
      serde.required fields "verificationMethod" (readList VerificationMethod.deserialize) =
        .ok document.verification_method ∧
      serde.required fields "assertionMethod" (readList readString) = .ok document.assertion_method ∧
      serde.required fields "keyAgreement" (readList readString) = .ok document.key_agreement ∧
      serde.required fields "proof" Proof.deserialize = .ok document.proof ∧
      serde.required fields "createdAt" readString = .ok document.created_at ∧
      serde.required fields "updatedAt" readString = .ok document.updated_at ∧
      serde.defaulted fields "ma" none readExtension = .ok document.ma := by
  simp only [Document.deserialize, serde.bind_eq_ok_iff, readMap_eq_ok_iff]
  constructor
  · rintro ⟨fields, hfields, _, hcontext, _, hid, _, hcontroller, _, hmethods, _, hassertion, _, hagreement,
      _, hproof, _, hcreated, _, hupdated, _, hma, hdocument⟩
    cases hdocument
    exact ⟨fields, hfields, hcontext, hid, hcontroller, hmethods, hassertion, hagreement, hproof, hcreated,
      hupdated, hma⟩
  · rintro ⟨fields, hfields, hcontext, hid, hcontroller, hmethods, hassertion, hagreement, hproof, hcreated,
      hupdated, hma⟩
    exact ⟨fields, hfields, _, hcontext, _, hid, _, hcontroller, _, hmethods, _, hassertion, _, hagreement,
      _, hproof, _, hcreated, _, hupdated, _, hma, rfl⟩

/-- A document is read back from what it is serialized to, but for an extension
    that is `null`, which is read as none. -/
theorem Document.deserialize_serialize {document : Document} (hma : document.ma ≠ some .Null) :
    Document.deserialize document.serialize = .ok document := by
  have hmethods := readList_map VerificationMethod.deserialize_serialize document.verification_method
  have hcontext := readList_strings document.context
  obtain ⟨fields, hfields⟩ : ∃ fields, document.serialize = .Map fields := ⟨_, rfl⟩
  have hnodup : (fields.map Prod.fst).Nodup := by
    cases hfields
    cases document.ma with
    | none => exact (show List.Nodup ["@context", "assertionMethod", "controller", "createdAt", "id", "keyAgreement",
        "proof", "updatedAt", "verificationMethod"] by decide)
    | some value => exact (show List.Nodup ["@context", "assertionMethod", "controller", "createdAt", "id",
        "keyAgreement", "ma", "proof", "updatedAt", "verificationMethod"] by decide)
  have hrequired {α : Type} {read : Ipld → Except String α} {a : α} (name : String) {value : Ipld}
      (hread : read value = .ok a) (hmem : (name, value) ∈ fields) : serde.required fields name read = .ok a := by
    rw [serde.required_of_mem hnodup hmem, hread]
  have hextension : serde.defaulted fields "ma" none readExtension = .ok document.ma := by
    cases hsome : document.ma with
    | none =>
      refine serde.defaulted_of_absent ?_
      cases hfields
      simp [hsome]
    | some value =>
      rw [@serde.defaulted_of_mem _ _ fields "ma" value _ _ hnodup]
      · cases value with
        | Null => exact absurd hsome hma
        | _ => rfl
      · cases hfields
        simp [hsome]
  refine Document.deserialize_eq_ok_iff.mpr ⟨fields, hfields, hrequired "@context" hcontext ?_,
    hrequired "id" (show readString (.String document.id) = .ok document.id from rfl) ?_,
    hrequired "controller" (readList_strings document.controller) ?_,
    hrequired "verificationMethod" hmethods ?_,
    hrequired "assertionMethod" (readList_strings document.assertion_method) ?_,
    hrequired "keyAgreement" (readList_strings document.key_agreement) ?_,
    hrequired "proof" (Proof.deserialize_serialize document.proof) ?_,
    hrequired "createdAt" (show readString (.String document.created_at) = .ok document.created_at from rfl) ?_,
    hrequired "updatedAt" (show readString (.String document.updated_at) = .ok document.updated_at from rfl) ?_,
    hextension⟩
  all_goals
    cases hfields
    simp

/-- Bytes that carry a serialized document decode to it. -/
theorem Document.decode_of_from_slice {lib : Lib} {document : Document} {bytes : Bytes}
    (hbytes : lib.dagcbor_from_slice bytes = .ok document.serialize)
    (hma : document.ma ≠ some .Null) : Document.decode lib bytes = .ok document := by
  unfold Document.decode
  simp only [hbytes, of_library, ok_bind, Document.deserialize_serialize hma]

end ma_core.doc
