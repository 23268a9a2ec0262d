import MaCore.Identity.Build
import MaCore.Ipfs.Reference

open rust
open ma_core.error ma_core.did ma_core.key ma_core.multiformat

namespace ma_core.doc

/-- No two methods share an id or a public key. -/
def Document.DistinctMethods (document : Document) : Prop :=
  (document.verification_method.map (·.id)).Nodup ∧
    (document.verification_method.map (·.public_key_multibase)).Nodup

/-- The id of a method is found with its key. -/
def Document.Finds (document : Document) (method : VerificationMethod) : Prop :=
  ∃ found, document.get_verification_method_by_id method.id = .ok found ∧
    found.public_key_multibase = method.public_key_multibase

/-- What is found in a document is found after a change, and methods that are distinct stay so. -/
structure Document.KeepsMethods (document changed : Document) : Prop where
  kept : ∀ id found, document.get_verification_method_by_id id = .ok found →
    changed.get_verification_method_by_id id = .ok found
  distinct : document.DistinctMethods → changed.DistinctMethods

/-- The id is found with the key, or both are free. -/
def Document.Accommodates (document : Document) (method : VerificationMethod) : Prop :=
  document.Finds method ∨
    ∀ existing ∈ document.verification_method,
      existing.id ≠ method.id ∧ existing.public_key_multibase ≠ method.public_key_multibase

variable {lib : Lib} {document changed : Document} {method : VerificationMethod}

/-- A method whose id or key is there already is not added, and not refused. -/
theorem Document.add_verification_method_duplicate {existing : VerificationMethod}
    (hvalid : method.validate lib = .ok ()) (hmem : existing ∈ document.verification_method)
    (hsame : existing.id = method.id ∨ existing.public_key_multibase = method.public_key_multibase) :
    document.add_verification_method lib method = .ok document := by
  have hduplicate : document.verification_method.any (fun existing =>
      existing.id == method.id || existing.public_key_multibase == method.public_key_multibase) = true := by
    rw [List.any_eq_true]
    exact ⟨existing, hmem, by simpa using hsame⟩
  rw [Document.add_verification_method, hvalid, ok_bind, hduplicate]
  rfl

theorem nodup_map_append {α β : Type} {f : α → β} {items : List α} {item : α} (hnodup : (items.map f).Nodup)
    (hnew : ∀ existing ∈ items, f existing ≠ f item) : ((items ++ [item]).map f).Nodup := by
  rw [List.map_append, List.map_singleton, List.nodup_append]
  refine ⟨hnodup, List.nodup_singleton _, fun value hmem other hother => ?_⟩
  obtain ⟨existing, hexisting, rfl⟩ := List.mem_map.mp hmem
  rw [List.mem_singleton.mp hother]
  exact hnew existing hexisting

theorem Document.DistinctMethods.append (hdistinct : document.DistinctMethods)
    (hnew : ∀ existing ∈ document.verification_method,
      existing.id ≠ method.id ∧ existing.public_key_multibase ≠ method.public_key_multibase) :
    ({ document with verification_method := document.verification_method ++ [method] } :
      Document).DistinctMethods :=
  ⟨nodup_map_append hdistinct.1 fun existing hmem => (hnew existing hmem).1,
    nodup_map_append hdistinct.2 fun existing hmem => (hnew existing hmem).2⟩

/-- Unless both its id and its key are free, a method changes nothing. -/
theorem Document.add_verification_method_new_or_unchanged
    (hadd : document.add_verification_method lib method = .ok changed) :
    (∀ existing ∈ document.verification_method,
      existing.id ≠ method.id ∧ existing.public_key_multibase ≠ method.public_key_multibase) ∨
      changed = document := by
  by_cases hnew : ∀ existing ∈ document.verification_method,
      existing.id ≠ method.id ∧ existing.public_key_multibase ≠ method.public_key_multibase
  · exact .inl hnew
  · obtain ⟨existing, hmem, hsame⟩ : ∃ existing ∈ document.verification_method,
        existing.id = method.id ∨ existing.public_key_multibase = method.public_key_multibase := by
      simpa [or_iff_not_imp_left] using hnew
    have hvalid := (Document.add_verification_method_eq_ok hadd).1
    rw [Document.add_verification_method_duplicate hvalid hmem hsame] at hadd
    exact .inr (Except.ok.inj hadd).symm

/-- A method that is added without an error is found exactly if the document accommodates it; otherwise the
    document is left as it is. In either case no method is lost and none becomes ambiguous. -/
theorem Document.add_verification_method_effective_iff
    (hadd : document.add_verification_method lib method = .ok changed) :
    document.KeepsMethods changed ∧ (changed.Finds method ↔ document.Accommodates method) ∧
      (¬ document.Accommodates method → changed = document) := by
  obtain hnew | rfl := Document.add_verification_method_new_or_unchanged hadd
  · cases Document.add_verification_method_new hadd hnew
    have hkeeps : document.KeepsMethods
        { document with verification_method := document.verification_method ++ [method] } := {
      kept := fun id found hget => Document.get_verification_method_by_id_append hget
      distinct := fun hdistinct => hdistinct.append hnew }
    have hfound := Document.get_verification_method_by_id_append_new fun existing hmem => (hnew existing hmem).1
    refine ⟨hkeeps, ⟨fun _ => .inr hnew, fun _ => ⟨method, hfound, rfl⟩⟩, ?_⟩
    intro hcollides
    exact absurd (.inr hnew) hcollides
  · refine ⟨⟨fun _ _ hget => hget, fun hdistinct => hdistinct⟩, ⟨.inl, ?_⟩, fun _ => rfl⟩
    intro haccommodates
    obtain hfinds | hnew := haccommodates
    · exact hfinds
    · -- A method that is new would have been appended.
      have hsame := congrArg (·.verification_method) (Document.add_verification_method_new hadd hnew)
      exact absurd hsame (by simp)

theorem Document.add_verification_method_effective_iff_next :
    ∃ changed, (reference.claimed 1 1).add_verification_method reference.library
        (reference.methodOf 1 2 "#next") = .ok changed ∧
      (reference.claimed 1 1).KeepsMethods changed ∧
      (changed.Finds (reference.methodOf 1 2 "#next") ↔
        (reference.claimed 1 1).Accommodates (reference.methodOf 1 2 "#next")) := by
  have hvalid : (reference.methodOf 1 2 "#next").validate reference.library = .ok () :=
    @reference.methodOf_validate 1 2 "next" (by decide)
  have hadd : (reference.claimed 1 1).add_verification_method reference.library
      (reference.methodOf 1 2 "#next") = .ok _ := bind_eq_ok_iff.mpr ⟨(), hvalid, rfl⟩
  obtain ⟨hkeeps, hfinds, _⟩ := Document.add_verification_method_effective_iff hadd
  exact ⟨_, hadd, hkeeps, hfinds⟩

/-- Neither a new key under an id that is taken nor a known key under a new id is added, and neither is
    refused. -/
theorem Document.one_field_taken :
    ((reference.claimed 1 1).add_verification_method reference.library (reference.methodOf 1 2 "#sign") =
        .ok (reference.claimed 1 1) ∧
      ¬ (reference.claimed 1 1).Finds (reference.methodOf 1 2 "#sign")) ∧
    (reference.claimed 1 1).add_verification_method reference.library (reference.methodOf 1 1 "#next") =
        .ok (reference.claimed 1 1) ∧
      ¬ (reference.claimed 1 1).Finds (reference.methodOf 1 1 "#next") := by
  have hmem : reference.methodOf 1 1 "#sign" ∈ (reference.claimed 1 1).verification_method := List.mem_cons_self
  refine ⟨⟨?_, ?_⟩, ?_, ?_⟩
  · exact Document.add_verification_method_duplicate (@reference.methodOf_validate 1 2 "sign" (by decide)) hmem
      (.inl rfl)
  · intro hfinds
    obtain ⟨found, hget, hkey⟩ := hfinds
    have hfirst : (reference.claimed 1 1).get_verification_method_by_id (reference.methodOf 1 2 "#sign").id =
        .ok (reference.methodOf 1 1 "#sign") :=
      Document.get_verification_method_by_id_eq_ok_iff.mpr (List.find?_cons_of_pos (beq_self_eq_true _))
    rw [hfirst] at hget
    cases hget
    exact absurd (reference.signing_key_injective hkey) (by decide)
  · exact Document.add_verification_method_duplicate (@reference.methodOf_validate 1 1 "next" (by decide)) hmem
      (.inr rfl)
  · intro hfinds
    obtain ⟨found, hget, _⟩ := hfinds
    simp [Document.get_verification_method_by_id, reference.claimed, reference.signedDocument,
      reference.documentOf, reference.methodOf, ok_or] at hget

end ma_core.doc
