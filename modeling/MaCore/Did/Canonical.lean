import MaCore.Did
import MaCore.Laws
import MaCore.Reference

open rust
open ma_core.error

namespace ma_core.did

/-- A nanoid: a text over `[A-Za-z0-9_-]` that is not empty. -/
def IsNanoid (input : String) : Prop := input ≠ "" ∧ ∀ c ∈ input.toList, is_nanoid_char c = true

theorem validate_fragment_eq_ok_iff {input : String} : validate_fragment input = .ok () ↔ IsNanoid input := by
  simp only [validate_fragment, reject_if_eq_ok_iff, Bool.or_eq_false_iff, String.isEmpty_eq_false_iff,
    Bool.not_eq_false', List.all_eq_true, IsNanoid]

namespace Did

/-- A DID that a text can name. -/
structure WellFormed (lib : Lib) (did : Did) : Prop where
  identifier : validate_identifier lib did.ipns = .ok ()
  fragment : ∀ fragment, did.fragment = some fragment → IsNanoid fragment

end Did

section
variable {lib : Lib} {ipns fragment input : String} {did : Did}

/-- An identifier is spelled in base36. -/
theorem identifier_no_hash (hhash : lib.Base36NoHash) (hipns : validate_identifier lib ipns = .ok ()) :
    '#' ∉ ipns.toList := by
  simp only [validate_identifier, bind_eq_ok_iff, reject_if_eq_ok_iff, Bool.or_eq_false_iff,
    bne_eq_false_iff_eq] at hipns
  obtain ⟨_, _, cid, _, _, ⟨_, hspelling⟩, _⟩ := hipns
  rw [← hspelling]
  exact hhash _

theorem identifier_ne_empty (hipns : validate_identifier lib ipns = .ok ()) : ipns ≠ "" := by
  simp only [validate_identifier, bind_eq_ok_iff, reject_if_eq_ok_iff] at hipns
  exact String.isEmpty_eq_false_iff.mp hipns.choose_spec.1

namespace Did

theorem id_url (ipns fragment : String) : id ⟨ipns, some fragment⟩ = DID_PREFIX ++ ipns ++ "#" ++ fragment := rfl

/-- What a text was parsed from is its parts, well formed and printed. -/
theorem WellFormed.of_parse (hparse : parse lib input = .ok (did.ipns, did.fragment)) :
    did.WellFormed lib ∧ input = did.id := by
  obtain ⟨ipns, fragment⟩ := did
  simp only [parse, bind_eq_ok_iff, ok_or_eq_ok_iff, stripPrefix_eq_some_iff] at hparse
  obtain ⟨_, _, stripped, rfl, hparts⟩ := hparse
  split at hparts
  · cases hparts
  · cases hparts
  · rename_i identifier hempty hsplit
    simp only [bind_eq_ok_iff, exists_unit] at hparts
    obtain ⟨hidentifier, hresult⟩ := hparts
    cases hresult
    have hstripped : [stripped] = [ipns] := (split_eq_singleton (split_singleton_absent hsplit)).symm.trans hsplit
    cases hstripped
    exact ⟨⟨hidentifier, fun _ hsome => by cases hsome⟩, rfl⟩
  · rename_i identifier text hsplit
    simp only [bind_eq_ok_iff, exists_unit] at hparts
    obtain ⟨hidentifier, hfragment, hresult⟩ := hparts
    cases hresult
    refine ⟨⟨hidentifier, ?_⟩, ?_⟩
    · intro _ hsome
      cases hsome
      exact validate_fragment_eq_ok_iff.mp hfragment
    · rw [@split_pair_eq _ _ "#" _ _ rfl hsplit, id_url]
      simp only [String.append_assoc]
  · cases hparts

/-- A well-formed DID is parsed from its text. -/
theorem WellFormed.parse_id (hhash : lib.Base36NoHash) (hdid : did.WellFormed lib) :
    parse lib did.id = .ok (did.ipns, did.fragment) := by
  obtain ⟨ipns, fragment⟩ := did
  have hidentifier := identifier_no_hash hhash hdid.identifier
  cases fragment with
  | none => exact parse_base_id hdid.identifier (identifier_ne_empty hdid.identifier) hidentifier
  | some fragment =>
    exact parse_url hdid.identifier hidentifier (validate_fragment_eq_ok_iff.mpr (hdid.fragment fragment rfl))

theorem try_from_iff (hhash : lib.Base36NoHash) :
    try_from lib input = .ok did ↔ did.WellFormed lib ∧ input = did.id := by
  rw [try_from_eq_ok_iff]
  constructor
  · exact WellFormed.of_parse
  · rintro ⟨hdid, rfl⟩
    exact hdid.parse_id hhash

theorem new_identity_eq_ok_iff : new_identity lib ipns = .ok did ↔ did.WellFormed lib ∧ did = ⟨ipns, none⟩ := by
  simp only [new_identity, bind_eq_ok_iff, exists_unit]
  constructor
  · rintro ⟨hidentifier, hdid⟩
    cases hdid
    exact ⟨⟨hidentifier, fun _ hsome => by cases hsome⟩, rfl⟩
  · rintro ⟨hdid, rfl⟩
    exact ⟨hdid.identifier, rfl⟩

theorem new_url_eq_ok_iff {given : Option String} {nanoid : String} :
    new_url lib ipns given nanoid = .ok did ↔ did.WellFormed lib ∧ did = ⟨ipns, some (given.getD nanoid)⟩ := by
  simp only [new_url, bind_eq_ok_iff, exists_unit]
  constructor
  · rintro ⟨hidentifier, hfragment, hdid⟩
    cases hdid
    refine ⟨⟨hidentifier, ?_⟩, rfl⟩
    intro _ hsome
    cases hsome
    exact validate_fragment_eq_ok_iff.mp hfragment
  · rintro ⟨hdid, rfl⟩
    exact ⟨hdid.identifier, validate_fragment_eq_ok_iff.mpr (hdid.fragment _ rfl), rfl⟩

theorem validate_identity_eq_ok_iff :
    validate_identity lib input = .ok () ↔ ∃ did, try_from lib input = .ok did ∧ did.fragment = none := by
  simp only [validate_identity, bind_eq_ok_iff, try_from_eq_ok_iff]
  constructor
  · rintro ⟨⟨ipns, fragment⟩, hparse, hnone⟩
    cases fragment with
    | none => exact ⟨⟨ipns, none⟩, hparse, rfl⟩
    | some fragment => cases hnone
  · rintro ⟨⟨ipns, fragment⟩, hparse, rfl⟩
    exact ⟨_, hparse, rfl⟩

theorem validate_resource_eq_ok_iff :
    validate_resource lib input = .ok () ↔ ∃ did, try_from lib input = .ok did ∧ did.fragment ≠ none := by
  simp only [validate_resource, bind_eq_ok_iff, try_from_eq_ok_iff]
  constructor
  · rintro ⟨⟨ipns, fragment⟩, hparse, hsome⟩
    cases fragment with
    | none => cases hsome
    | some fragment => exact ⟨⟨ipns, some fragment⟩, hparse, Option.some_ne_none fragment⟩
  · rintro ⟨⟨ipns, fragment⟩, hparse, hsome⟩
    obtain ⟨fragment, rfl⟩ := Option.ne_none_iff_exists'.mp hsome
    exact ⟨_, hparse, rfl⟩

/-- A text is a DID exactly if it is an identifier after the prefix, or that and a nanoid after a `#`. It prints
    as it was, as does what was built, and it is either an identity or a resource. -/
theorem text_canonical (hhash : lib.Base36NoHash) :
    (∀ input, (∃ did, try_from lib input = .ok did) ↔
      (∃ ipns, validate_identifier lib ipns = .ok () ∧ input = "did:ma:" ++ ipns) ∨
      ∃ ipns fragment, validate_identifier lib ipns = .ok () ∧ IsNanoid fragment ∧
        input = "did:ma:" ++ ipns ++ "#" ++ fragment) ∧
    (∀ input did, try_from lib input = .ok did → did.id = input) ∧
    (∀ did : Did, ((∃ ipns, new_identity lib ipns = .ok did) ∨
      (∃ ipns fragment nanoid, new_url lib ipns fragment nanoid = .ok did) ∨
      (∃ (base : Did) (fragment : String), base.with_fragment lib fragment = .ok did)) →
        try_from lib did.id = .ok did) ∧
    ∀ input, ((∃ did, try_from lib input = .ok did) ↔
        validate_identity lib input = .ok () ∨ validate_resource lib input = .ok ()) ∧
      ¬ (validate_identity lib input = .ok () ∧ validate_resource lib input = .ok ()) := by
  refine ⟨?_, ?_, ?_, ?_⟩
  · intro input
    constructor
    · rintro ⟨⟨ipns, fragment⟩, hdid⟩
      obtain ⟨hwell, hinput⟩ := (try_from_iff hhash).mp hdid
      cases fragment with
      | none => exact .inl ⟨ipns, hwell.identifier, hinput⟩
      | some fragment => exact .inr ⟨ipns, fragment, hwell.identifier, hwell.fragment fragment rfl, hinput⟩
    · rintro (⟨ipns, hidentifier, hinput⟩ | ⟨ipns, fragment, hidentifier, hfragment, hinput⟩)
      · refine ⟨⟨ipns, none⟩, (try_from_iff hhash).mpr ⟨⟨hidentifier, ?_⟩, hinput⟩⟩
        intro _ hsome
        cases hsome
      · refine ⟨⟨ipns, some fragment⟩, (try_from_iff hhash).mpr ⟨⟨hidentifier, ?_⟩, hinput⟩⟩
        intro _ hsome
        cases hsome
        exact hfragment
  · intro input did hdid
    exact ((try_from_iff hhash).mp hdid).2.symm
  · intro did hbuilt
    have hwell : did.WellFormed lib := by
      obtain ⟨ipns, hnew⟩ | ⟨ipns, fragment, nanoid, hnew⟩ | ⟨base, fragment, hnew⟩ := hbuilt
      · exact (new_identity_eq_ok_iff.mp hnew).1
      · exact (new_url_eq_ok_iff.mp hnew).1
      · exact (new_url_eq_ok_iff.mp hnew).1
    exact (try_from_iff hhash).mpr ⟨hwell, rfl⟩
  · intro input
    rw [validate_identity_eq_ok_iff, validate_resource_eq_ok_iff]
    constructor
    · constructor
      · rintro ⟨did, hdid⟩
        by_cases hbare : did.fragment = none
        · exact .inl ⟨did, hdid, hbare⟩
        · exact .inr ⟨did, hdid, hbare⟩
      · rintro (⟨did, hdid, _⟩ | ⟨did, hdid, _⟩)
        · exact ⟨did, hdid⟩
        · exact ⟨did, hdid⟩
    · rintro ⟨⟨did, hdid, hbare⟩, ⟨other, hother, hsome⟩⟩
      cases hdid.symm.trans hother
      exact hsome hbare

end Did

end

/-- The inbox of an agent, as text and as a DID. -/
theorem text_canonical_inbox :
    Did.try_from reference.library ("did:ma:" ++ reference.ipns 1 ++ "#" ++ "inbox") =
      .ok ⟨reference.ipns 1, some "inbox"⟩ ∧
    Did.validate_resource reference.library ("did:ma:" ++ reference.ipns 1 ++ "#" ++ "inbox") = .ok () := by
  obtain ⟨_, hprints, hbuilt, hkinds⟩ := Did.text_canonical reference.base36NoHash
  have hchars : "inbox".toList.all is_nanoid_char = true := by decide
  have hinbox : IsNanoid "inbox" := ⟨by decide, List.all_eq_true.mp hchars⟩
  have hnew : Did.new_url reference.library (reference.ipns 1) (some "inbox") "inbox" =
      .ok ⟨reference.ipns 1, some "inbox"⟩ := by
    refine Did.new_url_eq_ok_iff.mpr ⟨⟨reference.validate_identifier_ipns 1, ?_⟩, rfl⟩
    intro _ hsome
    cases hsome
    exact hinbox
  have hread := hbuilt _ (.inr (.inl ⟨_, _, _, hnew⟩))
  refine ⟨hread, ?_⟩
  obtain hidentity | hresource := (hkinds _).1.mp ⟨_, hread⟩
  · obtain ⟨did, hdid, hbare⟩ := Did.validate_identity_eq_ok_iff.mp hidentity
    cases hread.symm.trans hdid
    cases hbare
  · exact hresource

end ma_core.did
