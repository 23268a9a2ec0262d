import MaCore.Doc.Extension
import MaCore.Ipfs.Reference

open rust
open ma_core.error ma_core.did ma_core.key ma_core.multiformat

namespace ma_core.doc

/-- `now_iso_utc` on a clock that reads `unix_seconds`; `format` is what the time library makes of a
    number of seconds, if it can. -/
def now_iso_utc (format : Int → Option String) (unix_seconds : UInt64) : String :=
  ((if unix_seconds.toNat < 2 ^ 63 then some (unix_seconds.toNat : Int) else none).bind format).getD
    "1970-01-01T00:00:00Z"

/-- The time library writes whole seconds in UTC, and its parser accepts that. -/
def FormatsUtc (lib : Lib) (format : Int → Option String) : Prop :=
  (∀ seconds text, format seconds = some text → is_valid_rfc3339_utc lib text = true) ∧
    lib.rfc3339_parses "1970-01-01T00:00:00Z" = true

namespace Document

def add_controller (lib : Lib) (self : Document) (controller : String) : MaResult Document := do
  Did.validate lib controller
  return if self.controller.contains controller then self
    else { self with controller := self.controller ++ [controller] }

def clear_ma (self : Document) : Document := { self with ma := none }

/-- `touch` at the time `now_iso_utc` returns. -/
def touch (self : Document) (now_iso_utc : String) : Document := { self with updated_at := now_iso_utc }

end Document

/-- A call that changes a document, with its arguments; a call of `touch` with what the clock reads. -/
inductive Mutation where
  | add_controller (controller : String)
  | add_verification_method (method : VerificationMethod)
  | set_ma (ma : Ipld)
  | set_ma_extension (ext : MaExtension)
  | clear_ma
  | touch (unix_seconds : UInt64)
  | sign (signing_key : SigningKey) (verification_method : VerificationMethod)

/-- What a call that may fail leaves of the document: one that returns an error changes nothing. -/
def or_unchanged (document : Document) : MaResult Document → Document
  | .ok changed => changed
  | .error _ => document

/-- The document after a call. -/
def Mutation.apply (lib : Lib) (format : Int → Option String) (document : Document) : Mutation → Document
  | add_controller controller => or_unchanged document (document.add_controller lib controller)
  | add_verification_method method => or_unchanged document (document.add_verification_method lib method)
  | set_ma ma => document.set_ma ma
  | set_ma_extension ext => document.set_ma_extension ext
  | clear_ma => document.clear_ma
  | touch unix_seconds => document.touch (now_iso_utc format unix_seconds)
  | sign signing_key verification_method =>
    or_unchanged document (document.sign lib signing_key verification_method)

section
variable {lib : Lib} {format : Int → Option String} {document changed : Document}

/-- A property of documents holds after a call that may fail if it holds where the call succeeds. -/
theorem or_unchanged_of {P : Document → Prop} {result : MaResult Document} (hbefore : P document)
    (hok : ∀ changed, result = .ok changed → P changed) : P (or_unchanged document result) := by
  cases result with
  | ok changed => exact hok changed rfl
  | error _ => exact hbefore

theorem now_iso_utc_valid (hformat : FormatsUtc lib format) (unix_seconds : UInt64) :
    is_valid_rfc3339_utc lib (now_iso_utc format unix_seconds) = true := by
  have hepoch : is_valid_rfc3339_utc lib "1970-01-01T00:00:00Z" = true := by
    rw [is_valid_rfc3339_utc, hformat.2]
    decide
  unfold now_iso_utc
  cases htext : (if unix_seconds.toNat < 2 ^ 63 then some (unix_seconds.toNat : Int) else none).bind format with
  | none => rwa [Option.getD_none]
  | some text =>
    obtain ⟨seconds, _, hseconds⟩ := Option.bind_eq_some_iff.mp htext
    rw [Option.getD_some]
    exact hformat.1 seconds text hseconds

/-- What `validate` checks of a document. -/
structure Document.Valid (lib : Lib) (document : Document) : Prop where
  context : document.context = DEFAULT_DID_CONTEXT
  id : validate_bare_did lib document.id = .ok ()
  controller_nonempty : document.controller ≠ []
  controller : ∀ controller ∈ document.controller, validate_bare_did lib controller = .ok ()
  created_at : is_valid_rfc3339_utc lib document.created_at = true
  updated_at : is_valid_rfc3339_utc lib document.updated_at = true
  methods : ∀ method ∈ document.verification_method, method.validate lib = .ok ()
  assertion_nonempty : document.assertion_method ≠ []
  agreement_nonempty : document.key_agreement ≠ []
  assertions : ∀ id ∈ document.assertion_method,
    document.validate_relationship lib CODEC_ED25519_PUB id = .ok ()
  agreements : ∀ id ∈ document.key_agreement,
    document.validate_relationship lib CODEC_X25519_PUB id = .ok ()

theorem Document.validate_eq_ok_iff : document.validate lib = .ok () ↔ document.Valid lib := by
  unfold Document.validate Document.validate_relationships
  simp only [bind_eq_ok_iff, exists_unit, reject_if_eq_ok_iff, forM_eq_ok_iff, bne_eq_false_iff_eq,
    Bool.not_eq_false', List.isEmpty_eq_false_iff]
  constructor
  · rintro ⟨hcontext, hid, hsome, hcontroller, hcreated, hupdated, hmethods, hassertion, hagreement,
      hassertions, hagreements⟩
    exact ⟨hcontext, hid, hsome, hcontroller, hcreated, hupdated, hmethods, hassertion, hagreement,
      hassertions, hagreements⟩
  · intro hvalid
    exact ⟨hvalid.context, hvalid.id, hvalid.controller_nonempty, hvalid.controller, hvalid.created_at,
      hvalid.updated_at, hvalid.methods, hvalid.assertion_nonempty, hvalid.agreement_nonempty,
      hvalid.assertions, hvalid.agreements⟩

theorem Document.Valid.with_ma (hvalid : document.Valid lib) (ma : Option Ipld) :
    ({ document with ma } : Document).Valid lib :=
  ⟨hvalid.context, hvalid.id, hvalid.controller_nonempty, hvalid.controller, hvalid.created_at,
    hvalid.updated_at, hvalid.methods, hvalid.assertion_nonempty, hvalid.agreement_nonempty,
    hvalid.assertions, hvalid.agreements⟩

theorem Document.Valid.with_proof (hvalid : document.Valid lib) (proof : Proof) :
    ({ document with proof } : Document).Valid lib :=
  ⟨hvalid.context, hvalid.id, hvalid.controller_nonempty, hvalid.controller, hvalid.created_at,
    hvalid.updated_at, hvalid.methods, hvalid.assertion_nonempty, hvalid.agreement_nonempty,
    hvalid.assertions, hvalid.agreements⟩

theorem Document.Valid.touch (hvalid : document.Valid lib) {now : String}
    (hnow : is_valid_rfc3339_utc lib now = true) : (document.touch now).Valid lib :=
  ⟨hvalid.context, hvalid.id, hvalid.controller_nonempty, hvalid.controller, hvalid.created_at,
    hnow, hvalid.methods, hvalid.assertion_nonempty, hvalid.agreement_nonempty,
    hvalid.assertions, hvalid.agreements⟩

theorem Document.Valid.set_ma (hvalid : document.Valid lib) (ma : Ipld) : (document.set_ma ma).Valid lib := by
  unfold Document.set_ma
  split
  · exact hvalid.with_ma none
  · exact hvalid.with_ma none
  · exact hvalid.with_ma (some ma)

theorem Document.sign_eq_ok {signing_key : SigningKey} {verification_method : VerificationMethod}
    (hsign : document.sign lib signing_key verification_method = .ok changed) :
    ∃ proof, changed = { document with proof } := by
  unfold Document.sign at hsign
  simp only [bind_eq_ok_iff] at hsign
  obtain ⟨_, _, _, _, hchanged⟩ := hsign
  cases hchanged
  exact ⟨_, rfl⟩

theorem Document.add_controller_eq_ok {controller : String}
    (hadd : document.add_controller lib controller = .ok changed) :
    (∃ parts, Did.parse lib controller = .ok parts) ∧
      (controller ∈ document.controller ∧ changed = document ∨
        changed = { document with controller := document.controller ++ [controller] }) := by
  unfold Document.add_controller at hadd
  rw [bind_eq_ok_iff] at hadd
  obtain ⟨⟨⟩, hdid, hchanged⟩ := hadd
  refine ⟨Did.validate_eq_ok_iff.mp hdid, ?_⟩
  split at hchanged
  · rename_i hfound
    cases hchanged
    exact .inl ⟨List.contains_iff_mem.mp hfound, rfl⟩
  · cases hchanged
    exact .inr rfl

/-- Whatever parses as a DID is added. -/
theorem Document.mem_add_controller (document : Document) {controller : String} {parts : String × Option String}
    (hparse : Did.parse lib controller = .ok parts) :
    ∃ changed, document.add_controller lib controller = .ok changed ∧ controller ∈ changed.controller := by
  have hvalidate : Did.validate lib controller = .ok () := Did.validate_eq_ok_iff.mpr ⟨parts, hparse⟩
  unfold Document.add_controller
  rw [hvalidate, ok_bind]
  refine ⟨_, rfl, ?_⟩
  split
  · rename_i hfound
    exact List.contains_iff_mem.mp hfound
  · exact List.mem_append_right _ List.mem_cons_self

theorem Document.get_verification_method_by_id_eq_ok_iff {method_id : String} {method : VerificationMethod} :
    document.get_verification_method_by_id method_id = .ok method ↔
      document.verification_method.find? (fun method => method.id == method_id) = some method :=
  ok_or_eq_ok_iff

/-- A lookup finds a method of that identifier. -/
theorem Document.id_of_get_verification_method_by_id {method_id : String} {method : VerificationMethod}
    (hget : document.get_verification_method_by_id method_id = .ok method) : method.id = method_id := by
  have hfound := List.find?_some (Document.get_verification_method_by_id_eq_ok_iff.mp hget)
  exact beq_iff_eq.mp hfound

theorem Document.add_verification_method_eq_ok {method : VerificationMethod}
    (hadd : document.add_verification_method lib method = .ok changed) :
    method.validate lib = .ok () ∧
      (changed = document ∨
        changed = { document with verification_method := document.verification_method ++ [method] }) := by
  unfold Document.add_verification_method at hadd
  rw [bind_eq_ok_iff] at hadd
  obtain ⟨⟨⟩, hmethod, hchanged⟩ := hadd
  refine ⟨hmethod, ?_⟩
  cases hchanged
  split
  · exact .inl rfl
  · exact .inr rfl

section
variable {method : VerificationMethod} {id : String}

/-- What is found is found with a method more at the end, -/
theorem Document.get_verification_method_by_id_append {found : VerificationMethod}
    (hget : document.get_verification_method_by_id id = .ok found) :
    ({ document with verification_method := document.verification_method ++ [method] } :
      Document).get_verification_method_by_id id = .ok found := by
  rw [Document.get_verification_method_by_id_eq_ok_iff] at hget ⊢
  rw [List.find?_append, hget, Option.some_or]

/-- which itself is found if its id is new. -/
theorem Document.get_verification_method_by_id_append_new
    (hnew : ∀ existing ∈ document.verification_method, existing.id ≠ method.id) :
    ({ document with verification_method := document.verification_method ++ [method] } :
      Document).get_verification_method_by_id method.id = .ok method := by
  have hnone : document.verification_method.find? (fun existing => existing.id == method.id) = none := by
    rw [List.find?_eq_none]
    intro existing hmem
    simpa using hnew existing hmem
  rw [Document.get_verification_method_by_id_eq_ok_iff, List.find?_append, hnone, Option.none_or]
  exact List.find?_cons_of_pos (beq_self_eq_true _)

/-- A method added at the end hides none of those before it. -/
theorem Document.validate_relationship_append {codec : UInt64}
    (hrelationship : document.validate_relationship lib codec id = .ok ()) :
    ({ document with verification_method := document.verification_method ++ [method] } :
      Document).validate_relationship lib codec id = .ok () := by
  simp only [Document.validate_relationship, bind_eq_ok_iff] at hrelationship ⊢
  obtain ⟨⟨⟩, hid, found, hfound, hcodec⟩ := hrelationship
  exact ⟨(), hid, found, Document.get_verification_method_by_id_append hfound, hcodec⟩

theorem Document.verifying_key_for_method_append {key : ByteArr 32}
    (hkey : document.verifying_key_for_method lib id = .ok key) :
    ({ document with verification_method := document.verification_method ++ [method] } :
      Document).verifying_key_for_method lib id = .ok key := by
  simp only [Document.verifying_key_for_method, Document.key_bytes_for_method, bind_eq_ok_iff] at hkey ⊢
  obtain ⟨bytes, ⟨found, hfound, hbytes⟩, hkey⟩ := hkey
  exact ⟨bytes, ⟨found, Document.get_verification_method_by_id_append hfound, hbytes⟩, hkey⟩

/-- One under a new id can be put to the use of its key's codec. -/
theorem Document.validate_relationship_append_new {codec : UInt64} {bytes : Bytes}
    (hnew : ∀ existing ∈ document.verification_method, existing.id ≠ method.id)
    (hid : Did.validate_resource lib method.id = .ok ())
    (hdecode : public_key_multibase_decode lib method.public_key_multibase = .ok (codec, bytes)) :
    ({ document with verification_method := document.verification_method ++ [method] } :
      Document).validate_relationship lib codec method.id = .ok () := by
  have hfound := Document.get_verification_method_by_id_append_new hnew
  simp only [Document.validate_relationship, hid, hfound, hdecode, ok_bind, bne_self_eq_false,
    reject_if_eq_ok_iff]

end

theorem Document.Valid.push_method (hvalid : document.Valid lib) {method : VerificationMethod}
    (hmethod : method.validate lib = .ok ()) :
    ({ document with verification_method := document.verification_method ++ [method] } :
      Document).Valid lib where
  context := hvalid.context
  id := hvalid.id
  controller_nonempty := hvalid.controller_nonempty
  controller := hvalid.controller
  created_at := hvalid.created_at
  updated_at := hvalid.updated_at
  methods other hmem := by
    rcases List.mem_append.mp hmem with hold | hnew
    · exact hvalid.methods other hold
    · rw [List.mem_singleton.mp hnew]
      exact hmethod
  assertion_nonempty := hvalid.assertion_nonempty
  agreement_nonempty := hvalid.agreement_nonempty
  assertions id hmem := Document.validate_relationship_append (hvalid.assertions id hmem)
  agreements id hmem := Document.validate_relationship_append (hvalid.agreements id hmem)

theorem Document.Valid.push_controller (hvalid : document.Valid lib) {controller : String}
    (hbare : validate_bare_did lib controller = .ok ()) :
    ({ document with controller := document.controller ++ [controller] } : Document).Valid lib where
  context := hvalid.context
  id := hvalid.id
  controller_nonempty := List.append_ne_nil_of_right_ne_nil _ (List.cons_ne_nil _ _)
  controller other hmem := by
    rcases List.mem_append.mp hmem with hold | hnew
    · exact hvalid.controller other hold
    · rw [List.mem_singleton.mp hnew]
      exact hbare
  created_at := hvalid.created_at
  updated_at := hvalid.updated_at
  methods := hvalid.methods
  assertion_nonempty := hvalid.assertion_nonempty
  agreement_nonempty := hvalid.agreement_nonempty
  assertions := hvalid.assertions
  agreements := hvalid.agreements

/-- The call does not add a DID URL with a fragment as a controller. -/
def Mutation.Bare (lib : Lib) : Mutation → Prop
  | add_controller controller => ∀ ipns fragment, Did.parse lib controller ≠ .ok (ipns, some fragment)
  | _ => True

/-- Every other call keeps a valid document valid. -/
theorem Mutation.apply_valid (hformat : FormatsUtc lib format) {call : Mutation} (hbare : call.Bare lib)
    (hvalid : document.Valid lib) : (call.apply lib format document).Valid lib := by
  cases call with
  | add_controller controller =>
    refine or_unchanged_of hvalid fun changed hadd => ?_
    obtain ⟨⟨⟨ipns, fragment⟩, hparse⟩, ⟨_, rfl⟩ | rfl⟩ := Document.add_controller_eq_ok hadd
    · exact hvalid
    · cases fragment with
      | some fragment => exact absurd hparse (hbare ipns fragment)
      | none => exact hvalid.push_controller ((validate_bare_did_eq_ok_iff lib).mpr ⟨ipns, hparse⟩)
  | add_verification_method method =>
    refine or_unchanged_of hvalid fun changed hadd => ?_
    obtain ⟨hmethod, rfl | rfl⟩ := Document.add_verification_method_eq_ok hadd
    · exact hvalid
    · exact hvalid.push_method hmethod
  | set_ma ma => exact hvalid.set_ma ma
  | set_ma_extension ext => exact hvalid.set_ma ext.build
  | clear_ma => exact hvalid.with_ma none
  | touch unix_seconds => exact hvalid.touch (now_iso_utc_valid hformat unix_seconds)
  | sign signing_key verification_method =>
    refine or_unchanged_of hvalid fun changed hsign => ?_
    obtain ⟨proof, rfl⟩ := Document.sign_eq_ok hsign
    exact hvalid.with_proof proof

/-- No call removes a controller. -/
theorem Mutation.controller_mem_apply {call : Mutation} {controller : String}
    (hmem : controller ∈ document.controller) :
    controller ∈ (call.apply lib format document).controller := by
  cases call with
  | add_controller added =>
    refine or_unchanged_of (P := fun d => controller ∈ d.controller) hmem fun changed hadd => ?_
    obtain ⟨_, ⟨_, rfl⟩ | rfl⟩ := Document.add_controller_eq_ok hadd
    · exact hmem
    · exact List.mem_append_left _ hmem
  | add_verification_method method =>
    refine or_unchanged_of (P := fun d => controller ∈ d.controller) hmem fun changed hadd => ?_
    obtain ⟨_, rfl | rfl⟩ := Document.add_verification_method_eq_ok hadd
    · exact hmem
    · exact hmem
  | set_ma | set_ma_extension =>
    unfold apply
    simp only [Document.set_ma_extension]
    unfold Document.set_ma
    split <;> exact hmem
  | clear_ma | touch => exact hmem
  | sign signing_key verification_method =>
    refine or_unchanged_of (P := fun d => controller ∈ d.controller) hmem fun changed hsign => ?_
    obtain ⟨_, rfl⟩ := Document.sign_eq_ok hsign
    exact hmem

/-- A call that does add one makes the document invalid for good. -/
theorem Mutation.foldl_controller_mem {controller : String} (calls : List Mutation)
    (hmem : controller ∈ document.controller) :
    controller ∈ (calls.foldl (Mutation.apply lib format) document).controller := by
  induction calls generalizing document with
  | nil => exact hmem
  | cons call calls ih => exact ih (controller_mem_apply hmem)

/-- From a valid document, a sequence of calls leads to one that is valid exactly if none of them
    adds a controller with a fragment. -/
theorem mutations_valid_iff (hformat : FormatsUtc lib format) (hvalid : document.validate lib = .ok ())
    (calls : List Mutation) :
    (calls.foldl (Mutation.apply lib format) document).validate lib = .ok () ↔
      ∀ call ∈ calls, call.Bare lib := by
  rw [Document.validate_eq_ok_iff] at hvalid ⊢
  induction calls generalizing document with
  | nil => simpa using hvalid
  | cons call calls ih =>
    rw [List.foldl_cons, List.forall_mem_cons]
    constructor
    · intro hafter
      have hbare : call.Bare lib := by
        cases call with
        | add_controller controller =>
          intro ipns fragment hparse
          obtain ⟨changed, hadd, hmem⟩ := document.mem_add_controller hparse
          have hadded : controller ∈
              ((Mutation.add_controller controller).apply lib format document).controller := by
            rwa [Mutation.apply, hadd]
          have hcontroller := hafter.controller _ (Mutation.foldl_controller_mem calls hadded)
          obtain ⟨_, hnone⟩ := (validate_bare_did_eq_ok_iff lib).mp hcontroller
          rw [hparse] at hnone
          cases hnone
        | _ => trivial
      exact ⟨hbare, (ih (Mutation.apply_valid hformat hbare hvalid)).mp hafter⟩
    · rintro ⟨hbare, hrest⟩
      exact (ih (Mutation.apply_valid hformat hbare hvalid)).mpr hrest

end

/-- The time library at one second of the year 2026. -/
def formats_one_second (seconds : Int) : Option String :=
  if seconds = 1786192496 then some "2026-08-08T12:34:56Z" else none

theorem formats_one_second_utc : FormatsUtc reference.library formats_one_second := by
  constructor
  · intro seconds text hformat
    unfold formats_one_second at hformat
    split at hformat
    · cases hformat
      decide +kernel
    · cases hformat
  · decide +kernel

theorem mutations_valid_iff_touch :
    FormatsUtc reference.library formats_one_second ∧
      (reference.claimed 1 1).validate reference.library = .ok () ∧
      ((List.foldl (Mutation.apply reference.library formats_one_second) (reference.claimed 1 1)
          [.touch 1786192496, .add_controller (reference.did 2).base_id]).validate reference.library = .ok () ↔
        ∀ call ∈ [.touch 1786192496, .add_controller (reference.did 2).base_id],
          Mutation.Bare reference.library call) :=
  ⟨formats_one_second_utc, reference.claimed_validate 1 1,
    mutations_valid_iff formats_one_second_utc (reference.claimed_validate 1 1) _⟩

/-- A controller that is a DID URL is added and refused afterwards. -/
theorem fragment_controller_breaks_validity :
    ¬ ∀ (lib : Lib) (format : Int → Option String) (document : Document) (calls : List Mutation),
      FormatsUtc lib format → document.validate lib = .ok () →
        (calls.foldl (Mutation.apply lib format) document).validate lib = .ok () := by
  intro hkeeps
  have hparse : Did.parse reference.library ((reference.did 1).base_id ++ "#" ++ "sign") =
      .ok (reference.ipns 1, some "sign") :=
    Did.parse_url (reference.validate_identifier_ipns 1) (reference.ipns_no_hash 1) (by decide)
  have hvalid := hkeeps reference.library formats_one_second (reference.claimed 1 1)
    [.add_controller ((reference.did 1).base_id ++ "#" ++ "sign")] formats_one_second_utc
    (reference.claimed_validate 1 1)
  obtain ⟨changed, hadd, hmem⟩ :=
    (reference.claimed 1 1).mem_add_controller hparse
  rw [List.foldl_cons, List.foldl_nil, Mutation.apply, hadd, or_unchanged, Document.validate_eq_ok_iff] at hvalid
  obtain ⟨_, hbare⟩ := (validate_bare_did_eq_ok_iff reference.library).mp (hvalid.controller _ hmem)
  rw [hparse] at hbare
  cases hbare

end ma_core.doc
