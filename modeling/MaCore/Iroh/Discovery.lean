import MaCore.Doc.Extension
import MaCore.Iroh.Registration
import MaCore.Reference

open rust
open ma_core.error ma_core.key ma_core.doc ma_core.transport

namespace ma_core.iroh

namespace IrohEndpoint

def services (self : IrohEndpoint) : List String := self.protocols.map (transport_string self.id)

def ma_extension (self : IrohEndpoint) : MaExtension := MaExtension.new.services self.services

end IrohEndpoint

/-- The services `outbox` reads in a document, as `serde_json::to_value` gives them. -/
def advertised (to_value : Ipld → Option serde_json.Value) (doc : Document) : Option serde_json.Value :=
  (doc.ma.bind (ipld_get "services")).bind to_value

/-- The steps of `outbox` up to `connect_outbox`: the document of the peer and
    its endpoint for the protocol. -/
def outbox_target (to_value : Ipld → Option serde_json.Value) (resolver : Resolver) (did protocol : String) :
    ServiceResult (Document × String) := do
  let doc ← resolver did
  let endpoint_id ← ok_or (.NoInboxTransport (did ++ " has no service for " ++ protocol))
    (resolve_endpoint_for_protocol (advertised to_value doc) protocol)
  return (doc, endpoint_id)

/-- A list of texts is written as an array of strings. -/
def WritesStrings (to_value : Ipld → Option serde_json.Value) : Prop :=
  ∀ items, to_value (strings items) = some (.Array (items.map .String))

/-! Registrations. -/

inductive Registration where
  | service (protocol : String)
  | remove_service (protocol : String)

namespace Registration

def protocol : Registration → String
  | service protocol => protocol
  | remove_service protocol => protocol

def apply (endpoint : IrohEndpoint) : Registration → IrohEndpoint
  | service protocol => (endpoint.service protocol).2
  | remove_service protocol => (endpoint.remove_service protocol).2

/-- The endpoint after these calls. -/
def run (id : String) (recipient_key : EncryptionKey) (calls : List Registration) : IrohEndpoint :=
  calls.foldl apply (IrohEndpoint.new id recipient_key)

/-- Whether a protocol is registered after these calls: the last one for it decides. -/
def registered (calls : List Registration) (name : String) : Bool :=
  match calls.reverse.find? fun call => iroh.normalize_protocol call.protocol == name with
  | some (service _) => true
  | _ => false

section
variable {id : String} {recipient_key : EncryptionKey} {calls : List Registration} {name : String}

theorem registered_append (call : Registration) :
    registered (calls ++ [call]) name =
      if iroh.normalize_protocol call.protocol = name then
        match call with
        | service _ => true
        | remove_service _ => false
      else registered calls name := by
  unfold registered
  rw [List.reverse_append, List.reverse_singleton, List.singleton_append, List.find?_cons]
  by_cases hname : iroh.normalize_protocol call.protocol = name
  · rw [beq_iff_eq.mpr hname, if_pos hname]
    cases call <;> rfl
  · rw [beq_eq_false_iff_ne.mpr hname, if_neg hname]

theorem registered_service {protocol : String} :
    registered (calls ++ [service protocol]) name =
      if iroh.normalize_protocol protocol = name then true else registered calls name :=
  registered_append (service protocol)

theorem registered_remove_service {protocol : String} :
    registered (calls ++ [remove_service protocol]) name =
      if iroh.normalize_protocol protocol = name then false else registered calls name :=
  registered_append (remove_service protocol)

/-- Only a protocol of the calls is registered. -/
theorem mem_of_registered (hregistered : registered calls name = true) :
    ∃ call ∈ calls, iroh.normalize_protocol call.protocol = name := by
  unfold registered at hregistered
  cases hfind : calls.reverse.find? fun call => iroh.normalize_protocol call.protocol == name with
  | none =>
    rw [hfind] at hregistered
    cases hregistered
  | some call =>
    have hname := List.find?_some hfind
    exact ⟨call, List.mem_reverse.mp (List.mem_of_find?_eq_some hfind), beq_iff_eq.mp hname⟩

/-- The protocols and the inboxes of an endpoint are those registered. -/
structure Inv (id : String) (calls : List Registration) (endpoint : IrohEndpoint) : Prop where
  id : endpoint.id = id
  inboxes : ∀ name, (endpoint.inboxes.get name).isSome = registered calls name
  protocols : ∀ name, name ∈ endpoint.protocols ↔ registered calls name = true

theorem apply_inv {endpoint : IrohEndpoint} (hinv : Inv id calls endpoint) (call : Registration) :
    Inv id (calls ++ [call]) (call.apply endpoint) := by
  cases call with
  | service protocol =>
    refine ⟨IrohEndpoint.service_id.trans hinv.id, fun name => ?_, fun name => ?_⟩
    · have hinboxes : (endpoint.service protocol).2.inboxes.get name = _ := IrohEndpoint.service_inboxes
      rw [apply, hinboxes, registered_service]
      by_cases hname : name = iroh.normalize_protocol protocol
      · rw [if_pos hname, if_pos hname.symm]
        rfl
      · rw [if_neg hname, if_neg (Ne.symm hname)]
        exact hinv.inboxes name
    · have hprotocols : name ∈ (endpoint.service protocol).2.protocols ↔ _ := IrohEndpoint.mem_service_protocols
      rw [apply, hprotocols, registered_service, hinv.protocols]
      by_cases hname : name = iroh.normalize_protocol protocol
      · rw [if_pos hname.symm]
        exact iff_of_true (.inl hname) rfl
      · rw [if_neg (Ne.symm hname)]
        exact or_iff_right hname
  | remove_service protocol =>
    refine ⟨IrohEndpoint.remove_service_id.trans hinv.id, fun name => ?_, fun name => ?_⟩
    · have hinboxes : (endpoint.remove_service protocol).2.inboxes.get name = _ :=
        IrohEndpoint.remove_service_inboxes
      rw [apply, hinboxes, registered_remove_service]
      by_cases hname : name = iroh.normalize_protocol protocol
      · rw [if_pos hname, if_pos hname.symm]
        rfl
      · rw [if_neg hname, if_neg (Ne.symm hname)]
        exact hinv.inboxes name
    · have habsent (hnone : endpoint.inboxes.get (iroh.normalize_protocol protocol) = none) :
          iroh.normalize_protocol protocol ∉ endpoint.protocols := by
        rw [hinv.protocols, ← hinv.inboxes, hnone]
        exact Bool.false_ne_true
      have hprotocols : name ∈ (endpoint.remove_service protocol).2.protocols ↔ _ :=
        IrohEndpoint.mem_remove_service_protocols habsent
      rw [apply, hprotocols, registered_remove_service, hinv.protocols]
      by_cases hname : name = iroh.normalize_protocol protocol
      · rw [if_pos hname.symm]
        exact iff_of_false (fun hkept => hkept.1 hname) Bool.false_ne_true
      · rw [if_neg (Ne.symm hname)]
        exact and_iff_right hname

theorem run_inv (id : String) (recipient_key : EncryptionKey) (calls : List Registration) :
    Inv id calls (run id recipient_key calls) := by
  induction calls using List.reverseRecOn with
  | nil =>
    refine ⟨rfl, fun _ => rfl, fun name => ?_⟩
    exact iff_of_false List.not_mem_nil Bool.false_ne_true
  | append_singleton calls call ih =>
    rw [run, List.foldl_append]
    exact apply_inv ih call

end

end Registration

/-- Discovery is exact: in the document of an endpoint `outbox` finds the
    endpoint under the protocols that are registered, however they are spelled,
    and under no other. -/
theorem discovery_exact {to_value : Ipld → Option serde_json.Value} (hwrites : WritesStrings to_value)
    {id : String} (hid : EndpointId id) (recipient_key : EncryptionKey) {calls : List Registration}
    (hcalls : ∀ call ∈ calls, trim call.protocol ≠ "") (doc : Document) :
    (∀ protocol,
      resolve_endpoint_for_protocol (advertised to_value
        (doc.set_ma_extension (Registration.run id recipient_key calls).ma_extension)) protocol =
      if Registration.registered calls (transport.normalize_protocol protocol) then some id else none) ∧
    ∀ protocol, trim protocol ≠ "" →
      endpoint_id_from_transport (transport_string id protocol) = some id ∧
        protocol_from_transport (transport_string id protocol) = some (transport.normalize_protocol protocol) := by
  refine ⟨fun protocol => ?_, fun protocol hprotocol => ⟨endpoint_id_from_transport_string hid hprotocol,
    protocol_from_transport_string hid hprotocol⟩⟩
  have hinv := Registration.run_inv id recipient_key calls
  have hservices : advertised to_value
      (doc.set_ma_extension (Registration.run id recipient_key calls).ma_extension) =
        some (.Array
          (((Registration.run id recipient_key calls).protocols.map (transport_string id)).map .String)) := by
    rw [advertised, IrohEndpoint.ma_extension, Document.services_set_ma_extension, Option.bind_some, hwrites,
      IrohEndpoint.services, hinv.id]
  have hprotocols : ∀ name ∈ (Registration.run id recipient_key calls).protocols,
      trim name ≠ "" ∧ transport.normalize_protocol name = name := by
    intro name hmem
    obtain ⟨call, hcall, rfl⟩ := Registration.mem_of_registered ((hinv.protocols name).mp hmem)
    exact ⟨trim_normalize_protocol_ne_empty (hcalls call hcall), normalize_protocol_normalize call.protocol⟩
  rw [hservices, resolve_transport_strings hid hprotocols]
  exact if_congr (hinv.protocols _) rfl rfl

def text_value : Ipld → Option serde_json.Value
  | .String s => some (.String s)
  | _ => none

/-- `to_value` on lists of texts. -/
def to_value : Ipld → Option serde_json.Value
  | .List items => (items.mapM text_value).map .Array
  | _ => none

theorem to_value_writesStrings : WritesStrings to_value := by
  intro items
  have hitems : (items.map Ipld.String).mapM text_value = some (items.map serde_json.Value.String) := by
    induction items with
    | nil => rfl
    | cons item items ih => simp [List.mapM_cons, ih, text_value]
  simp only [strings, to_value, hitems, Option.map_some]

def endpoint_id : String := "0123456789abcdef0123456789abcdef0123456789abcdef0123456789abcdef"

theorem endpoint_id_valid : EndpointId endpoint_id := by
  have hdigits : endpoint_id.toList.all HEX_LOWER.contains = true := by decide
  refine ⟨by decide, fun c hc => ?_⟩
  exact List.contains_iff_mem.mp (List.all_eq_true.mp hdigits c hc)

/-- An endpoint with an inbox, that has removed another service. -/
theorem discovery_exact_respelled :
    let endpoint := Registration.run endpoint_id (reference.encryptionKey 2)
      [.service "ma/inbox/0.0.1", .service "other", .remove_service "/other"]
    let services := advertised to_value ((reference.document 2).set_ma_extension endpoint.ma_extension)
    resolve_endpoint_for_protocol services " //ma/inbox/0.0.1" = some endpoint_id ∧
      resolve_endpoint_for_protocol services "other" = none := by
  have hexact := (@discovery_exact to_value to_value_writesStrings endpoint_id endpoint_id_valid
    (reference.encryptionKey 2) [.service "ma/inbox/0.0.1", .service "other", .remove_service "/other"]
    (by decide) (reference.document 2)).1
  intro endpoint services
  have hinbox := hexact " //ma/inbox/0.0.1"
  have hother := hexact "other"
  rw [if_pos (by decide)] at hinbox
  rw [if_neg (by decide)] at hother
  exact ⟨hinbox, hother⟩

end ma_core.iroh
