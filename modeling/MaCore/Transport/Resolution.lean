import MaCore.Constants
import MaCore.Transport

open rust

namespace ma_core.transport

open service

/-- The first of the keys of a protocol that is there, whatever it holds. -/
def named (map : List (String × serde_json.Value)) : Option serde_json.Value :=
  (map.lookup "protocol").or ((map.lookup "service").or (map.lookup "alpn"))

/-- The protocol a service item names. -/
def service_protocol (item : serde_json.Value) : Option String :=
  match item with
  | .String s => protocol_from_transport s
  | .Object map => (named map).bind as_str
  | _ => none

/-- The items of a services value. -/
def service_items : Option serde_json.Value → List serde_json.Value
  | none => []
  | some (.Array items) => items
  | some value => [value]

/-- The endpoint the inbox resolver returns is one that an item gives for the inbox. -/
def InboxRespected (services : Option serde_json.Value) : Prop :=
  ∀ endpoint, resolve_inbox_endpoint_id services = some endpoint →
    ∃ item ∈ service_items services, resolve_endpoint_for_protocol (some item) INBOX_PROTOCOL_ID = some endpoint

/-- An object that names a protocol and holds an endpoint, if only the keys with strings are looked at. -/
structure Advertises (fields : List (String × serde_json.Value)) (target : String) : Prop where
  protocol : ∃ protocol, ["protocol", "service", "alpn"].findSome? (fun key => (fields.lookup key).bind as_str) =
    some protocol ∧ normalize_protocol protocol = target
  endpoint : ∃ key ∈ ["endpoint_id", "endpointId", "iroh", "address"], ∃ s endpoint,
    fields.lookup key = some (.String s) ∧ endpoint_id_from_transport s = some endpoint

section
variable {services : Option serde_json.Value} {item : serde_json.Value} {items : List serde_json.Value}
  {target address input endpoint : String} {fields : List (String × serde_json.Value)}

theorem value_of_string (s : String) :
    endpoint_id_from_transport_value (.String s) = endpoint_id_from_transport s := rfl

theorem value_of_object (map : List (String × serde_json.Value)) :
    endpoint_id_from_transport_value (.Object map) = ["endpoint_id", "endpointId", "iroh", "address"].findSome?
      fun key => ((map.lookup key).bind as_str).bind endpoint_id_from_transport := rfl

theorem resolve_string (s target : String) : resolve_endpoint_for_protocol (some (.String s)) target =
    endpoint_for_service_item (.String s) (normalize_protocol target) := rfl

theorem bind_of_protocol (named found : Option String) :
    (named.bind fun protocol => if normalize_protocol protocol = target then found else none) =
      if named.map normalize_protocol = some target then found else none := by
  cases named <;> simp

/-- The resolver for a protocol reads the endpoint of an item as the other one does, if the item names it. -/
theorem endpoint_for_service_item_eq (item : serde_json.Value) (target : String) :
    endpoint_for_service_item item target =
      if (service_protocol item).map normalize_protocol = some target then endpoint_id_from_transport_value item
      else none := by
  cases item with
  | String s =>
    simp only [endpoint_for_service_item, service_protocol, value_of_string, Option.bind_eq_bind]
    exact bind_of_protocol _ _
  | Object map =>
    refine Eq.trans ?_ (bind_of_protocol _ _)
    simp only [endpoint_for_service_item, service_protocol, named, endpoint_id_from_transport_value, ite_not]
    rfl
  | Null | Bool | Number | Array => rfl

/-- A value that is not an array is its only item. -/
theorem findSome_service_items {f : serde_json.Value → Option String} (services : Option serde_json.Value) :
    (service_items services).findSome? f =
      match services with
      | none => none
      | some (.Array items) => items.findSome? f
      | some value => f value := by
  cases services with
  | none => rfl
  | some value =>
    cases value with
    | Array items => rfl
    | Null | Bool | Number | String | Object => exact List.findSome?_singleton

theorem resolve_inbox_endpoint_id_eq (services : Option serde_json.Value) :
    resolve_inbox_endpoint_id services = (service_items services).findSome? endpoint_id_from_transport_value :=
  (findSome_service_items services).symm

theorem resolve_endpoint_for_protocol_eq (services : Option serde_json.Value) (target : String) :
    resolve_endpoint_for_protocol services target = (service_items services).findSome? fun item =>
      endpoint_for_service_item item (normalize_protocol target) :=
  (findSome_service_items services).symm

/-- An item that holds an endpoint is resolved alone as it is in a list. -/
theorem resolve_item {endpoint : String} (hholds : endpoint_id_from_transport_value item = some endpoint)
    (target : String) :
    resolve_endpoint_for_protocol (some item) target =
      endpoint_for_service_item item (normalize_protocol target) := by
  cases item with
  | Array items => cases hholds
  | Null | Bool | Number | String | Object => rfl

/-! ## Endpoints -/

theorem hex_ascii : ∀ c ∈ HEX_LOWER, c.toNat < 128 := by
  have hall : HEX_LOWER.all (fun c => decide (c.toNat < 128)) = true := by decide
  intro c hc
  exact of_decide_eq_true (List.all_eq_true.mp hall c hc)

theorem hexdigit_toLower {c : Char} (hc : is_ascii_hexdigit c = true) : c.toNat < 128 ∧ c.toLower ∈ HEX_LOWER := by
  have hall : ∀ n < 128, is_ascii_hexdigit (Char.ofNat n) = true → (Char.ofNat n).toLower ∈ HEX_LOWER := by decide
  have hlt : c.toNat < 128 := by
    simp only [is_ascii_hexdigit, Bool.or_eq_true, Bool.and_eq_true, decide_eq_true_eq, Char.le_def,
      UInt32.le_iff_toNat_le] at hc
    have hval : c.val.toNat = c.toNat := rfl
    have hbounds : '9'.val.toNat = 57 ∧ 'F'.val.toNat = 70 ∧ 'f'.val.toNat = 102 := ⟨rfl, rfl, rfl⟩
    omega
  have hlower := hall c.toNat hlt
  rw [Char.ofNat_toNat] at hlower
  exact ⟨hlt, hlower hc⟩

/-- What is read as an identifier is one, in lower case. -/
theorem endpoint_of_normalize (hnormalize : normalize_endpoint_id address = some endpoint) : EndpointId endpoint := by
  unfold normalize_endpoint_id at hnormalize
  dsimp only at hnormalize
  generalize (stripPrefix "/iroh/" (trim address)).getD (trim address) = text at hnormalize
  split at hnormalize
  · cases hnormalize
  · rename_i hvalid
    obtain rfl := Option.some.inj hnormalize
    simp only [Bool.or_eq_true, bne_iff_ne, Bool.not_eq_true', not_or, not_not, Bool.not_eq_false,
      List.all_eq_true] at hvalid
    obtain ⟨hlength, hdigits⟩ := hvalid
    have hascii : ∀ c ∈ text.toList, c.toNat < 128 := fun c hc => (hexdigit_toLower (hdigits c hc)).1
    have hlower : ∀ c ∈ (to_ascii_lowercase text).toList, c ∈ HEX_LOWER := by
      intro c hc
      rw [to_ascii_lowercase, String.toList_ofList, List.mem_map] at hc
      obtain ⟨d, hd, rfl⟩ := hc
      exact (hexdigit_toLower (hdigits d hd)).2
    refine ⟨?_, hlower⟩
    rw [utf8_length_ascii fun c hc => hex_ascii c (hlower c hc), to_ascii_lowercase, String.toList_ofList,
      List.length_map, ← utf8_length_ascii hascii, hlength]

theorem endpoint_of_transport (hread : endpoint_id_from_transport input = some endpoint) : EndpointId endpoint := by
  unfold endpoint_id_from_transport at hread
  dsimp only at hread
  split at hread
  · cases hread
  · split at hread
    · split at hread
      · cases hread
      · exact endpoint_of_normalize hread
    · exact endpoint_of_normalize hread

theorem endpoint_of_value (hread : endpoint_id_from_transport_value item = some endpoint) : EndpointId endpoint := by
  cases item with
  | String s =>
    rw [value_of_string] at hread
    exact endpoint_of_transport hread
  | Object map =>
    rw [value_of_object] at hread
    obtain ⟨_, key, _, _, hkey, _⟩ := List.findSome?_eq_some_iff.mp hread
    obtain ⟨s, _, hs⟩ := Option.bind_eq_some_iff.mp hkey
    exact endpoint_of_transport hs
  | Null | Bool | Number | Array => cases hread

theorem endpoint_of_service_item (hread : endpoint_for_service_item item target = some endpoint) :
    EndpointId endpoint := by
  rw [endpoint_for_service_item_eq] at hread
  split at hread
  · exact endpoint_of_value hread
  · cases hread

/-! ## What the resolvers find -/

theorem normalize_inbox : normalize_protocol INBOX_PROTOCOL_ID = INBOX_PROTOCOL_ID := by decide +kernel

/-- The inbox resolver looks at the first item that holds an endpoint, which serves exactly if it is an item of
    the inbox itself, or shares its endpoint with one. -/
theorem inbox_respected_iff (services : Option serde_json.Value) :
    InboxRespected services ↔ ∀ before item after endpoint, service_items services = before ++ item :: after →
      (∀ other ∈ before, endpoint_id_from_transport_value other = none) →
      endpoint_id_from_transport_value item = some endpoint →
        (service_protocol item).map normalize_protocol = some INBOX_PROTOCOL_ID ∨
        ∃ other ∈ before ++ after, resolve_endpoint_for_protocol (some other) INBOX_PROTOCOL_ID = some endpoint := by
  unfold InboxRespected
  simp only [resolve_inbox_endpoint_id_eq, List.findSome?_eq_some_iff]
  constructor
  · intro hrespected before item after endpoint hitems hbefore hitem
    obtain ⟨other, hother, hresolve⟩ := hrespected endpoint ⟨before, item, after, hitems, hitem, hbefore⟩
    rw [hitems, List.mem_append, List.mem_cons] at hother
    obtain hmem | rfl | hmem := hother
    · exact .inr ⟨other, List.mem_append_left _ hmem, hresolve⟩
    · rw [resolve_item hitem, endpoint_for_service_item_eq, normalize_inbox] at hresolve
      split at hresolve
      · rename_i hprotocol
        exact .inl hprotocol
      · cases hresolve
    · exact .inr ⟨other, List.mem_append_right _ hmem, hresolve⟩
  · rintro hfirst endpoint ⟨before, item, after, hitems, hitem, hbefore⟩
    rw [hitems]
    obtain hprotocol | ⟨other, hother, hresolve⟩ := hfirst before item after endpoint hitems hbefore hitem
    · refine ⟨item, by simp, ?_⟩
      rw [resolve_item hitem, endpoint_for_service_item_eq, normalize_inbox, if_pos hprotocol, hitem]
    · refine ⟨other, ?_, hresolve⟩
      obtain hmem | hmem := List.mem_append.mp hother
      · exact List.mem_append_left _ hmem
      · exact List.mem_append_right _ (List.mem_cons_of_mem _ hmem)

theorem as_str_eq_some_iff {value : serde_json.Value} {s : String} : as_str value = some s ↔ value = .String s := by
  cases value <;> simp [as_str]

/-- A string under the first key that is there is the first string. -/
theorem first_string_of_named {s : String} (hnamed : named fields = some (.String s)) :
    ["protocol", "service", "alpn"].findSome? (fun key => (fields.lookup key).bind as_str) = some s := by
  unfold named at hnamed
  simp only [List.findSome?_cons]
  cases hprotocol : fields.lookup "protocol" with
  | some value =>
    rw [hprotocol] at hnamed
    cases hnamed
    rfl
  | none =>
    rw [hprotocol, Option.none_or] at hnamed
    cases hservice : fields.lookup "service" with
    | some value =>
      rw [hservice] at hnamed
      cases hnamed
      rfl
    | none =>
      rw [hservice, Option.none_or] at hnamed
      rw [hnamed]
      rfl

/-- An object that advertises a protocol is found exactly if the first of its protocol keys holds a string. -/
theorem Advertises.found_iff (hadvertises : Advertises fields target) :
    (∃ endpoint, endpoint_for_service_item (.Object fields) target = some endpoint) ↔
      ∃ s, named fields = some (.String s) := by
  obtain ⟨⟨protocol, hprotocol, htarget⟩, ⟨key, hkey, s, endpoint, hlookup, hendpoint⟩⟩ := hadvertises
  rw [endpoint_for_service_item_eq]
  constructor
  · rintro ⟨found, hfound⟩
    split at hfound
    · rename_i hnames
      obtain ⟨name, hname, _⟩ := Option.map_eq_some_iff.mp hnames
      obtain ⟨value, hvalue, hstring⟩ := Option.bind_eq_some_iff.mp hname
      exact ⟨name, hvalue.trans (congrArg some (as_str_eq_some_iff.mp hstring))⟩
    · cases hfound
  · rintro ⟨name, hname⟩
    have hsame : name = protocol := Option.some.inj ((first_string_of_named hname).symm.trans hprotocol)
    have hnames : (service_protocol (.Object fields)).map normalize_protocol = some target := by
      rw [service_protocol, hname, ← htarget, hsame]
      rfl
    rw [if_pos hnames, value_of_object]
    refine Option.isSome_iff_exists.mp (List.findSome?_isSome_iff.mpr ⟨key, hkey, ?_⟩)
    rw [hlookup, Option.bind_some, as_str, Option.bind_some, hendpoint]
    rfl

/-- The first item for a protocol decides, endpoints are in lower case, and an object that advertises the protocol
    is such an item exactly if the first of its protocol keys holds a string. -/
theorem resolution_complete_iff (items : List serde_json.Value) (target_protocol : String)
    (fields : List (String × serde_json.Value)) :
    (∀ before item after endpoint, items = before ++ item :: after →
      (∀ other ∈ before, endpoint_for_service_item other (normalize_protocol target_protocol) = none) →
      endpoint_for_service_item item (normalize_protocol target_protocol) = some endpoint →
        resolve_endpoint_for_protocol (some (.Array items)) target_protocol = some endpoint) ∧
    ((∀ item ∈ items, endpoint_for_service_item item (normalize_protocol target_protocol) = none) →
      resolve_endpoint_for_protocol (some (.Array items)) target_protocol = none) ∧
    (∀ endpoint, resolve_endpoint_for_protocol (some (.Array items)) target_protocol = some endpoint →
      EndpointId endpoint) ∧
    ((Advertises fields (normalize_protocol target_protocol) → ∃ endpoint,
        endpoint_for_service_item (.Object fields) (normalize_protocol target_protocol) = some endpoint) ↔
      (Advertises fields (normalize_protocol target_protocol) →
        ∃ s, named fields = some (.String s))) := by
  rw [resolve_endpoint_for_protocol_eq]
  refine ⟨?_, ?_, ?_, ?_⟩
  · intro before item after endpoint hitems hbefore hitem
    exact List.findSome?_eq_some_iff.mpr ⟨before, item, after, hitems, hitem, hbefore⟩
  · intro hnone
    exact List.findSome?_eq_none_iff.mpr hnone
  · intro endpoint hresolve
    obtain ⟨_, item, _, _, hitem, _⟩ := List.findSome?_eq_some_iff.mp hresolve
    exact endpoint_of_service_item hitem
  · exact imp_congr_right Advertises.found_iff

end

/-! ## Items out of order -/

def endpoint_of (digit : Char) : String := String.ofList (List.replicate 64 digit)

theorem endpoint_of_valid {digit : Char} (hdigit : digit ∈ HEX_LOWER) : EndpointId (endpoint_of digit) := by
  have hdigits : ∀ c ∈ (endpoint_of digit).toList, c = digit := by
    intro c hc
    rw [endpoint_of, String.toList_ofList] at hc
    exact List.eq_of_mem_replicate hc
  constructor
  · rw [utf8_length_ascii fun c hc => hdigits c hc ▸ hex_ascii digit hdigit, endpoint_of, String.toList_ofList,
      List.length_replicate]
  · intro c hc
    rw [hdigits c hc]
    exact hdigit

/-- Both resolvers read a transport string alone. -/
theorem resolve_transport_string {id protocol : String} (hid : EndpointId id) (hprotocol : trim protocol ≠ "")
    (target : String) :
    endpoint_id_from_transport_value (.String (transport_string id protocol)) = some id ∧
      resolve_endpoint_for_protocol (some (.String (transport_string id protocol))) target =
        if normalize_protocol protocol = normalize_protocol target then some id else none := by
  constructor
  · rw [value_of_string]
    exact endpoint_id_from_transport_string hid hprotocol
  · rw [resolve_string]
    exact endpoint_for_transport_string hid hprotocol _

/-- The inbox of an agent, listed after its presence at another endpoint. -/
def presence_first : serde_json.Value := .Array [
  .String (transport_string (endpoint_of 'b') "/ma/presence/0.0.1"),
  .String (transport_string (endpoint_of 'a') INBOX_PROTOCOL_ID)]

theorem presence_first_resolves :
    resolve_inbox_endpoint_id (some presence_first) = some (endpoint_of 'b') ∧
      ¬ InboxRespected (some presence_first) := by
  have hb : EndpointId (endpoint_of 'b') := endpoint_of_valid (by decide)
  have hother : normalize_protocol "/ma/presence/0.0.1" ≠ INBOX_PROTOCOL_ID := by decide +kernel
  obtain ⟨_, hinbox⟩ := @resolve_transport_string (endpoint_of 'a') INBOX_PROTOCOL_ID (endpoint_of_valid (by decide))
    (by decide +kernel) INBOX_PROTOCOL_ID
  obtain ⟨hfirst, hpresence⟩ := @resolve_transport_string (endpoint_of 'b') "/ma/presence/0.0.1" hb
    (by decide +kernel) INBOX_PROTOCOL_ID
  have hresolve : resolve_inbox_endpoint_id (some presence_first) = some (endpoint_of 'b') := by
    rw [resolve_inbox_endpoint_id_eq, presence_first, service_items, List.findSome?_cons, hfirst]
  refine ⟨hresolve, ?_⟩
  intro hrespected
  obtain ⟨item, hitem, halone⟩ := hrespected _ hresolve
  rw [presence_first, service_items, List.mem_cons, List.mem_singleton] at hitem
  obtain rfl | rfl := hitem
  · rw [hpresence, normalize_inbox, if_neg hother] at halone
    cases halone
  · rw [hinbox, if_pos rfl] at halone
    have hsame : String.toList (endpoint_of 'a') = String.toList (endpoint_of 'b') :=
      congrArg String.toList (Option.some.inj halone)
    simp [endpoint_of] at hsame

/-- An object with a number where its protocol was expected, and the protocol under another key. -/
def numbered_item : List (String × serde_json.Value) := [
  ("protocol", .Number "1"),
  ("service", .String INBOX_PROTOCOL_ID),
  ("endpoint_id", .String (transport_string (endpoint_of 'a') INBOX_PROTOCOL_ID))]

theorem numbered_item_hidden :
    Advertises numbered_item INBOX_PROTOCOL_ID ∧
      resolve_endpoint_for_protocol (some (.Array [.Object numbered_item])) INBOX_PROTOCOL_ID = none := by
  have ha : EndpointId (endpoint_of 'a') := endpoint_of_valid (by decide)
  have hinbox : trim INBOX_PROTOCOL_ID ≠ "" := by decide +kernel
  constructor
  · refine ⟨⟨INBOX_PROTOCOL_ID, rfl, normalize_inbox⟩, "endpoint_id", List.mem_cons_self, ?_⟩
    exact ⟨_, _, rfl, endpoint_id_from_transport_string ha hinbox⟩
  · rw [resolve_endpoint_for_protocol_eq]
    rfl

end ma_core.transport
