import MaCore.Base.Json
import MaCore.Base.Trim

open rust

namespace ma_core.transport

/-- `Value::as_str`. -/
def as_str : serde_json.Value → Option String
  | .String s => some s
  | _ => none

/-- The text from the first `c` on: what `find` and slicing there leave. -/
def from_first (c : Char) (s : String) : Option String :=
  if s.toList.contains c then some (String.ofList (s.toList.dropWhile (· != c))) else none

def is_ascii_hexdigit (c : Char) : Bool :=
  ('0' ≤ c && c ≤ '9') || ('A' ≤ c && c ≤ 'F') || ('a' ≤ c && c ≤ 'f')

/-- `char::to_ascii_lowercase`, on each character of a text. -/
def to_ascii_lowercase (s : String) : String := String.ofList (s.toList.map Char.toLower)

def normalize_protocol (input : String) : String :=
  let protocol := trim input
  if protocol.isEmpty then "" else "/" ++ trim_start_matches '/' protocol

def normalize_endpoint_id (address : String) : Option String :=
  let value := trim address
  let endpoint := (stripPrefix "/iroh/" value).getD value
  if (utf8 endpoint).length != 64 || !endpoint.toList.all is_ascii_hexdigit then none
  else some (to_ascii_lowercase endpoint)

def endpoint_id_from_transport (input : String) : Option String :=
  let value := trim input
  if value.isEmpty then none
  else
    match stripPrefix "/iroh/" value with
    | some rest =>
      let endpoint := trim ((split '/' rest).headD "")
      if endpoint.isEmpty then none else normalize_endpoint_id endpoint
    | none => normalize_endpoint_id value

def protocol_from_transport (input : String) : Option String := do
  let rest ← stripPrefix "/iroh/" (trim input)
  let protocol ← from_first '/' rest
  if protocol.isEmpty then none else some protocol

def endpoint_id_from_transport_value (value : serde_json.Value) : Option String :=
  match value with
  | .String s => endpoint_id_from_transport s
  | .Object map =>
    ["endpoint_id", "endpointId", "iroh", "address"].findSome? fun key =>
      ((map.lookup key).bind as_str).bind endpoint_id_from_transport
  | _ => none

def resolve_inbox_endpoint_id (services : Option serde_json.Value) : Option String :=
  match services with
  | none => none
  | some (.Array items) => items.findSome? endpoint_id_from_transport_value
  | some value => endpoint_id_from_transport_value value

def endpoint_for_service_item (item : serde_json.Value) (target_protocol : String) : Option String :=
  match item with
  | .String s => do
    let protocol ← protocol_from_transport s
    if normalize_protocol protocol = target_protocol then endpoint_id_from_transport s else none
  | .Object map => do
    let named := (map.lookup "protocol").or ((map.lookup "service").or (map.lookup "alpn"))
    let protocol ← named.bind as_str
    if normalize_protocol protocol ≠ target_protocol then none
    else
      ["endpoint_id", "endpointId", "iroh", "address"].findSome? fun key =>
        ((map.lookup key).bind as_str).bind endpoint_id_from_transport
  | _ => none

def resolve_endpoint_for_protocol (services : Option serde_json.Value) (target_protocol : String) :
    Option String :=
  let target := normalize_protocol target_protocol
  match services with
  | none => none
  | some (.Array items) => items.findSome? fun item => endpoint_for_service_item item target
  | some value => endpoint_for_service_item value target

def transport_string (endpoint_id protocol : String) : String :=
  "/iroh/" ++ endpoint_id ++ normalize_protocol protocol

def HEX_LOWER : List Char := "0123456789abcdef".toList

/-- An endpoint's identifier as it prints it: 64 lower-case hexadecimal digits. -/
structure EndpointId (id : String) : Prop where
  length : (utf8 id).length = 64
  digits : ∀ c ∈ id.toList, c ∈ HEX_LOWER

theorem hex_digit : ∀ c ∈ HEX_LOWER,
    is_ascii_hexdigit c = true ∧ is_whitespace c = false ∧ c ≠ '/' ∧ c.toLower = c := by
  have hall : HEX_LOWER.all
      (fun c => is_ascii_hexdigit c && !is_whitespace c && c != '/' && c.toLower == c) = true := by
    decide
  intro c hc
  have hdigit := List.all_eq_true.mp hall c hc
  simpa [and_assoc] using hdigit

section
variable {id protocol : String}

/-- Anything but white space is normalized to a slash and a rest without one in front. -/
theorem normalize_protocol_eq (hprotocol : trim protocol ≠ "") :
    ∃ rest : List Char, (normalize_protocol protocol).toList = '/' :: rest ∧ rest.dropWhile (· == '/') = rest ∧
      Trimmed ('/' :: rest) := by
  have htrimmed : Trimmed (trim protocol).toList := by
    rw [trim, String.toList_ofList]
    exact trimList_trimmed _
  refine ⟨(trim protocol).toList.dropWhile (· == '/'), ?_, ?_, htrimmed.cons_dropWhile rfl _⟩
  · simp [normalize_protocol, hprotocol, trim_start_matches, String.toList_append]
  · exact dropWhile_eq_self fun c hc => dropWhile_head c hc

theorem normalize_protocol_ne_empty (hprotocol : trim protocol ≠ "") : normalize_protocol protocol ≠ "" := by
  obtain ⟨rest, hrest, _⟩ := normalize_protocol_eq hprotocol
  intro hempty
  simp [hempty] at hrest

theorem trim_normalize_protocol_ne_empty (hprotocol : trim protocol ≠ "") :
    trim (normalize_protocol protocol) ≠ "" := by
  obtain ⟨rest, hrest, _, htrimmed⟩ := normalize_protocol_eq hprotocol
  rw [Trimmed.trim_eq (by rwa [hrest])]
  exact normalize_protocol_ne_empty hprotocol

/-- A text that is normalized already is left as it is. -/
theorem normalize_protocol_eq_self {rest : List Char} (hprotocol : protocol.toList = '/' :: rest)
    (hdrop : rest.dropWhile (· == '/') = rest) (htrimmed : Trimmed ('/' :: rest)) :
    normalize_protocol protocol = protocol := by
  have htrim : trim protocol = protocol := Trimmed.trim_eq (by rwa [hprotocol])
  have hne : protocol.isEmpty = false := by
    rw [String.isEmpty_eq_false_iff]
    rintro rfl
    simp at hprotocol
  apply String.toList_injective
  rw [normalize_protocol, htrim, hne, hprotocol]
  simp [trim_start_matches, String.toList_append, hprotocol, hdrop]

/-- Normalizing twice is normalizing once. -/
theorem normalize_protocol_normalize (protocol : String) :
    normalize_protocol (normalize_protocol protocol) = normalize_protocol protocol := by
  by_cases hprotocol : trim protocol = ""
  · have hblank : normalize_protocol protocol = "" := by simp [normalize_protocol, hprotocol]
    rw [hblank]
    rfl
  · obtain ⟨rest, hrest, hdrop, htrimmed⟩ := normalize_protocol_eq hprotocol
    exact normalize_protocol_eq_self hrest hdrop htrimmed

theorem EndpointId.trim_eq (hid : EndpointId id) : trim id = id :=
  trim_eq_self fun c hc => (hex_digit c (hid.digits c hc)).2.1

theorem EndpointId.no_slash (hid : EndpointId id) : '/' ∉ id.toList :=
  fun hmem => (hex_digit '/' (hid.digits '/' hmem)).2.2.1 rfl

theorem EndpointId.ne_empty (hid : EndpointId id) : id.isEmpty = false := by
  rw [String.isEmpty_eq_false_iff]
  rintro rfl
  exact absurd hid.length (by decide)

theorem normalize_endpoint_id_eq (hid : EndpointId id) : normalize_endpoint_id id = some id := by
  have hstrip : stripPrefix "/iroh/" id = none := by
    rw [Option.eq_none_iff_forall_ne_some]
    intro rest hrest
    apply hid.no_slash
    rw [stripPrefix_eq_some_iff.mp hrest, String.toList_append]
    exact List.mem_append_left _ List.mem_cons_self
  have hdigits : id.toList.all is_ascii_hexdigit = true :=
    List.all_eq_true.mpr fun c hc => (hex_digit c (hid.digits c hc)).1
  have hlower : id.toList.map Char.toLower = id.toList := by
    conv_rhs => rw [← List.map_id id.toList]
    exact List.map_congr_left fun c hc => (hex_digit c (hid.digits c hc)).2.2.2
  simp [normalize_endpoint_id, hid.trim_eq, hstrip, hid.length, hdigits, to_ascii_lowercase, hlower]

/-- A transport string is trimmed, and splits into its identifier and its protocol. -/
theorem transport_string_eq (id : String) (hprotocol : trim protocol ≠ "") :
    ∃ rest : List Char, (normalize_protocol protocol).toList = '/' :: rest ∧
      trim (transport_string id protocol) = "/iroh/" ++ (id ++ "/" ++ String.ofList rest) := by
  obtain ⟨rest, hrest, _, htrimmed⟩ := normalize_protocol_eq hprotocol
  have hstring : transport_string id protocol = "/iroh/" ++ (id ++ "/" ++ String.ofList rest) := by
    apply String.toList_injective
    simp [transport_string, String.toList_append, hrest]
  refine ⟨rest, hrest, ?_⟩
  rw [← hstring]
  apply Trimmed.trim_eq
  rw [transport_string, String.toList_append, hrest, String.toList_append]
  exact htrimmed.append (by simp) fun c hc => by cases hc; rfl

/-- The identifier is read back from a transport string, -/
theorem endpoint_id_from_transport_string (hid : EndpointId id) (hprotocol : trim protocol ≠ "") :
    endpoint_id_from_transport (transport_string id protocol) = some id := by
  obtain ⟨rest, _, htrim⟩ := transport_string_eq id hprotocol
  have hsplit : (split '/' (id ++ "/" ++ String.ofList rest)).headD "" = id := by
    rw [split_append rfl hid.no_slash]
    rfl
  have hne : ("/iroh/" ++ (id ++ "/" ++ String.ofList rest)).isEmpty = false := by
    simp [String.isEmpty_eq_false_iff]
  simp only [endpoint_id_from_transport, htrim, hne, stripPrefix_append, hsplit, hid.trim_eq, hid.ne_empty,
    normalize_endpoint_id_eq hid, Bool.false_eq_true, if_false]

/-- and so is the protocol, normalized. -/
theorem protocol_from_transport_string (hid : EndpointId id) (hprotocol : trim protocol ≠ "") :
    protocol_from_transport (transport_string id protocol) = some (normalize_protocol protocol) := by
  obtain ⟨rest, hrest, htrim⟩ := transport_string_eq id hprotocol
  have hlist : (id ++ "/" ++ String.ofList rest).toList = id.toList ++ '/' :: rest := by
    simp [String.toList_append]
  have hdrop : (id.toList ++ '/' :: rest).dropWhile (· != '/') = '/' :: rest := by
    rw [List.dropWhile_append_of_pos]
    · rfl
    · intro c hc
      exact bne_iff_ne.mpr (hex_digit c (hid.digits c hc)).2.2.1
  have hprotocol_eq : String.ofList ('/' :: rest) = normalize_protocol protocol := by
    rw [← hrest, String.ofList_toList]
  simp [protocol_from_transport, htrim, from_first, hlist, hdrop, hprotocol_eq,
    normalize_protocol_ne_empty hprotocol]

/-- A service string is found under its protocol, whatever the spelling, and under no other. -/
theorem endpoint_for_transport_string (hid : EndpointId id) (hprotocol : trim protocol ≠ "") (target : String) :
    endpoint_for_service_item (.String (transport_string id protocol)) target =
      if normalize_protocol protocol = target then some id else none := by
  simp [endpoint_for_service_item, protocol_from_transport_string hid hprotocol,
    normalize_protocol_normalize, endpoint_id_from_transport_string hid hprotocol]

/-- A list of services is searched for a protocol as the list of protocols is. -/
theorem resolve_transport_strings (hid : EndpointId id) {protocols : List String}
    (hprotocols : ∀ protocol ∈ protocols, trim protocol ≠ "" ∧ normalize_protocol protocol = protocol)
    (target : String) :
    resolve_endpoint_for_protocol (some (.Array ((protocols.map (transport_string id)).map .String))) target =
      if normalize_protocol target ∈ protocols then some id else none := by
  unfold resolve_endpoint_for_protocol
  dsimp only
  induction protocols with
  | nil => rfl
  | cons protocol protocols ih =>
    obtain ⟨hprotocol, hnormalized⟩ := hprotocols protocol List.mem_cons_self
    have hrest := ih fun other hmem => hprotocols other (List.mem_cons_of_mem _ hmem)
    rw [List.map_cons, List.map_cons, List.findSome?_cons, endpoint_for_transport_string hid hprotocol,
      hnormalized, hrest]
    by_cases htarget : protocol = normalize_protocol target
    · simp [htarget]
    · simp [htarget, Ne.symm htarget]

end

end ma_core.transport
