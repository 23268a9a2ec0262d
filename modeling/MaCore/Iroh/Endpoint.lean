import MaCore.Base.Map
import MaCore.Base.Strings
import MaCore.Iroh.InboundSecurity
import MaCore.Outbox
import MaCore.TtlQueue

open rust
open ma_core.error ma_core.key ma_core.doc ma_core.msg ma_core.service ma_core.outbox
open ma_core.ttl_queue

namespace ma_core.iroh

def DEFAULT_MAX_INBOUND_MESSAGE_SIZE : Nat := 1024 * 1024
def DEFAULT_INBOX_CAPACITY : Nat := 256

theorem inbox_capacity_pos : 0 < DEFAULT_INBOX_CAPACITY := by decide

/-- An `Inbox` handle: which of the shared queues its clones refer to. -/
abbrev Inbox := Nat

/-- What a spawned task serves the streams of: the handler a router is given
    for a protocol, or the accept loop of a connection dialled for it. -/
structure InboxProtocolHandler where
  protocol : String
  inbox : Inbox
deriving DecidableEq, Repr

structure IrohEndpoint where
  id : String
  inbound_security : InboundSecurity
  protocols : List String
  inboxes : Map String Inbox
  router : Option (List InboxProtocolHandler)
  queues : List (TtlQueue Message)

def normalize_protocol (input : String) : String :=
  let protocol := trim input
  if protocol.isEmpty then "" else "/" ++ trim_start_matches '/' protocol

/-- `now_secs`, which panics where `now_unix_secs` returns an error. -/
def now_secs {ε : Type} (clock : Clock) : Result ε UInt64 :=
  match clock with
  | some now => .ok now
  | none => Panic

namespace IrohEndpoint

def new (id : String) (recipient_key : EncryptionKey) : IrohEndpoint where
  id
  inbound_security := InboundSecurity.new recipient_key
  protocols := []
  inboxes := Map.empty
  router := none
  queues := []

/-- `Inbox::push`, through whichever clone of the handle. -/
def push (self : IrohEndpoint) (inbox : Inbox) (now : UInt64) (message : Message) : IrohEndpoint :=
  { self with queues := self.queues.modify inbox (TtlQueue.push now message.exp message) }

def start_router (self : IrohEndpoint) : IrohEndpoint :=
  match self.router with
  | some _ => self
  | none =>
    { self with
      router := some (self.protocols.filterMap fun protocol =>
        (self.inboxes.get protocol).map fun inbox => ⟨protocol, inbox⟩) }

def reload_router_if_running (self : IrohEndpoint) : IrohEndpoint :=
  match self.router with
  | none => self
  | some _ => start_router { self with router := none }

def service (self : IrohEndpoint) (protocol : String) : Inbox × IrohEndpoint :=
  let normalized := normalize_protocol protocol
  let self :=
    if self.protocols.contains normalized then self
    else { self with protocols := self.protocols ++ [normalized] }
  match self.inboxes.get normalized with
  | some existing => (existing, self)
  | none =>
    let inbox := self.queues.length
    let self := { self with
      queues := self.queues ++ [TtlQueue.new DEFAULT_INBOX_CAPACITY inbox_capacity_pos]
      inboxes := self.inboxes.insert normalized inbox }
    (inbox, if self.router.isSome then self.reload_router_if_running else self.start_router)

def remove_service (self : IrohEndpoint) (protocol : String) : Bool × IrohEndpoint :=
  let normalized := normalize_protocol protocol
  if self.inboxes.contains_key normalized then
    (true, reload_router_if_running { self with
      inboxes := self.inboxes.remove normalized
      protocols := self.protocols.filter (· != normalized) })
  else (false, self)

end IrohEndpoint

section
variable (lib : Lib)

/-- What `LoopbackWire::send_payload` checks before it pushes. -/
def LoopbackWire.receive (clock : Clock) (payload : Bytes) : MaResult Message := do
  let message ← Message.decode lib payload
  (message.headers lib).validate lib clock
  return message

/-- `LoopbackWire::send_payload`. -/
def LoopbackWire.send_payload (inbox : Inbox) (clock : Clock) (payload : Bytes)
    (world : IrohEndpoint) : ServiceResult Unit × IrohEndpoint :=
  match validated (LoopbackWire.receive lib clock payload) with
  | .error e => (.error e, world)
  | .ok message =>
    match now_secs clock with
    | .error e => (.error e, world)
    | .ok now => (.ok (), world.push inbox now message)

/-- A `LoopbackWire` into an inbox. -/
def LoopbackWire (inbox : Inbox) : OutboxWire IrohEndpoint where
  send_payload := LoopbackWire.send_payload lib inbox

namespace IrohEndpoint

/-- The inbox registered for a protocol, or the error of the local paths. -/
def local_inbox (self : IrohEndpoint) (protocol : String) : ServiceResult Inbox :=
  ok_or (.NoInboxTransport ("no local inbox for " ++ protocol))
    (self.inboxes.get (normalize_protocol protocol))

/-- `connect_outbox`; `connect` is what dialling another endpoint comes to. -/
def connect_outbox (self : IrohEndpoint) (doc : Document) (endpoint_id did protocol : String)
    (connect : ServiceResult (OutboxWire IrohEndpoint)) : ServiceResult (Outbox IrohEndpoint) := do
  if endpoint_id = self.id then
    let inbox ← self.local_inbox protocol
    return Outbox.from_transport (LoopbackWire lib inbox) doc true did protocol
  else
    let connection ← connect
    return Outbox.from_transport connection doc false did protocol

/-- The checks `send_broadcast_to` makes for every target. -/
def check_broadcast (clock : Clock) (message : Message) : ServiceResult Unit := do
  validated ((message.headers lib).validate lib clock)
  reject_if (message.message_type != MESSAGE_TYPE_BROADCAST) (.Validation .InvalidMessageType)

/-- `send_broadcast_to`; `transmit` is what sending bytes to another endpoint comes to. -/
def send_broadcast_to (clock : Clock) (self : IrohEndpoint) (target protocol : String)
    (message : Message) (transmit : Bytes → ServiceResult Unit) : ServiceResult Unit × IrohEndpoint :=
  match check_broadcast lib clock message with
  | .error e => (.error e, self)
  | .ok () =>
    if target = self.id then
      match self.local_inbox protocol, now_secs clock with
      | .error e, _ => (.error e, self)
      | .ok _, .error e => (.error e, self)
      | .ok inbox, .ok now => (.ok (), self.push inbox now message)
    else
      (validated message.encode >>= transmit, self)

/-- What a handler's task does with the payload of a stream: a payload over the
    size limit is not read, one that does not decode is dropped. -/
def receive_stream (clock : Clock) (resolver : Resolver) (self : IrohEndpoint)
    (handler : InboxProtocolHandler) (payload : Bytes) : IrohEndpoint :=
  if DEFAULT_MAX_INBOUND_MESSAGE_SIZE < payload.length then self
  else
    match self.inbound_security.decode lib clock resolver payload handler.protocol with
    | (.error _, inbound_security) => { self with inbound_security }
    | (.ok message, inbound_security) =>
      match now_secs (ε := Error) clock with
      | .error _ => { self with inbound_security }
      | .ok now => ({ self with inbound_security } : IrohEndpoint).push handler.inbox now message

/-- `spawn_outbound_accept_loop`: the streams of a dialled connection are served
    only if the protocol is registered then. -/
def spawn_outbound_accept_loop (self : IrohEndpoint) (protocol : String) :
    Option InboxProtocolHandler :=
  (self.inboxes.get (normalize_protocol protocol)).map fun inbox =>
    ⟨normalize_protocol protocol, inbox⟩

end IrohEndpoint

end

section
variable {lib : Lib} {clock : Clock} {self : IrohEndpoint} {inbox : Inbox} {m : Message}
  {payload : Bytes}

theorem LoopbackWire.receive_eq_ok_iff :
    LoopbackWire.receive lib clock payload = .ok m ↔
      Message.decode lib payload = .ok m ∧ (m.headers lib).Valid lib clock := by
  unfold LoopbackWire.receive
  simp only [bind_eq_ok_iff, exists_unit, Headers.validate_eq_ok_iff]
  constructor
  · rintro ⟨_, hdecode, hvalid, hm⟩
    cases hm
    exact ⟨hdecode, hvalid⟩
  · rintro ⟨hdecode, hvalid⟩
    exact ⟨m, hdecode, hvalid, rfl⟩

/-- Loopback delivery pushes what it received, -/
theorem LoopbackWire.send_payload_of_receive (inbox : Inbox) (world : IrohEndpoint)
    (hreceive : LoopbackWire.receive lib clock payload = .ok m) :
    ∃ now, clock = some now ∧
      LoopbackWire.send_payload lib inbox clock payload world = (.ok (), world.push inbox now m) := by
  obtain ⟨now, rfl, _⟩ := (LoopbackWire.receive_eq_ok_iff.mp hreceive).2.fresh
  refine ⟨now, rfl, ?_⟩
  unfold LoopbackWire.send_payload
  rw [hreceive]
  rfl

/-- and nothing if it refuses. -/
theorem LoopbackWire.send_payload_cases (lib : Lib) (inbox : Inbox) (clock : Clock) (payload : Bytes)
    (world : IrohEndpoint) :
    (∃ m now, clock = some now ∧ LoopbackWire.receive lib clock payload = .ok m ∧
      LoopbackWire.send_payload lib inbox clock payload world = (.ok (), world.push inbox now m)) ∨
    ∃ e, LoopbackWire.send_payload lib inbox clock payload world = (.error e, world) := by
  cases hreceive : LoopbackWire.receive lib clock payload with
  | error e =>
    right
    unfold LoopbackWire.send_payload
    rw [hreceive]
    rcases e with cause | _
    · exact ⟨_, rfl⟩
    · exact ⟨_, rfl⟩
  | ok m =>
    left
    obtain ⟨now, hclock, hsend⟩ := LoopbackWire.send_payload_of_receive inbox world hreceive
    exact ⟨m, now, hclock, rfl, hsend⟩

theorem IrohEndpoint.check_broadcast_eq_ok_iff :
    check_broadcast lib clock m = .ok () ↔
      (m.headers lib).Valid lib clock ∧ m.message_type = MESSAGE_TYPE_BROADCAST := by
  simp [check_broadcast, bind_eq_ok_iff, exists_unit, Headers.validate_eq_ok_iff]

/-- A broadcast to this endpoint is pushed into the protocol's inbox. -/
theorem IrohEndpoint.send_broadcast_to_local {now : UInt64} {protocol : String}
    (transmit : Bytes → ServiceResult Unit)
    (hinbox : self.inboxes.get (normalize_protocol protocol) = some inbox)
    (hvalid : (m.headers lib).Valid lib (some now))
    (hbroadcast : m.message_type = MESSAGE_TYPE_BROADCAST) :
    self.send_broadcast_to lib (some now) self.id protocol m transmit =
      (.ok (), self.push inbox now m) := by
  have hcheck : check_broadcast lib (some now) m = .ok () :=
    check_broadcast_eq_ok_iff.mpr ⟨hvalid, hbroadcast⟩
  simp only [send_broadcast_to, hcheck, if_true, local_inbox, hinbox, ok_or, now_secs]

theorem IrohEndpoint.send_broadcast_to_cases (lib : Lib) (clock : Clock) (self : IrohEndpoint)
    (protocol : String) (m : Message) (transmit : Bytes → ServiceResult Unit) :
    (∃ inbox now, self.inboxes.get (normalize_protocol protocol) = some inbox ∧ clock = some now ∧
      (m.headers lib).Valid lib clock ∧ m.message_type = MESSAGE_TYPE_BROADCAST ∧
      self.send_broadcast_to lib clock self.id protocol m transmit =
        (.ok (), self.push inbox now m)) ∨
    ∃ e, self.send_broadcast_to lib clock self.id protocol m transmit = (.error e, self) := by
  cases hcheck : check_broadcast lib clock m with
  | error e => exact .inr ⟨e, by simp only [send_broadcast_to, hcheck]⟩
  | ok _ =>
    obtain ⟨hvalid, hbroadcast⟩ := check_broadcast_eq_ok_iff.mp hcheck
    obtain ⟨now, rfl, _⟩ := hvalid.fresh
    cases hinbox : self.inboxes.get (normalize_protocol protocol) with
    | none =>
      exact .inr ⟨.err (.NoInboxTransport ("no local inbox for " ++ protocol)),
        by simp [send_broadcast_to, hcheck, local_inbox, hinbox, ok_or]⟩
    | some inbox =>
      exact .inl ⟨inbox, now, rfl, rfl, hvalid, hbroadcast,
        send_broadcast_to_local transmit hinbox hvalid hbroadcast⟩

/-- A stream whose payload decodes has its message pushed. -/
theorem IrohEndpoint.receive_stream_accepts {resolver : Resolver} {handler : InboxProtocolHandler}
    (hsize : payload.length ≤ DEFAULT_MAX_INBOUND_MESSAGE_SIZE)
    (hdecode : (self.inbound_security.decode lib clock resolver payload handler.protocol).1 = .ok m) :
    ∃ now, clock = some now ∧ self.receive_stream lib clock resolver handler payload =
      IrohEndpoint.push { self with inbound_security :=
        (self.inbound_security.decode lib clock resolver payload handler.protocol).2 }
        handler.inbox now m := by
  obtain ⟨hauth, _⟩ := InboundSecurity.decode_ok_iff.mp hdecode
  obtain ⟨now, rfl, _⟩ := (InboundSecurity.valid_of_authenticate hauth).fresh
  refine ⟨now, rfl, ?_⟩
  unfold receive_stream
  rw [if_neg (by omega)]
  cases hcall : self.inbound_security.decode lib (some now) resolver payload handler.protocol with
  | mk result inbound_security =>
    rw [hcall] at hdecode
    cases hdecode
    rfl

/-- Any other stream leaves the queues alone. -/
theorem IrohEndpoint.receive_stream_refuses {resolver : Resolver} {handler : InboxProtocolHandler}
    (hrefused : DEFAULT_MAX_INBOUND_MESSAGE_SIZE < payload.length ∨
      ∀ m, (self.inbound_security.decode lib clock resolver payload handler.protocol).1 ≠ .ok m) :
    ∃ inbound_security,
      self.receive_stream lib clock resolver handler payload = { self with inbound_security } := by
  unfold receive_stream
  by_cases hsize : DEFAULT_MAX_INBOUND_MESSAGE_SIZE < payload.length
  · rw [if_pos hsize]
    exact ⟨self.inbound_security, rfl⟩
  · rw [if_neg hsize]
    have hnone := hrefused.resolve_left hsize
    cases hcall : self.inbound_security.decode lib clock resolver payload handler.protocol with
    | mk result inbound_security =>
      rw [hcall] at hnone
      cases result with
      | error e => exact ⟨inbound_security, rfl⟩
      | ok m => exact absurd rfl (hnone m)

/-- The handler of a dialled connection is for the protocol dialled with, -/
theorem IrohEndpoint.spawn_outbound_accept_loop_protocol {protocol : String} {handler : InboxProtocolHandler}
    (hhandler : self.spawn_outbound_accept_loop protocol = some handler) :
    handler.protocol = normalize_protocol protocol := by
  obtain ⟨inbox, _, heq⟩ := Option.map_eq_some_iff.mp hhandler
  rw [← heq]

/-- and holds the inbox registered for it. -/
theorem IrohEndpoint.spawn_outbound_accept_loop_inbox (self : IrohEndpoint) (protocol : String) :
    (self.spawn_outbound_accept_loop protocol).map InboxProtocolHandler.inbox =
      self.inboxes.get (normalize_protocol protocol) := by
  unfold spawn_outbound_accept_loop
  rw [Option.map_map]
  exact Option.map_id'

/-- An outbox to this endpoint delivers by loopback. -/
theorem IrohEndpoint.connect_outbox_local {doc : Document} {did protocol : String}
    {connect : ServiceResult (OutboxWire IrohEndpoint)} {outbox : Outbox IrohEndpoint}
    (hconnect : self.connect_outbox lib doc self.id did protocol connect = .ok outbox) :
    ∃ inbox, outbox = Outbox.from_transport (LoopbackWire lib inbox) doc true did protocol := by
  simp only [connect_outbox, if_true, bind_eq_ok_iff] at hconnect
  obtain ⟨inbox, _, houtbox⟩ := hconnect
  cases houtbox
  exact ⟨inbox, rfl⟩

end

end ma_core.iroh
