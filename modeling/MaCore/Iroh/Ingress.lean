import MaCore.Base.Transition
import MaCore.Iroh.Endpoint
import MaCore.Reference

open rust transition
open ma_core.error ma_core.did ma_core.key ma_core.doc ma_core.msg ma_core.service ma_core.outbox
open ma_core.ttl_queue ma_core.reference

namespace ma_core.iroh

/-- The ways into an inbox: a stream of a remote peer, served by the router or
    by an outbound accept loop, and the two deliveries within the process. -/
inductive Path where
  | stream
  | loopback
  | local_broadcast
deriving DecidableEq, Repr

/-- A message that entered an inbox, and what the endpoint knew then. -/
structure Entry where
  path : Path
  message : Message
  protocol : String
  clock : Clock
  resolver : Resolver
  before : ReplayGuard
  after : ReplayGuard

/-- The sender was verified, or the message was exempt, and the guard let its
    identifier pass: it did not hold it before and holds it from then on. -/
structure Entry.Admitted (lib : Lib) (entry : Entry) : Prop where
  verified : InboundSecurity.VerifiedOrExempt lib entry.clock entry.resolver entry.protocol
    entry.message
  unseen : ∀ now, entry.clock = some now → ¬ entry.before.Holds now entry.message.id
  recorded : ∀ now, entry.clock = some now → entry.after.Holds now entry.message.id

/-- An endpoint with the tasks that serve streams for it, the outboxes to
    itself, and the messages that entered its inboxes and left them. -/
structure System where
  endpoint : IrohEndpoint
  handlers : List InboxProtocolHandler
  outboxes : List (Outbox IrohEndpoint)
  entered : List Entry
  handed : List Message

inductive Event where
  | service (protocol : String)
  | remove_service (protocol : String)
  | start_router
  | dial (protocol : String)
  | connect (doc : Document) (did protocol : String) (outbox : Outbox IrohEndpoint)
  | stream (handler : InboxProtocolHandler) (payload : Bytes) (clock : Clock) (resolver : Resolver)
  | send (outbox : Outbox IrohEndpoint) (message : Message) (entropy : Entropy) (clock : Clock)
    (resolver : Resolver)
  | broadcast (protocol : String) (message : Message) (clock : Clock) (resolver : Resolver)
  | pop (inbox : Inbox) (now : UInt64)
  | drain (inbox : Inbox) (now : UInt64)

namespace System

def start (id : String) (recipient_key : EncryptionKey) : System where
  endpoint := IrohEndpoint.new id recipient_key
  handlers := []
  outboxes := []
  entered := []
  handed := []

/-- A reconfigured endpoint; the handlers of its router may serve streams from
    then on, and those of earlier routers still may. -/
def reconfigured (self : System) (endpoint : IrohEndpoint) : System :=
  { self with endpoint, handlers := self.handlers ++ endpoint.router.getD [] }

def guard (self : System) : ReplayGuard := self.endpoint.inbound_security.replay_guard

/-- The endpoint after a message entered. -/
def enter (self : System) (endpoint : IrohEndpoint) (path : Path) (message : Message)
    (protocol : String) (clock : Clock) (resolver : Resolver) : System :=
  { self with
    endpoint
    entered := self.entered ++ [⟨path, message, protocol, clock, resolver, self.guard,
      endpoint.inbound_security.replay_guard⟩] }

/-- The queue behind a handle after a consumer took these messages from it. -/
def take (self : System) (inbox : Inbox) (taken : List Message) (queue : TtlQueue Message) :
    System :=
  { self with
    endpoint := { self.endpoint with queues := self.endpoint.queues.set inbox queue }
    handed := self.handed ++ taken }

section
variable (lib : Lib)

/-- The steps of the endpoint and of those who use it. A delivery step is for a
    message that entered; one that was refused leaves the inboxes alone. -/
inductive Step : System → Event → System → Prop
  | service (s : System) (protocol : String) :
    Step s (.service protocol) (s.reconfigured (s.endpoint.service protocol).2)
  | remove_service (s : System) (protocol : String) :
    Step s (.remove_service protocol) (s.reconfigured (s.endpoint.remove_service protocol).2)
  | start_router (s : System) : Step s .start_router (s.reconfigured s.endpoint.start_router)
  | dial (s : System) (protocol : String) :
    Step s (.dial protocol) { s with
      handlers := s.handlers ++ (s.endpoint.spawn_outbound_accept_loop protocol).toList }
  | connect (s : System) (doc : Document) (did protocol : String) (outbox : Outbox IrohEndpoint)
    (connect : ServiceResult (OutboxWire IrohEndpoint))
    (houtbox : s.endpoint.connect_outbox lib doc s.endpoint.id did protocol connect = .ok outbox) :
    Step s (.connect doc did protocol outbox) { s with outboxes := s.outboxes ++ [outbox] }
  | stream (s : System) (handler : InboxProtocolHandler) (payload : Bytes) (clock : Clock)
    (resolver : Resolver) (m : Message) (hhandler : handler ∈ s.handlers)
    (hsize : payload.length ≤ DEFAULT_MAX_INBOUND_MESSAGE_SIZE)
    (hdecode : (s.endpoint.inbound_security.decode lib clock resolver payload
      handler.protocol).1 = .ok m) :
    Step s (.stream handler payload clock resolver)
      (s.enter (s.endpoint.receive_stream lib clock resolver handler payload) .stream m
        handler.protocol clock resolver)
  | stream_refused (s : System) (handler : InboxProtocolHandler) (payload : Bytes) (clock : Clock)
    (resolver : Resolver) (hhandler : handler ∈ s.handlers)
    (hrefused : DEFAULT_MAX_INBOUND_MESSAGE_SIZE < payload.length ∨
      ∀ m, (s.endpoint.inbound_security.decode lib clock resolver payload
        handler.protocol).1 ≠ .ok m) :
    Step s (.stream handler payload clock resolver)
      { s with endpoint := s.endpoint.receive_stream lib clock resolver handler payload }
  | send (s : System) (outbox : Outbox IrohEndpoint) (message : Message) (entropy : Entropy)
    (clock : Clock) (resolver : Resolver) (payload : Bytes) (m : Message)
    (houtbox : outbox ∈ s.outboxes)
    (hpayload : outbox.payload lib clock entropy message = .ok payload)
    (hreceive : LoopbackWire.receive lib clock payload = .ok m) :
    Step s (.send outbox message entropy clock resolver)
      (s.enter (outbox.send lib clock entropy message s.endpoint).2 .loopback m outbox.protocol clock
        resolver)
  | send_refused (s : System) (outbox : Outbox IrohEndpoint) (message : Message) (entropy : Entropy)
    (clock : Clock) (resolver : Resolver) (houtbox : outbox ∈ s.outboxes)
    (hrefused : ∀ payload m, outbox.payload lib clock entropy message = .ok payload →
      LoopbackWire.receive lib clock payload ≠ .ok m) :
    Step s (.send outbox message entropy clock resolver)
      { s with endpoint := (outbox.send lib clock entropy message s.endpoint).2 }
  | broadcast (s : System) (protocol : String) (message : Message) (clock : Clock)
    (resolver : Resolver) (transmit : Bytes → ServiceResult Unit)
    (hsend : (s.endpoint.send_broadcast_to lib clock s.endpoint.id protocol message
      transmit).1 = .ok ()) :
    Step s (.broadcast protocol message clock resolver)
      (s.enter (s.endpoint.send_broadcast_to lib clock s.endpoint.id protocol message transmit).2
        .local_broadcast message protocol clock resolver)
  | broadcast_refused (s : System) (protocol : String) (message : Message) (clock : Clock)
    (resolver : Resolver) (transmit : Bytes → ServiceResult Unit)
    (hrefused : (s.endpoint.send_broadcast_to lib clock s.endpoint.id protocol message
      transmit).1 ≠ .ok ()) :
    Step s (.broadcast protocol message clock resolver)
      { s with endpoint :=
          (s.endpoint.send_broadcast_to lib clock s.endpoint.id protocol message transmit).2 }
  | pop (s : System) (inbox : Inbox) (now : UInt64) (queue : TtlQueue Message)
    (hqueue : s.endpoint.queues[inbox]? = some queue) :
    Step s (.pop inbox now) (s.take inbox (queue.pop now).1.toList (queue.pop now).2)
  | drain (s : System) (inbox : Inbox) (now : UInt64) (queue : TtlQueue Message)
    (hqueue : s.endpoint.queues[inbox]? = some queue) :
    Step s (.drain inbox now) (s.take inbox (queue.drain now).1 (queue.drain now).2)

end

/-- A message is in one of the queues. -/
def Stored (endpoint : IrohEndpoint) (m : Message) : Prop :=
  ∃ queue ∈ endpoint.queues, ∃ expires_at, (expires_at, m) ∈ queue.buf

/-- Every message in a queue or handed to a consumer entered by a logged step. -/
def Logged (self : System) : Prop :=
  ∀ m, Stored self.endpoint m ∨ m ∈ self.handed → ∃ entry ∈ self.entered, entry.message = m

section
variable {lib : Lib} {s t : System} {event : Event} {endpoint endpoint' : IrohEndpoint}
  {inbox : Inbox} {now : UInt64} {m : Message}

theorem stored_push {m' : Message} (hstored : Stored (endpoint.push inbox now m) m') :
    m' = m ∨ Stored endpoint m' := by
  obtain ⟨queue, hqueue, expires_at, hmem⟩ := hstored
  obtain ⟨i, hi⟩ := List.getElem?_of_mem hqueue
  simp only [IrohEndpoint.push, List.getElem?_modify] at hi
  by_cases hinbox : inbox = i
  · simp only [hinbox, if_true, Option.map_eq_map, Option.map_eq_some_iff] at hi
    obtain ⟨old, hold, rfl⟩ := hi
    rcases TtlQueue.mem_push hmem with hnew | hkept
    · cases hnew
      exact .inl rfl
    · exact .inr ⟨old, List.mem_of_getElem? hold, expires_at, hkept⟩
  · simp only [hinbox, if_false, Option.map_eq_map, Option.map_eq_some_iff] at hi
    obtain ⟨old, hold, rfl⟩ := hi
    exact .inr ⟨_, List.mem_of_getElem? hold, expires_at, hmem⟩

theorem start_router_queues (endpoint : IrohEndpoint) :
    endpoint.start_router.queues = endpoint.queues := by
  unfold IrohEndpoint.start_router
  split <;> rfl

theorem reload_router_queues (endpoint : IrohEndpoint) :
    endpoint.reload_router_if_running.queues = endpoint.queues := by
  unfold IrohEndpoint.reload_router_if_running
  split
  · rfl
  · exact start_router_queues _

/-- Registering a service adds at most an empty queue. -/
theorem service_queues (endpoint : IrohEndpoint) (protocol : String) :
    (endpoint.service protocol).2.queues = endpoint.queues ∨
      (endpoint.service protocol).2.queues =
        endpoint.queues ++ [TtlQueue.new DEFAULT_INBOX_CAPACITY inbox_capacity_pos] := by
  simp only [IrohEndpoint.service]
  generalize hself : (if endpoint.protocols.contains (normalize_protocol protocol) = true then endpoint
    else { endpoint with
      protocols := endpoint.protocols ++ [normalize_protocol protocol] }) = self
  have hqueues : self.queues = endpoint.queues := by
    rw [← hself]
    split <;> rfl
  split
  · exact .inl hqueues
  · right
    split <;> simp only [reload_router_queues, start_router_queues, hqueues]

theorem remove_service_queues (endpoint : IrohEndpoint) (protocol : String) :
    (endpoint.remove_service protocol).2.queues = endpoint.queues := by
  simp only [IrohEndpoint.remove_service]
  split
  · exact reload_router_queues _
  · rfl

theorem stored_service {protocol : String}
    (hstored : Stored (endpoint.service protocol).2 m) : Stored endpoint m := by
  obtain ⟨queue, hqueue, expires_at, hmem⟩ := hstored
  rcases service_queues endpoint protocol with hsame | hnew
  · rw [hsame] at hqueue
    exact ⟨queue, hqueue, expires_at, hmem⟩
  · rw [hnew] at hqueue
    rcases List.mem_append.mp hqueue with hold | hempty
    · exact ⟨queue, hold, expires_at, hmem⟩
    · rw [List.mem_singleton.mp hempty] at hmem
      cases hmem

theorem stored_remove_service {protocol : String}
    (hstored : Stored (endpoint.remove_service protocol).2 m) : Stored endpoint m := by
  obtain ⟨queue, hqueue, hentry⟩ := hstored
  rw [remove_service_queues] at hqueue
  exact ⟨queue, hqueue, hentry⟩

theorem stored_start_router (hstored : Stored endpoint.start_router m) : Stored endpoint m := by
  obtain ⟨queue, hqueue, hentry⟩ := hstored
  rw [start_router_queues] at hqueue
  exact ⟨queue, hqueue, hentry⟩

theorem stored_set {queue : TtlQueue Message}
    (hstored : Stored { endpoint with queues := endpoint.queues.set inbox queue } m)
    {old : TtlQueue Message} (hold : endpoint.queues[inbox]? = some old)
    (hsub : ∀ entry ∈ queue.buf, entry ∈ old.buf) : Stored endpoint m := by
  obtain ⟨queue', hqueue, expires_at, hmem⟩ := hstored
  rcases List.mem_or_eq_of_mem_set hqueue with hother | rfl
  · exact ⟨queue', hother, expires_at, hmem⟩
  · exact ⟨old, List.mem_of_getElem? hold, expires_at, hsub _ hmem⟩

/-- A logged system stays one when no message is added. -/
theorem Logged.of_stored {next : System} (hlogged : s.Logged)
    (hentered : next.entered = s.entered) (hhanded : next.handed = s.handed)
    (hstored : ∀ m, Stored next.endpoint m → Stored s.endpoint m) : next.Logged := by
  intro m hm
  rw [hentered]
  rw [hhanded] at hm
  exact hlogged m (hm.imp_left (hstored m))

/-- A logged system stays one when the message that is added is logged. -/
theorem Logged.enter {path : Path} {protocol : String} {clock : Clock} {resolver : Resolver}
    (hlogged : s.Logged) (hstored : ∀ m', Stored endpoint m' → m' = m ∨ Stored s.endpoint m') :
    (s.enter endpoint path m protocol clock resolver).Logged := by
  intro m' hm'
  have hcases : m' = m ∨ Stored s.endpoint m' ∨ m' ∈ s.handed := by
    rcases hm' with hin | hout
    · exact (hstored m' hin).imp_right .inl
    · exact .inr (.inr hout)
  rcases hcases with rfl | hold
  · exact ⟨_, List.mem_append_right _ (List.mem_singleton.mpr rfl), rfl⟩
  · obtain ⟨entry, hentry, hmessage⟩ := hlogged m' hold
    exact ⟨entry, List.mem_append_left _ hentry, hmessage⟩

theorem Logged.take {taken : List Message} {queue old : TtlQueue Message} (hlogged : s.Logged)
    (hold : s.endpoint.queues[inbox]? = some old) (hsub : ∀ entry ∈ queue.buf, entry ∈ old.buf)
    (htaken : ∀ m ∈ taken, ∃ expires_at, (expires_at, m) ∈ old.buf) :
    (s.take inbox taken queue).Logged := by
  intro m hm
  apply hlogged m
  rcases hm with hin | hout
  · exact .inl (stored_set hin hold hsub)
  · rcases List.mem_append.mp hout with hbefore | hnow
    · exact .inr hbefore
    · obtain ⟨expires_at, hmem⟩ := htaken m hnow
      exact .inl ⟨old, List.mem_of_getElem? hold, expires_at, hmem⟩

/-- The outboxes of a system are loopbacks. -/
def LoopbackOutboxes (lib : Lib) (self : System) : Prop :=
  ∀ outbox ∈ self.outboxes, ∃ inbox doc did protocol,
    outbox = Outbox.from_transport (LoopbackWire lib inbox) doc true did protocol

theorem step_loopbackOutboxes (hstep : Step lib s event t) (houtboxes : s.LoopbackOutboxes lib) :
    t.LoopbackOutboxes lib := by
  cases hstep with
  | connect doc did protocol outbox connect houtbox =>
    intro other hother
    rcases List.mem_append.mp hother with hold | hnew
    · exact houtboxes other hold
    · rw [List.mem_singleton.mp hnew]
      obtain ⟨inbox, hinbox⟩ := IrohEndpoint.connect_outbox_local houtbox
      exact ⟨inbox, doc, did, protocol, hinbox⟩
  | service | remove_service | start_router | dial | stream | stream_refused | send | send_refused
  | broadcast | broadcast_refused | pop | drain => exact houtboxes

/-- Sending by loopback keeps the endpoint's security as it is and stores at
    most the received message. -/
theorem send_loopback {outbox : Outbox IrohEndpoint} {message : Message} {entropy : Entropy}
    {clock : Clock} (hloopback : ∃ inbox doc did protocol,
      outbox = Outbox.from_transport (LoopbackWire lib inbox) doc true did protocol) :
    (outbox.send lib clock entropy message endpoint).2.inbound_security = endpoint.inbound_security ∧
    ∀ m', Stored (outbox.send lib clock entropy message endpoint).2 m' →
      (∃ payload, outbox.payload lib clock entropy message = .ok payload ∧
        LoopbackWire.receive lib clock payload = .ok m') ∨ Stored endpoint m' := by
  obtain ⟨inbox, doc, did, protocol, rfl⟩ := hloopback
  cases hpayload : (Outbox.from_transport (LoopbackWire lib inbox) doc true did protocol).payload
      lib clock entropy message with
  | error e =>
    have hsend : ((Outbox.from_transport (LoopbackWire lib inbox) doc true did protocol).send lib
        clock entropy message endpoint).2 = endpoint := by
      rw [Outbox.send, hpayload]
      rcases e with cause | _ <;> rfl
    rw [hsend]
    exact ⟨rfl, fun _ hstored => .inr hstored⟩
  | ok payload =>
    rw [Outbox.send_eq lib clock entropy hpayload rfl]
    rcases LoopbackWire.send_payload_cases lib inbox clock payload endpoint with
      ⟨m, now, _, hreceive, hsend⟩ | ⟨e, hsend⟩
    · rw [show (LoopbackWire lib inbox).send_payload clock payload endpoint = _ from hsend]
      refine ⟨rfl, fun m' hstored => ?_⟩
      rcases stored_push hstored with rfl | hold
      · exact .inl ⟨payload, rfl, hreceive⟩
      · exact .inr hold
    · rw [show (LoopbackWire lib inbox).send_payload clock payload endpoint = _ from hsend]
      exact ⟨rfl, fun _ hstored => .inr hstored⟩

theorem step_logged (hstep : Step lib s event t) (houtboxes : s.LoopbackOutboxes lib)
    (hlogged : s.Logged) : t.Logged := by
  cases hstep with
  | service protocol => exact hlogged.of_stored rfl rfl fun _ => stored_service
  | remove_service protocol => exact hlogged.of_stored rfl rfl fun _ => stored_remove_service
  | start_router => exact hlogged.of_stored rfl rfl fun _ => stored_start_router
  | dial protocol => exact hlogged.of_stored rfl rfl fun _ h => h
  | connect => exact hlogged.of_stored rfl rfl fun _ h => h
  | stream handler payload clock resolver m hhandler hsize hdecode =>
    apply hlogged.enter
    intro m' hstored
    obtain ⟨now, _, hreceive⟩ := IrohEndpoint.receive_stream_accepts hsize hdecode
    rw [hreceive] at hstored
    exact stored_push hstored
  | stream_refused handler payload clock resolver hhandler hrefused =>
    refine hlogged.of_stored rfl rfl fun m' hstored => ?_
    obtain ⟨inbound_security, hreceive⟩ := IrohEndpoint.receive_stream_refuses hrefused
    rw [hreceive] at hstored
    exact hstored
  | send outbox message entropy clock resolver payload m houtbox hpayload hreceive =>
    apply hlogged.enter
    intro m' hstored
    rcases (send_loopback (houtboxes outbox houtbox)).2 m' hstored with
      ⟨payload', hpayload', hreceive'⟩ | hold
    · rw [hpayload] at hpayload'
      cases hpayload'
      rw [hreceive] at hreceive'
      cases hreceive'
      exact .inl rfl
    · exact .inr hold
  | send_refused outbox message entropy clock resolver houtbox hrefused =>
    refine hlogged.of_stored rfl rfl fun m' hstored => ?_
    rcases (send_loopback (houtboxes outbox houtbox)).2 m' hstored with
      ⟨payload, hpayload, hreceive⟩ | hold
    · exact absurd hreceive (hrefused payload m' hpayload)
    · exact hold
  | broadcast protocol message clock resolver transmit hsend =>
    apply hlogged.enter
    intro m' hstored
    rcases IrohEndpoint.send_broadcast_to_cases lib clock s.endpoint protocol message transmit with
      ⟨inbox, now, _, _, _, _, hcall⟩ | ⟨e, hcall⟩
    · rw [hcall] at hstored
      exact stored_push hstored
    · rw [hcall] at hsend
      cases hsend
  | broadcast_refused protocol message clock resolver transmit hrefused =>
    refine hlogged.of_stored rfl rfl fun m' hstored => ?_
    rcases IrohEndpoint.send_broadcast_to_cases lib clock s.endpoint protocol message transmit with
      ⟨inbox, now, _, _, _, _, hcall⟩ | ⟨e, hcall⟩
    · exact absurd (by rw [hcall]) hrefused
    · rw [hcall] at hstored
      exact hstored
  | pop inbox now queue hqueue =>
    refine hlogged.take hqueue (fun _ => TtlQueue.mem_of_mem_pop) fun m hm => ?_
    exact TtlQueue.mem_pop (Option.mem_toList.mp hm)
  | drain inbox now queue hqueue =>
    refine hlogged.take hqueue (fun _ hmem => by cases hmem) fun m hm => ?_
    exact TtlQueue.mem_drain hm

/-- What decoding a stream accepts is admitted. -/
theorem stream_admitted {handler : InboxProtocolHandler} {payload : Bytes} {clock : Clock}
    {resolver : Resolver} {security : InboundSecurity}
    (hdecode : (security.decode lib clock resolver payload handler.protocol).1 = .ok m) :
    Entry.Admitted lib ⟨.stream, m, handler.protocol, clock, resolver, security.replay_guard,
      (security.decode lib clock resolver payload handler.protocol).2.replay_guard⟩ := by
  obtain ⟨hauth, haccept⟩ := InboundSecurity.decode_ok_iff.mp hdecode
  obtain ⟨_, _, hcheck⟩ := InboundSecurity.authenticate_eq_ok_iff.mp hauth
  refine ⟨(InboundSecurity.check_eq_ok_iff.mp hcheck).2.2,
    (ReplayGuard.check_and_insert_ok_iff.mp haccept).2, ?_⟩
  rintro now ⟨⟩
  simp only [InboundSecurity.decode_replay_guard hdecode]
  exact ReplayGuard.holds_of_check_and_insert haccept

/-- A delivery that does not ask the guard is not admitted. -/
theorem Entry.not_admitted {entry : Entry} (hguard : entry.after = entry.before)
    (hclock : entry.clock ≠ none) : ¬ entry.Admitted lib := by
  rintro ⟨_, hunseen, hrecorded⟩
  obtain ⟨now, hnow⟩ := Option.ne_none_iff_exists'.mp hclock
  have hheld := hrecorded now hnow
  rw [hguard] at hheld
  exact hunseen now hnow hheld

/-- The entries that were admitted are those that came by a stream. -/
def AdmitsStreams (lib : Lib) (self : System) : Prop :=
  ∀ entry ∈ self.entered, entry.Admitted lib ↔ entry.path = .stream

theorem AdmitsStreams.enter {path : Path} {protocol : String} {clock : Clock} {resolver : Resolver}
    (hadmits : s.AdmitsStreams lib)
    (hentry : Entry.Admitted lib ⟨path, m, protocol, clock, resolver, s.guard,
      endpoint.inbound_security.replay_guard⟩ ↔ path = .stream) :
    (s.enter endpoint path m protocol clock resolver).AdmitsStreams lib := by
  intro entry hmem
  rcases List.mem_append.mp hmem with hold | hnew
  · exact hadmits entry hold
  · rw [List.mem_singleton.mp hnew]
    exact hentry

theorem step_admitsStreams (hstep : Step lib s event t) (houtboxes : s.LoopbackOutboxes lib)
    (hadmits : s.AdmitsStreams lib) : t.AdmitsStreams lib := by
  cases hstep with
  | stream handler payload clock resolver m hhandler hsize hdecode =>
    obtain ⟨now, _, hreceive⟩ := IrohEndpoint.receive_stream_accepts hsize hdecode
    refine hadmits.enter ⟨fun _ => rfl, fun _ => ?_⟩
    rw [hreceive]
    exact stream_admitted hdecode
  | send outbox message entropy clock resolver payload m houtbox hpayload hreceive =>
    obtain ⟨now, hclock, _⟩ := (LoopbackWire.receive_eq_ok_iff.mp hreceive).2.fresh
    have hsecurity := (@send_loopback lib s.endpoint outbox message entropy clock (houtboxes outbox houtbox)).1
    refine hadmits.enter ⟨fun hadmitted => absurd hadmitted (Entry.not_admitted ?_ ?_), by simp⟩
    · rw [hsecurity]
      rfl
    · simp [hclock]
  | broadcast protocol message clock resolver transmit hsend =>
    rcases IrohEndpoint.send_broadcast_to_cases lib clock s.endpoint protocol message transmit with
      ⟨inbox, now, _, hclock, _, _, hcall⟩ | ⟨e, hcall⟩
    · refine hadmits.enter ⟨fun hadmitted => absurd hadmitted (Entry.not_admitted ?_ ?_), by simp⟩
      · rw [hcall]
        rfl
      · simp [hclock]
    · rw [hcall] at hsend
      cases hsend
  | service | remove_service | start_router | dial | connect | stream_refused | send_refused
  | broadcast_refused | pop | drain => exact hadmits

/-- What holds of every state of an endpoint's life. -/
structure Inv (lib : Lib) (s : System) : Prop where
  loopbacks : s.LoopbackOutboxes lib
  logged : s.Logged
  streams : s.AdmitsStreams lib

theorem start_inv (id : String) (recipient_key : EncryptionKey) :
    (start id recipient_key).Inv lib where
  loopbacks := by
    rintro _ ⟨⟩
  logged := by
    rintro m (⟨_, hqueue, _⟩ | hhanded)
    · cases hqueue
    · cases hhanded
  streams := by
    rintro _ ⟨⟩

theorem step_inv (hstep : Step lib s event t) (hinv : s.Inv lib) : t.Inv lib where
  loopbacks := step_loopbackOutboxes hstep hinv.loopbacks
  logged := step_logged hstep hinv.loopbacks hinv.logged
  streams := step_admitsStreams hstep hinv.loopbacks hinv.streams

theorem reachable_inv {id : String} {recipient_key : EncryptionKey}
    (hreach : Reachable (Step lib) (start id recipient_key) s) : s.Inv lib :=
  hreach.invariant (start_inv id recipient_key) fun hinv hstep => step_inv hstep hinv

/-- Whatever is in an inbox or was handed out entered on one of the paths, and
    a message that entered was admitted exactly if it came by a stream. -/
theorem entered_admitted_iff_stream {id : String} {recipient_key : EncryptionKey}
    (hreach : Reachable (Step lib) (start id recipient_key) s) :
    (∀ m, Stored s.endpoint m ∨ m ∈ s.handed → ∃ entry ∈ s.entered, entry.message = m) ∧
    ∀ entry ∈ s.entered, entry.Admitted lib ↔ entry.path = .stream :=
  ⟨(reachable_inv hreach).logged, (reachable_inv hreach).streams⟩

end

/-! An endpoint of the reference library that is sent a broadcast and sends
itself another that nobody signed. -/

def unsigned_broadcast : Message := { broadcast 1 "n" 0 with signature := [] }

theorem unsigned_broadcast_type : unsigned_broadcast.message_type = MESSAGE_TYPE_BROADCAST := rfl

theorem unsigned_broadcast_valid :
    (unsigned_broadcast.headers library).Valid library (some 1000) :=
  (broadcast_valid (show validate_message_id "n" = .ok () by decide)
    (@fresh_never 1000 (by decide))).resign _ []

theorem unsigned_broadcast_not_verified {clock : Clock} {resolver : Resolver} {protocol : String} :
    ¬ InboundSecurity.VerifiedOrExempt library clock resolver protocol unsigned_broadcast := by
  rintro (hexempt | ⟨document, _, hverify⟩)
  · simp only [skip_resolver_verification, Bool.and_eq_true, beq_iff_eq] at hexempt
    have htype : MESSAGE_TYPE_BROADCAST = MESSAGE_TYPE_IDENTITY_PUBLISH_REQUEST := hexempt.2
    exact absurd htype (by decide)
  · obtain ⟨_, _, _, _, _, _, hsignature, _⟩ := Message.verify_with_document_eq_ok_iff.mp hverify
    have hlength := congrArg List.length (ByteArr.try_from_eq_some_iff.mp hsignature)
    simp [unsigned_broadcast] at hlength

/-- The endpoint with its inbox registered. -/
def served : System :=
  (start "endpoint" (encryptionKey 2)).reconfigured
    ((start "endpoint" (encryptionKey 2)).endpoint.service INBOX_PROTOCOL_ID).2

theorem served_handlers : ⟨INBOX_PROTOCOL_ID, 0⟩ ∈ served.handlers := List.mem_singleton.mpr rfl

theorem served_inbox :
    served.endpoint.inboxes.get (normalize_protocol INBOX_PROTOCOL_ID) = some 0 := rfl

theorem broadcast_size :
    (wire (broadcast 1 "m" 0)).length ≤ DEFAULT_MAX_INBOUND_MESSAGE_SIZE :=
  Nat.le_trans (@broadcast_length_le 1 "m" 0 (show 1 ≤ 1024 by decide)).1 (by decide)

theorem served_decode :
    (served.endpoint.inbound_security.decode library (some 1000) (resolve [1, 2])
      (wire (broadcast 1 "m" 0)) INBOX_PROTOCOL_ID).1 = .ok (broadcast 1 "m" 0) := by
  have hsecurity : served.endpoint.inbound_security = InboundSecurity.new (encryptionKey 2) := rfl
  obtain ⟨_, _, hauth⟩ := broadcast_authentic (show validate_message_id "m" = .ok () by decide)
    (show 1 ≤ 1024 by decide) (@fresh_never 1000 (by decide)) resolve_1 (encryptionKey 2)
  rw [hsecurity, InboundSecurity.decode_ok_iff, ReplayGuard.check_and_insert_ok_iff]
  exact ⟨hauth, InboundSecurity.valid_of_authenticate hauth,
    fun _ _ => InboundSecurity.new_not_holds _ _ _⟩

/-- The endpoint after it served a stream with the signed broadcast. -/
def delivered : System :=
  served.enter (served.endpoint.receive_stream library (some 1000) (resolve [1, 2])
    ⟨INBOX_PROTOCOL_ID, 0⟩ (wire (broadcast 1 "m" 0))) .stream (broadcast 1 "m" 0) INBOX_PROTOCOL_ID
    (some 1000) (resolve [1, 2])

theorem delivered_inbox :
    delivered.endpoint.inboxes.get (normalize_protocol INBOX_PROTOCOL_ID) = some 0 := by
  obtain ⟨now, _, hreceive⟩ := @IrohEndpoint.receive_stream_accepts _ _ _ _ _ _
    ⟨INBOX_PROTOCOL_ID, 0⟩ broadcast_size served_decode
  simp only [delivered, enter, hreceive]
  exact served_inbox

theorem both_enter :
    ∃ s, Reachable (Step library) (start "endpoint" (encryptionKey 2)) s ∧
      (∃ entry ∈ s.entered, entry.path = .stream) ∧
      ∃ entry ∈ s.entered, entry.message = unsigned_broadcast := by
  have hservice : Step library (start "endpoint" (encryptionKey 2)) (.service INBOX_PROTOCOL_ID)
      served := .service _ _
  have hstream : Step library served _ delivered :=
    .stream served ⟨INBOX_PROTOCOL_ID, 0⟩ _ (some 1000) (resolve [1, 2]) _ served_handlers
      broadcast_size served_decode
  have hsend := IrohEndpoint.send_broadcast_to_local (fun _ => .ok ()) delivered_inbox
    unsigned_broadcast_valid unsigned_broadcast_type
  have hbroadcast := Step.broadcast delivered INBOX_PROTOCOL_ID unsigned_broadcast (some 1000)
    (resolve [1, 2]) (fun _ => .ok ()) (by rw [hsend])
  refine ⟨_, ⟨_, Run.cons hservice (Run.cons hstream (Run.single hbroadcast))⟩, ?_, ?_⟩
  · exact ⟨_, List.mem_append_left _ (List.mem_append_right _ (List.mem_singleton.mpr rfl)), rfl⟩
  · exact ⟨_, List.mem_append_right _ (List.mem_singleton.mpr rfl), rfl⟩

theorem entered_admitted_iff_stream_both_enter :
    ∃ s : System, (∃ entry ∈ s.entered, entry.path = .stream) ∧
      (∃ entry ∈ s.entered, entry.message = unsigned_broadcast) ∧
      (∀ m, Stored s.endpoint m ∨ m ∈ s.handed → ∃ entry ∈ s.entered, entry.message = m) ∧
      ∀ entry ∈ s.entered, entry.Admitted library ↔ entry.path = .stream := by
  obtain ⟨s, hreach, hstream, hlocal⟩ := both_enter
  exact ⟨s, hstream, hlocal, entered_admitted_iff_stream hreach⟩

/-- A message without a signature can enter an inbox. -/
theorem unsigned_broadcast_enters :
    ¬ ∀ (id : String) (recipient_key : EncryptionKey) (s : System),
      Reachable (Step library) (start id recipient_key) s →
      ∀ entry ∈ s.entered, entry.Admitted library := by
  intro hclaim
  obtain ⟨s, hreach, _, entry, hmem, hmessage⟩ := both_enter
  have hverified := (hclaim "endpoint" (encryptionKey 2) s hreach entry hmem).verified
  rw [hmessage] at hverified
  exact unsigned_broadcast_not_verified hverified

end System

end ma_core.iroh
