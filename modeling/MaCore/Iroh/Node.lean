import MaCore.Iroh.Connections

open rust
open ma_core.error ma_core.key ma_core.doc ma_core.msg ma_core.outbox ma_core.ttl_queue

namespace ma_core.iroh

/-- A connection this endpoint dialled, with what serves its streams, and how
    many registrations had been made by then. -/
structure Dialled where
  connection : Connection
  protocol : String
  handler : Option InboxProtocolHandler
  since : Nat

/-- An outbox a caller holds, and how many registrations had been made when it
    was opened. -/
structure HeldOutbox where
  opened : Opened
  since : Nat

/-- An endpoint with what its tasks share: the connections there are and those
    that have closed, and a record of the registrations and of the messages pushed. -/
structure Node where
  endpoint : IrohEndpoint
  connection_cache : Map (String × String) Connection
  connect_locks : Map (String × String) Nat
  connections : List Connection
  closed : List Connection
  dialled : List Dialled
  outboxes : List HeldOutbox
  registrations : List Registration
  pushed : List (Inbox × Message)

/-- What a task is started for. -/
inductive Origin where
  | accept (handler : InboxProtocolHandler) (connection : Connection)
  | connect_outbox (doc : Document) (endpoint_id did protocol : String)
  | send_broadcast_to (clock : Clock) (target protocol : String) (message : Message)

/-- Whether the task borrows the endpoint while it runs. -/
def Origin.Borrows : Origin → Prop
  | accept .. => False
  | connect_outbox .. | send_broadcast_to .. => True

inductive NodeEvent where
  | registration (call : Registration)
  | start_router
  | close (connection : Connection)
  | inbound_stream (payload : Bytes) (clock : Clock) (resolver : Resolver)
  | stream (dialled : Dialled) (payload : Bytes) (clock : Clock) (resolver : Resolver)
  | send (held : HeldOutbox) (message : Message) (entropy : Entropy) (clock : Clock)
  | pop (inbox : Inbox) (now : UInt64)
  | drain (inbox : Inbox) (now : UInt64)

/-- Events that take the endpoint by `&mut`, so that no call is under way. -/
def NodeEvent.Exclusive : NodeEvent → Prop
  | registration _ | start_router => True
  | close _ | inbound_stream .. | stream .. | send .. | pop .. | drain .. => False

/-- The outbox with its transport boxed. -/
def HeldOutbox.loopback (lib : Lib) (self : HeldOutbox) (inbox : Inbox) : Outbox IrohEndpoint :=
  Outbox.from_transport (LoopbackWire lib inbox) self.opened.recipient_document true self.opened.did
    self.opened.protocol

namespace Node

def start (id : String) (recipient_key : EncryptionKey) : Node where
  endpoint := IrohEndpoint.new id recipient_key
  connection_cache := Map.empty
  connect_locks := Map.empty
  connections := []
  closed := []
  dialled := []
  outboxes := []
  registrations := []
  pushed := []

def evict_if_closed (self : Node) (cache_key : String × String) : Node :=
  match self.connection_cache.get cache_key with
  | none => self
  | some c =>
    if c ∈ self.closed then { self with connection_cache := self.connection_cache.remove cache_key }
    else self

theorem evict_if_closed_eq (w : Node) (cache_key : String × String) :
    ∃ connection_cache, w.evict_if_closed cache_key = { w with connection_cache } := by
  unfold evict_if_closed
  split
  · exact ⟨w.connection_cache, rfl⟩
  · split
    · exact ⟨_, rfl⟩
    · exact ⟨w.connection_cache, rfl⟩

/-- How a command of the task at an index may be answered, and what it does. A
    connection may refuse streams before it has closed, and one that is dialled
    is new. -/
inductive Replies (i : Nat) (w : Node) : (c : Command) → c.Reply → Node → Prop
  | relay_url (relay_url : Option String) : Replies i w .relay_url relay_url w
  | inbox (normalized : String) : Replies i w (.inbox normalized) (w.endpoint.inboxes.get normalized) w
  | get (cache_key : String × String) : Replies i w (.get cache_key) (w.connection_cache.get cache_key) w
  | insert (cache_key : String × String) (connection : Connection) :
    Replies i w (.insert cache_key connection) ()
      { w with connection_cache := w.connection_cache.insert cache_key connection }
  | remove (cache_key : String × String) :
    Replies i w (.remove cache_key) () { w with connection_cache := w.connection_cache.remove cache_key }
  | evict_if_closed (cache_key : String × String) :
    Replies i w (.evict_if_closed cache_key) () (w.evict_if_closed cache_key)
  | connect_lock (cache_key : String × String) (hfree : w.connect_locks.get cache_key = none) :
    Replies i w (.connect_lock cache_key) () { w with connect_locks := w.connect_locks.insert cache_key i }
  | connect_unlock (cache_key : String × String) :
    Replies i w (.connect_unlock cache_key) () { w with connect_locks := w.connect_locks.remove cache_key }
  | close_reason (connection : Connection) :
    Replies i w (.close_reason connection) (decide (connection ∈ w.closed)) w
  | connected (addr : EndpointAddr) (alpn : String) (connection : Connection)
    (hnew : connection ∉ w.connections) (hremote : connection.remote_id = addr.id) :
    Replies i w (.connect addr alpn) (.ok connection) { w with connections := connection :: w.connections }
  | connect_failed (addr : EndpointAddr) (alpn text : String) : Replies i w (.connect addr alpn) (.error text) w
  | opened (connection : Connection) (hopen : connection ∉ w.closed) :
    Replies i w (.open_bi connection) (.ok ()) w
  | open_failed (connection : Connection) (text : String) : Replies i w (.open_bi connection) (.error text) w
  | accept_bi (connection : Connection) (handler : InboxProtocolHandler) (hclosed : connection ∈ w.closed) :
    Replies i w (.accept_bi connection handler) () w
  | spawn_outbound_accept_loop (connection : Connection) (protocol : String) :
    Replies i w (.spawn_outbound_accept_loop connection protocol) ()
      { w with dialled := w.dialled ++ [⟨connection, protocol,
          w.endpoint.spawn_outbound_accept_loop protocol, w.registrations.length⟩] }
  | write_all (connection : Connection) (payload : Bytes) (result : Except String Unit) :
    Replies i w (.write_all connection payload) result w
  | push (inbox : Inbox) (now : UInt64) (message : Message) :
    Replies i w (.push inbox now message) ()
      { w with endpoint := w.endpoint.push inbox now message, pushed := w.pushed ++ [(inbox, message)] }
  | hold (outbox : Opened) :
    Replies i w (.hold outbox) () { w with outboxes := w.outboxes ++ [⟨outbox, w.registrations.length⟩] }

section
variable (lib : Lib)

/-- A handler's task is done with a stream. -/
inductive Received (handler : InboxProtocolHandler) (payload : Bytes) (clock : Clock) (resolver : Resolver) :
    Node → Node → Prop
  | pushed (w : Node) (m : Message) (hsize : payload.length ≤ DEFAULT_MAX_INBOUND_MESSAGE_SIZE)
    (hdecode : (w.endpoint.inbound_security.decode lib clock resolver payload handler.protocol).1 = .ok m) :
    Received handler payload clock resolver w { w with
      endpoint := w.endpoint.receive_stream lib clock resolver handler payload
      pushed := w.pushed ++ [(handler.inbox, m)] }
  | refused (w : Node) (hrefused : DEFAULT_MAX_INBOUND_MESSAGE_SIZE < payload.length ∨
      ∀ m, (w.endpoint.inbound_security.decode lib clock resolver payload handler.protocol).1 ≠ .ok m) :
    Received handler payload clock resolver w
      { w with endpoint := w.endpoint.receive_stream lib clock resolver handler payload }

/-- What happens while a handler waits in `accept_bi`: its peer opens streams. -/
inductive During : Node → Command → NodeEvent → Node → Prop
  | inbound_stream (w w' : Node) (connection : Connection) (handler : InboxProtocolHandler) (payload : Bytes)
    (clock : Clock) (resolver : Resolver) (hopen : connection ∉ w.closed)
    (hreceived : Received lib handler payload clock resolver w w') :
    During w (.accept_bi connection handler) (.inbound_stream payload clock resolver) w'

/-- What happens by itself: registrations are made, connections close, peers
    open streams on connections dialled to them, and the outboxes to this
    endpoint and its inboxes are used. -/
inductive Moves : Node → NodeEvent → Node → Prop
  | registration (w : Node) (call : Registration) :
    Moves w (.registration call)
      { w with endpoint := call.apply w.endpoint, registrations := w.registrations ++ [call] }
  | start_router (w : Node) : Moves w .start_router { w with endpoint := w.endpoint.start_router }
  | close (w : Node) (connection : Connection) (hconnection : connection ∈ w.connections) :
    Moves w (.close connection) { w with closed := connection :: w.closed }
  | stream (w w' : Node) (d : Dialled) (handler : InboxProtocolHandler) (payload : Bytes) (clock : Clock)
    (resolver : Resolver) (hdialled : d ∈ w.dialled) (hopen : d.connection ∉ w.closed)
    (hhandler : d.handler = some handler) (hreceived : Received lib handler payload clock resolver w w') :
    Moves w (.stream d payload clock resolver) w'
  | unserved (w : Node) (d : Dialled) (payload : Bytes) (clock : Clock) (resolver : Resolver)
    (hdialled : d ∈ w.dialled) (hopen : d.connection ∉ w.closed) (hhandler : d.handler = none) :
    Moves w (.stream d payload clock resolver) w
  | send (w : Node) (held : HeldOutbox) (inbox : Inbox) (message : Message) (entropy : Entropy) (clock : Clock)
    (payload : Bytes) (m : Message) (hheld : held ∈ w.outboxes) (hwire : held.opened.wire = .LoopbackWire inbox)
    (hpayload : (held.loopback lib inbox).payload lib clock entropy message = .ok payload)
    (hreceive : LoopbackWire.receive lib clock payload = .ok m) :
    Moves w (.send held message entropy clock) { w with
      endpoint := ((held.loopback lib inbox).send lib clock entropy message w.endpoint).2
      pushed := w.pushed ++ [(inbox, m)] }
  | send_refused (w : Node) (held : HeldOutbox) (inbox : Inbox) (message : Message) (entropy : Entropy)
    (clock : Clock) (hheld : held ∈ w.outboxes) (hwire : held.opened.wire = .LoopbackWire inbox)
    (hrefused : ∀ payload m, (held.loopback lib inbox).payload lib clock entropy message = .ok payload →
      LoopbackWire.receive lib clock payload ≠ .ok m) :
    Moves w (.send held message entropy clock)
      { w with endpoint := ((held.loopback lib inbox).send lib clock entropy message w.endpoint).2 }
  | pop (w : Node) (inbox : Inbox) (now : UInt64) (queue : TtlQueue Message)
    (hqueue : w.endpoint.queues[inbox]? = some queue) :
    Moves w (.pop inbox now)
      { w with endpoint := { w.endpoint with queues := w.endpoint.queues.set inbox (queue.pop now).2 } }
  | drain (w : Node) (inbox : Inbox) (now : UInt64) (queue : TtlQueue Message)
    (hqueue : w.endpoint.queues[inbox]? = some queue) :
    Moves w (.drain inbox now)
      { w with endpoint := { w.endpoint with queues := w.endpoint.queues.set inbox (queue.drain now).2 } }

/-- When a task starts: a handler of the router is given a new connection. -/
inductive Starts : Node → Origin → Node → Prop
  | accept (w : Node) (handler : InboxProtocolHandler) (connection : Connection)
    (hhandler : handler ∈ w.endpoint.router.getD []) (hnew : connection ∉ w.connections) :
    Starts w (.accept handler connection) { w with connections := connection :: w.connections }
  | connect_outbox (w : Node) (doc : Document) (endpoint_id did protocol : String) :
    Starts w (.connect_outbox doc endpoint_id did protocol) w
  | send_broadcast_to (w : Node) (clock : Clock) (target protocol : String) (message : Message) :
    Starts w (.send_broadcast_to clock target protocol message) w

/-- The caller of `connect_outbox` holds on to the outbox. -/
def keep : Except (Failure Error) Opened → Call Unit
  | .ok outbox => .issue (Command.hold outbox)
  | .error _ => return ()

variable (parse : String → Except String String) (id : String)

def program : Origin → Call Unit
  | .accept handler connection => handler.accept connection
  | .connect_outbox doc endpoint_id did protocol =>
    (iroh.connect_outbox parse id doc endpoint_id did protocol).run >>= keep
  | .send_broadcast_to clock target protocol message => do
    let _ ← (iroh.send_broadcast_to lib parse id clock target protocol message).run
    return ()

/-- The endpoint with this identifier among its tasks. A task that is dropped
    leaves its lock; `close` is left out. -/
def rules : Prog.Rules Command Command.Reply Origin NodeEvent Node where
  program := program lib parse id
  starts := Starts
  replies := Replies
  during := During lib
  moves := Moves lib
  permits tag event := tag.Borrows → ¬ event.Exclusive
  release i w := { w with connect_locks := w.connect_locks.retain (· != i) }

end

end Node

end ma_core.iroh
