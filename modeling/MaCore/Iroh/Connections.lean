import MaCore.Base.Tasks
import MaCore.Iroh.Discovery

open rust
open ma_core.error ma_core.doc ma_core.msg ma_core.outbox

namespace ma_core.iroh

/-- An iroh `Connection`, whose clones all refer to one connection, with the
    identifier of the peer at its other end. -/
structure Connection where
  handle : Nat
  remote_id : String
deriving DecidableEq, Repr

structure EndpointAddr where
  id : String
  relay_url : Option String
deriving DecidableEq, Repr

/-- A `Channel`, by the connection its stream is on. -/
structure Channel where
  connection : Connection
deriving DecidableEq, Repr

/-- The transports `connect_outbox` boxes. -/
inductive Wire where
  | LoopbackWire (inbox : Inbox)
  | CachedChannel (connection : Connection)
deriving DecidableEq, Repr

/-- An `Outbox` of `connect_outbox`, its transport not yet boxed. -/
structure Opened where
  wire : Wire
  recipient_document : Document
  did : String
  protocol : String

/-- What the code does at a time, as the other tasks see it: a section under
    one of the locks, or a call into iroh. -/
inductive Command where
  | relay_url
  | inbox (normalized : String)
  | get (cache_key : String × String)
  | insert (cache_key : String × String) (connection : Connection)
  | remove (cache_key : String × String)
  | evict_if_closed (cache_key : String × String)
  | connect_lock (cache_key : String × String)
  | connect_unlock (cache_key : String × String)
  | close_reason (connection : Connection)
  | connect (addr : EndpointAddr) (alpn : String)
  | open_bi (connection : Connection)
  | accept_bi (connection : Connection) (handler : InboxProtocolHandler)
  | spawn_outbound_accept_loop (connection : Connection) (protocol : String)
  | write_all (connection : Connection) (payload : Bytes)
  | push (inbox : Inbox) (now : UInt64) (message : Message)
  | hold (outbox : Opened)

abbrev Command.Reply : Command → Type
  | relay_url => Option String
  | inbox _ => Option Inbox
  | get _ => Option Connection
  | close_reason _ => Bool
  | connect .. => Except String Connection
  | open_bi _ | write_all .. => Except String Unit
  | insert .. | remove _ | evict_if_closed _ | connect_lock _ | connect_unlock _ | accept_bi ..
  | spawn_outbound_accept_loop .. | push .. | hold _ => Unit

/-- Code of a task that shares the endpoint with others. -/
abbrev Call := Prog Command Command.Reply

/-- Such code where it returns a `Result`. -/
abbrev Dial := ExceptT (Failure Error) Call

/-- A call into iroh with its `map_err(|e| Error::Transport(format!("…{e}")))?`. -/
def transport_err {α : Type} (text : String) (x : Call (Except String α)) : Dial α :=
  ExceptT.mk do return of_library (fun e => .Transport (text ++ e)) (← x)

def get (cache_key : String × String) : Call (Option Connection) := .issue (Command.get cache_key)

def close_reason (connection : Connection) : Call Bool := .issue (Command.close_reason connection)

def open_bi (connection : Connection) : Call (Except String Unit) := .issue (Command.open_bi connection)

def connect (addr : EndpointAddr) (alpn : String) : Call (Except String Connection) :=
  .issue (Command.connect addr alpn)

def evict_if_closed (cache_key : String × String) : Call Unit := .issue (Command.evict_if_closed cache_key)

def try_cached_channel (cache_key : String × String) : Call (Option Channel) := do
  match ← get cache_key with
  | none => return none
  | some conn =>
    if ← close_reason conn then
      evict_if_closed cache_key
      return none
    else
      match ← open_bi conn with
      | .ok () => return some ⟨conn⟩
      | .error _ =>
        evict_if_closed cache_key
        return none

/-- The cache lookup `get_or_connect` makes before and after it waits for the lock. -/
def cached_connection (cache_key : String × String) : Call (Option Connection) := do
  match ← get cache_key with
  | none => return none
  | some conn =>
    if ← close_reason conn then
      evict_if_closed cache_key
      return none
    else return some conn

/-- The scope of a `_connect_guard`, which is left by `?` as by a return. Each
    key has one mutex, created when it is first needed. -/
def with_connect_guard {α : Type} (cache_key : String × String) (body : Dial α) : Dial α :=
  ExceptT.mk do
    Prog.issue (Command.connect_lock cache_key)
    let result ← body.run
    Prog.issue (Command.connect_unlock cache_key)
    return result

/-- The end of both slow paths: the connection is cached and its streams served. -/
def cache_dialled (cache_key : String × String) (protocol : String) (connection : Connection) :
    Call Unit := do
  Prog.issue (Command.insert cache_key connection)
  Prog.issue (Command.spawn_outbound_accept_loop connection protocol)

def open_addr_cached (endpoint_id : String) (addr : EndpointAddr) (protocol : String) : Dial Channel := do
  let cache_key := (endpoint_id, protocol)
  match ← try_cached_channel cache_key with
  | some channel => return channel
  | none =>
    with_connect_guard cache_key do
      match ← try_cached_channel cache_key with
      | some channel => return channel
      | none =>
        let connection ← transport_err "connect failed: " (connect addr protocol)
        transport_err "open_bi failed: " (open_bi connection)
        cache_dialled cache_key protocol connection
        return ⟨connection⟩

def get_or_connect (endpoint_id : String) (addr : EndpointAddr) (protocol : String) : Dial Connection := do
  let cache_key := (endpoint_id, protocol)
  match ← cached_connection cache_key with
  | some conn => return conn
  | none =>
    with_connect_guard cache_key do
      match ← cached_connection cache_key with
      | some conn => return conn
      | none =>
        let connection ← transport_err "connect failed: " (connect addr protocol)
        cache_dialled cache_key protocol connection
        return connection

/-- The commands of the code that finds or makes a connection for a key. -/
inductive Dialling (cache_key : String × String) : Command → Prop
  | get : Dialling cache_key (.get cache_key)
  | close_reason (connection : Connection) : Dialling cache_key (.close_reason connection)
  | open_bi (connection : Connection) : Dialling cache_key (.open_bi connection)
  | evict_if_closed : Dialling cache_key (.evict_if_closed cache_key)
  | connect_lock : Dialling cache_key (.connect_lock cache_key)
  | connect_unlock : Dialling cache_key (.connect_unlock cache_key)
  | connect (addr : EndpointAddr) : Dialling cache_key (.connect addr cache_key.2)
  | insert (connection : Connection) : Dialling cache_key (.insert cache_key connection)
  | spawn_outbound_accept_loop (connection : Connection) :
    Dialling cache_key (.spawn_outbound_accept_loop connection cache_key.2)

section
variable {cache_key : String × String} {endpoint_id protocol : String}

theorem evict_issues {α : Type} (a : α) :
    (do evict_if_closed cache_key; return a : Call α).Issues (Dialling cache_key) :=
  ⟨.evict_if_closed, fun _ => trivial⟩

theorem try_cached_channel_issues : (try_cached_channel cache_key).Issues (Dialling cache_key) := by
  refine ⟨.get, fun cached => ?_⟩
  cases cached with
  | none => exact trivial
  | some conn =>
    refine ⟨.close_reason conn, fun closed => ?_⟩
    cases closed with
    | true => exact evict_issues none
    | false =>
      refine ⟨.open_bi conn, fun stream => ?_⟩
      cases stream with
      | ok _ => exact trivial
      | error _ => exact evict_issues none

theorem cached_connection_issues : (cached_connection cache_key).Issues (Dialling cache_key) := by
  refine ⟨.get, fun cached => ?_⟩
  cases cached with
  | none => exact trivial
  | some conn =>
    refine ⟨.close_reason conn, fun closed => ?_⟩
    cases closed with
    | true => exact evict_issues none
    | false => exact trivial

theorem with_connect_guard_issues {α : Type} {body : Dial α} (hbody : body.run.Issues (Dialling cache_key)) :
    (with_connect_guard cache_key body).run.Issues (Dialling cache_key) := by
  refine ⟨.connect_lock, fun _ => ?_⟩
  apply hbody.bind
  intro result
  exact ⟨.connect_unlock, fun _ => trivial⟩

theorem transport_err_issues {α : Type} {P : Command → Prop} {text : String} {x : Call (Except String α)}
    (hx : x.Issues P) : (transport_err text x).run.Issues P :=
  hx.bind fun _ => trivial

theorem cache_dialled_issues (connection : Connection) :
    (cache_dialled cache_key cache_key.2 connection).Issues (Dialling cache_key) :=
  ⟨.insert connection, fun _ => ⟨.spawn_outbound_accept_loop connection, fun _ => trivial⟩⟩

theorem connect_issues (addr : EndpointAddr) : (connect addr cache_key.2).Issues (Dialling cache_key) :=
  ⟨.connect addr, fun _ => trivial⟩

/-- `open_addr_cached` is about its own key throughout, -/
theorem open_addr_cached_issues (addr : EndpointAddr) :
    (open_addr_cached endpoint_id addr protocol).run.Issues (Dialling (endpoint_id, protocol)) := by
  apply Prog.Issues.bind_ok
  · exact try_cached_channel_issues.lift
  intro cached
  cases cached with
  | some channel => exact trivial
  | none =>
    apply with_connect_guard_issues
    apply Prog.Issues.bind_ok
    · exact try_cached_channel_issues.lift
    intro cached
    cases cached with
    | some channel => exact trivial
    | none =>
      apply Prog.Issues.bind_ok
      · exact transport_err_issues (@connect_issues (endpoint_id, protocol) addr)
      intro connection
      apply Prog.Issues.bind_ok
      · exact transport_err_issues ⟨.open_bi connection, fun _ => trivial⟩
      intro _
      apply Prog.Issues.bind_ok
      · exact (@cache_dialled_issues (endpoint_id, protocol) connection).lift
      intro _
      exact trivial

/-- and so is `get_or_connect`, -/
theorem get_or_connect_issues (addr : EndpointAddr) :
    (get_or_connect endpoint_id addr protocol).run.Issues (Dialling (endpoint_id, protocol)) := by
  apply Prog.Issues.bind_ok
  · exact cached_connection_issues.lift
  intro cached
  cases cached with
  | some channel => exact trivial
  | none =>
    apply with_connect_guard_issues
    apply Prog.Issues.bind_ok
    · exact cached_connection_issues.lift
    intro cached
    cases cached with
    | some channel => exact trivial
    | none =>
      apply Prog.Issues.bind_ok
      · exact transport_err_issues (@connect_issues (endpoint_id, protocol) addr)
      intro connection
      apply Prog.Issues.bind_ok
      · exact (@cache_dialled_issues (endpoint_id, protocol) connection).lift
      intro _
      exact trivial

/-- and where nothing is cached both dial with the protocol as it is given. -/
theorem get_or_connect_connects {P : Command → Prop} {addr : EndpointAddr}
    (hissues : (get_or_connect endpoint_id addr protocol).run.Issues P) : P (.connect addr protocol) :=
  (((hissues.2 none).2 ()).2 none).1

theorem open_addr_cached_connects {P : Command → Prop} {addr : EndpointAddr}
    (hissues : (open_addr_cached endpoint_id addr protocol).run.Issues P) : P (.connect addr protocol) :=
  (((hissues.2 none).2 ()).2 none).1

end

/-- `resolve_addr`; `parse` is `EndpointId::from_str`, an identifier being its text. -/
def resolve_addr (parse : String → Except String String) (endpoint_id : String) : Dial EndpointAddr := do
  let target_id ← of_library (fun e => Error.Transport ("invalid endpoint id: " ++ e)) (parse (trim endpoint_id))
  let relay_url ← (Prog.issue Command.relay_url : Call (Option String))
  return ⟨target_id, relay_url⟩

/-- The local paths' `self.inboxes.get(&normalized)`. -/
def local_inbox (protocol : String) : Dial Inbox := do
  let inbox ← (Prog.issue (Command.inbox (normalize_protocol protocol)) : Call (Option Inbox))
  liftM (ok_or (Error.NoInboxTransport ("no local inbox for " ++ protocol)) inbox)

section
variable (lib : Lib) (parse : String → Except String String) (id : String)

/-- `connect_outbox` of the endpoint with this identifier. -/
def connect_outbox (doc : Document) (endpoint_id did protocol : String) : Dial Opened := do
  if endpoint_id = id then
    let inbox ← local_inbox protocol
    return ⟨.LoopbackWire inbox, doc, did, protocol⟩
  else
    let addr ← resolve_addr parse endpoint_id
    let connection ← get_or_connect endpoint_id addr protocol
    return ⟨.CachedChannel connection, doc, did, protocol⟩

/-- `MaEndpoint::outbox`. -/
def outbox (to_value : Ipld → Option serde_json.Value) (resolver : Resolver) (did protocol : String) :
    Dial Opened := do
  let (doc, endpoint_id) ← outbox_target to_value resolver did protocol
  connect_outbox parse id doc endpoint_id did protocol

def send_broadcast_to (clock : Clock) (target protocol : String) (message : Message) : Dial Unit := do
  IrohEndpoint.check_broadcast lib clock message
  if target = id then
    let inbox ← local_inbox protocol
    let now ← now_secs (ε := Error) clock
    (Prog.issue (Command.push inbox now message) : Call Unit)
  else
    let cbor ← validated message.encode
    let addr ← resolve_addr parse target
    let channel ← open_addr_cached target addr protocol
    transport_err "channel write failed: " (Prog.issue (Command.write_all channel.connection cbor))

end

/-- `InboxProtocolHandler::accept`. Waiting in `accept_bi` is its loop: streams
    are handed to tasks of their own until the connection has closed. -/
def InboxProtocolHandler.accept (self : InboxProtocolHandler) (connection : Connection) : Call Unit := do
  let cache_key := (connection.remote_id, self.protocol)
  Prog.issue (Command.insert cache_key connection)
  Prog.issue (Command.accept_bi connection self)
  Prog.issue (Command.remove cache_key)

end ma_core.iroh
