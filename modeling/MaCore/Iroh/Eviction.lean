import MaCore.Iroh.Guarantee
import MaCore.Iroh.Spelling

open rust transition
open ma_core.error ma_core.key ma_core.doc ma_core.msg ma_core.outbox

namespace ma_core.iroh

/-- A node with the tasks that run. -/
abbrev Tasks := Prog.Pool Command Command.Reply Origin Node

abbrev TasksEvent := Prog.PoolEvent Origin NodeEvent

def Tasks.start (id : String) (recipient_key : EncryptionKey) : Tasks := ⟨Node.start id recipient_key, []⟩

namespace Node

/-- An entry whose connection is open is kept, or replaced by another one. -/
def KeepsOpen (w w' : Node) : Prop :=
  ∀ cache_key connection, w.connection_cache.get cache_key = some connection → connection ∉ w.closed →
    ∃ connection', w'.connection_cache.get cache_key = some connection'

section
variable {lib : Lib} {parse : String → Except String String} {id : String} {w w' : Node}

theorem KeepsOpen.of_eq (hcache : w'.connection_cache = w.connection_cache) : KeepsOpen w w' := by
  intro cache_key connection hget _
  rw [hcache]
  exact ⟨connection, hget⟩

theorem Received.cache {handler : InboxProtocolHandler} {payload : Bytes} {clock : Clock} {resolver : Resolver}
    (hreceived : Received lib handler payload clock resolver w w') : w'.connection_cache = w.connection_cache := by
  cases hreceived <;> rfl

theorem During.cache {c : Command} {event : NodeEvent} (hduring : During lib w c event w') :
    w'.connection_cache = w.connection_cache := by
  cases hduring with
  | inbound_stream _ connection handler payload clock resolver hopen hreceived => exact hreceived.cache

theorem Moves.cache {event : NodeEvent} (hmove : Moves lib w event w') :
    w'.connection_cache = w.connection_cache := by
  cases hmove with
  | stream _ d handler payload clock resolver hdialled hopen hhandler hreceived => exact hreceived.cache
  | registration | start_router | close | unserved | send | send_refused | pop | drain => rfl

theorem Starts.cache {tag : Origin} (hstart : Starts w tag w') : w'.connection_cache = w.connection_cache := by
  cases hstart <;> rfl

/-- Where it is looked up and removed under one lock, only a closed connection goes. -/
theorem evict_if_closed_keepsOpen (cache_key : String × String) : KeepsOpen w (w.evict_if_closed cache_key) := by
  unfold evict_if_closed
  split
  · exact .of_eq rfl
  · rename_i c hc
    split
    · rename_i hclosed
      intro other connection hget hopen
      dsimp only
      rw [Map.get_remove]
      by_cases hkey : other = cache_key
      · rw [hkey, hc] at hget
        cases hget
        exact absurd hclosed hopen
      · rw [if_neg hkey]
        exact ⟨connection, hget⟩
    · exact .of_eq rfl

/-- A command keeps open entries, unless it removes one. -/
theorem Replies.keepsOpen {i : Nat} {c : Command} {r : c.Reply} (hreply : Replies i w c r w')
    (hremove : ∀ cache_key connection, c = .remove cache_key →
      w.connection_cache.get cache_key = some connection → connection ∈ w.closed) : KeepsOpen w w' := by
  cases hreply with
  | insert cache_key connection =>
    intro other old hget _
    dsimp only
    rw [Map.get_insert]
    by_cases hkey : other = cache_key
    · rw [if_pos hkey]
      exact ⟨connection, rfl⟩
    · rw [if_neg hkey]
      exact ⟨old, hget⟩
  | remove cache_key =>
    intro other connection hget hopen
    dsimp only
    rw [Map.get_remove]
    by_cases hkey : other = cache_key
    · rw [hkey] at hget
      exact absurd (hremove cache_key connection rfl hget) hopen
    · rw [if_neg hkey]
      exact ⟨connection, hget⟩
  | evict_if_closed cache_key => exact evict_if_closed_keepsOpen cache_key
  | relay_url | inbox | get | connect_lock | connect_unlock | close_reason | connected | connect_failed | opened
  | open_failed | accept_bi | spawn_outbound_accept_loop | write_all | push | hold => exact .of_eq rfl

end

end Node

namespace Tasks

/-- A handler that is done removes the entry of another connection, which is open. -/
def EvictsAnother (s : Tasks) : TasksEvent → Prop
  | .issue i => ∃ handler connection k other,
    s.tasks[i]? =
      some ⟨.accept handler connection, .call (.remove (connection.remote_id, handler.protocol)) k⟩ ∧
    s.world.connection_cache.get (connection.remote_id, handler.protocol) = some other ∧
    other ≠ connection ∧ other ∉ s.world.closed
  | _ => False

section
variable {lib : Lib} {parse : String → Except String String} {id : String} {recipient_key : EncryptionKey}
  {s t : Tasks} {events : List TasksEvent} {event : TasksEvent}

/-- In a run a step keeps the open entries unless it is such a removal. -/
theorem step_keepsOpen_iff (hrun : Run (Node.rules lib parse id).Step (start id recipient_key) events s)
    (hstep : (Node.rules lib parse id).Step s event t) :
    Node.KeepsOpen s.world t.world ↔ ¬ s.EvictsAnother event := by
  cases hstep with
  | start tag world hstart => exact iff_of_true (.of_eq (Node.Starts.cache hstart)) not_false
  | during i tag c k event world htask hduring => exact iff_of_true (.of_eq (Node.During.cache hduring)) not_false
  | drop i task htask => exact iff_of_true (.of_eq rfl) not_false
  | move event world hmove hpermits => exact iff_of_true (.of_eq (Node.Moves.cache hmove)) not_false
  | issue i tag c k r world htask hreply =>
    constructor
    · rintro hkeeps ⟨handler, connection, k', other, hhandler, hcached, _, hopen⟩
      rw [htask] at hhandler
      cases hhandler
      obtain ⟨connection', hkept⟩ := hkeeps _ other hcached hopen
      cases hreply with
      | remove =>
        dsimp only at hkept
        rw [Map.get_remove_self] at hkept
        cases hkept
    · intro hanother
      apply Node.Replies.keepsOpen hreply
      rintro cache_key other rfl hcached
      obtain ⟨handler, connection, rfl, rfl, hclosed⟩ := (Node.guarded lib parse id).allowed hrun htask
      by_contra hopen
      refine hanother ⟨handler, connection, k, other, htask, hcached, ?_, hopen⟩
      rintro rfl
      exact hopen hclosed

end

end Tasks

/-- What a handler has left to do once its connection is cached, -/
def serving (handler : InboxProtocolHandler) (connection : Connection) : Call Unit := do
  Prog.issue (Command.accept_bi connection handler)
  Prog.issue (Command.remove (connection.remote_id, handler.protocol))

/-- and once `accept_bi` has failed. -/
def leaving (handler : InboxProtocolHandler) (connection : Connection) : Call Unit :=
  .issue (Command.remove (connection.remote_id, handler.protocol))

/-- A peer reconnects before the handler of its first connection has ended. -/
theorem reconnect_evicts (lib : Lib) (parse : String → Except String String) (id peer : String) {w : Node}
    {handler : InboxProtocolHandler} (hhandler : handler ∈ w.endpoint.router.getD [])
    (hconnections : w.connections = []) (hclosed : w.closed = []) :
    ∃ events s t, Run (Node.rules lib parse id).Step ⟨w, []⟩ events s ∧
      (Node.rules lib parse id).Step s (.issue 0) t ∧ ¬ Node.KeepsOpen s.world t.world := by
  let first : Connection := ⟨0, peer⟩
  let second : Connection := ⟨1, peer⟩
  let cache_key := (peer, handler.protocol)
  let connected : Node := { w with connections := [first] }
  let cached : Node := { connected with connection_cache := w.connection_cache.insert cache_key first }
  let reconnected : Node := { cached with connections := [second, first] }
  let replaced : Node := { reconnected with connection_cache := cached.connection_cache.insert cache_key second }
  let closed : Node := { replaced with closed := [first] }
  let evicted : Node := { closed with connection_cache := closed.connection_cache.remove cache_key }
  let ended : Prog.Task Command Command.Reply Origin := ⟨.accept handler first, serving handler first⟩
  have haccept : (Node.rules lib parse id).Step ⟨w, []⟩ (.start (.accept handler first))
      ⟨connected, [⟨.accept handler first, handler.accept first⟩]⟩ := by
    have hstart := Node.Starts.accept w handler first hhandler (by simp [hconnections])
    rw [hconnections] at hstart
    exact .start _ _ _ hstart
  have hinsert : (Node.rules lib parse id).Step ⟨connected, [⟨.accept handler first, handler.accept first⟩]⟩
      (.issue 0) ⟨cached, [ended]⟩ :=
    .issue_to rfl (Node.Replies.insert cache_key first) rfl
  have hnew : second ∉ cached.connections := by simp [cached, connected, first, second]
  have haccept_second : (Node.rules lib parse id).Step ⟨cached, [ended]⟩ (.start (.accept handler second))
      ⟨reconnected, [ended, ⟨.accept handler second, handler.accept second⟩]⟩ :=
    .start _ _ _ (.accept cached handler second hhandler hnew)
  have hinsert_second : (Node.rules lib parse id).Step
      ⟨reconnected, [ended, ⟨.accept handler second, handler.accept second⟩]⟩ (.issue 1)
      ⟨replaced, [ended, ⟨.accept handler second, serving handler second⟩]⟩ :=
    .issue_to rfl (Node.Replies.insert cache_key second) rfl
  have hclose : (Node.rules lib parse id).Step
      ⟨replaced, [ended, ⟨.accept handler second, serving handler second⟩]⟩ (.move (.close first))
      ⟨closed, [ended, ⟨.accept handler second, serving handler second⟩]⟩ := by
    have hmove := @Node.Moves.close lib replaced first (by simp [replaced, reconnected])
    rw [show replaced.closed = [] from hclosed] at hmove
    exact .move _ _ _ hmove fun _ _ _ _ hexclusive => hexclusive
  have hend : (Node.rules lib parse id).Step ⟨closed, [ended, ⟨.accept handler second, serving handler second⟩]⟩
      (.issue 0) ⟨closed, [⟨.accept handler first, leaving handler first⟩,
        ⟨.accept handler second, serving handler second⟩]⟩ :=
    .issue_to rfl (Node.Replies.accept_bi first handler List.mem_cons_self) rfl
  have hremove : (Node.rules lib parse id).Step ⟨closed, [⟨.accept handler first, leaving handler first⟩,
        ⟨.accept handler second, serving handler second⟩]⟩ (.issue 0) ⟨evicted, [⟨.accept handler first, .ret ()⟩,
        ⟨.accept handler second, serving handler second⟩]⟩ :=
    .issue_to rfl (Node.Replies.remove cache_key) rfl
  refine ⟨_, _, _, .cons haccept (.cons hinsert (.cons haccept_second (.cons hinsert_second
    (.cons hclose (.single hend))))), hremove, ?_⟩
  intro hkeeps
  obtain ⟨connection, hkept⟩ := hkeeps cache_key second (Map.get_insert_self ..) (by simp [closed, first, second])
  have hlost : evicted.connection_cache.get cache_key = none := Map.get_remove_self ..
  rw [hlost] at hkept
  cases hkept

/-- The first protocol that is registered is served. -/
theorem service_new_router (id : String) (recipient_key : EncryptionKey) (protocol : String) :
    ((IrohEndpoint.new id recipient_key).service protocol).2.router = some [⟨normalize_protocol protocol, 0⟩] := by
  simp [IrohEndpoint.new, IrohEndpoint.service, IrohEndpoint.start_router, Map.empty, Map.get, Map.insert]

/-- Open entries stay cached exactly in the runs in which no handler ends while
    another, open connection is cached for its peer and protocol. -/
theorem open_entries_kept_iff (lib : Lib) (parse : String → Except String String) (id : String)
    (recipient_key : EncryptionKey) (events : List TasksEvent) (s : Tasks) :
    Run (fun s event t => (Node.rules lib parse id).Step s event t ∧ Node.KeepsOpen s.world t.world)
        (Tasks.start id recipient_key) events s ↔
      Run (fun s event t => (Node.rules lib parse id).Step s event t ∧ ¬ Tasks.EvictsAnother s event)
        (Tasks.start id recipient_key) events s :=
  Run.restrict_iff Tasks.step_keepsOpen_iff

/-- An inbox is served, and a peer reconnects. -/
theorem open_entry_evicted :
    ¬ ∀ (events : List TasksEvent) (s t : Tasks) (event : TasksEvent),
      Run (Node.rules reference.library .ok endpoint_id).Step
        (Tasks.start endpoint_id (reference.encryptionKey 2)) events s →
      (Node.rules reference.library .ok endpoint_id).Step s event t → Node.KeepsOpen s.world t.world := by
  intro hclaim
  let registered : Node := { Node.start endpoint_id (reference.encryptionKey 2) with
    endpoint := ((IrohEndpoint.new endpoint_id (reference.encryptionKey 2)).service "ma/inbox/0.0.1").2
    registrations := [.service "ma/inbox/0.0.1"] }
  have hregister : (Node.rules reference.library .ok endpoint_id).Step
      (Tasks.start endpoint_id (reference.encryptionKey 2)) (.move (.registration (.service "ma/inbox/0.0.1")))
      ⟨registered, []⟩ := .move _ _ _ (Node.Moves.registration _ _) fun _ htask => by cases htask
  have hhandler : (⟨"/ma/inbox/0.0.1", 0⟩ : InboxProtocolHandler) ∈ registered.endpoint.router.getD [] := by
    have hnormal : normalize_protocol "ma/inbox/0.0.1" = "/ma/inbox/0.0.1" := by decide
    have hrouter := service_new_router endpoint_id (reference.encryptionKey 2) "ma/inbox/0.0.1"
    rw [hnormal] at hrouter
    rw [hrouter]
    exact List.mem_singleton.mpr rfl
  obtain ⟨events, s, t, hrun, hstep, hlost⟩ :=
    reconnect_evicts reference.library .ok endpoint_id dialler_id hhandler rfl rfl
  exact hlost (hclaim _ _ _ _ (.cons hregister hrun) hstep)

end ma_core.iroh
