import MaCore.Iroh.Capture
import MaCore.Iroh.Ingress

open rust transition
open ma_core.error ma_core.key ma_core.doc ma_core.msg ma_core.service ma_core.outbox

namespace ma_core.iroh

namespace Node

/-- What serves the streams of the dialled connections, and what the outboxes
    to this endpoint push into, was looked up when they were made. -/
structure Inv (id : String) (w : Node) : Prop where
  registered : Registered id w.registrations w.endpoint
  protocols : ∀ d ∈ w.dialled, ∀ handler, d.handler = some handler →
    handler.protocol = normalize_protocol d.protocol
  dialled : ∀ d ∈ w.dialled, Captured w.endpoint w.registrations (normalize_protocol d.protocol) d.since
    (d.handler.map InboxProtocolHandler.inbox)
  outboxes : ∀ held ∈ w.outboxes, ∀ inbox, held.opened.wire = .LoopbackWire inbox →
    Captured w.endpoint w.registrations (normalize_protocol held.opened.protocol) held.since (some inbox)

section
variable {lib : Lib} {parse : String → Except String String} {id : String} {w w' : Node}

theorem start_inv (id : String) (recipient_key : EncryptionKey) : Inv id (start id recipient_key) where
  registered := ⟨Registration.run_inv id recipient_key [], fun name inbox hget => by cases hget⟩
  protocols d hd := absurd hd List.not_mem_nil
  dialled d hd := absurd hd List.not_mem_nil
  outboxes held hheld := absurd hheld List.not_mem_nil

/-- Steps that look nothing up and register nothing. -/
theorem Inv.same (hinv : Inv id w) (hframe : Frame w w') (hdialled : w'.dialled = w.dialled)
    (houtboxes : w'.outboxes = w.outboxes) : Inv id w' := by
  constructor
  · rw [hframe.registrations]
    exact hinv.registered.same hframe.services
  · rw [hdialled]
    exact hinv.protocols
  · intro d hd
    rw [hdialled] at hd
    rw [hframe.registrations]
    exact (hinv.dialled d hd).same hframe.services
  · intro held hheld inbox hwire
    rw [houtboxes] at hheld
    rw [hframe.registrations]
    exact (hinv.outboxes held hheld inbox hwire).same hframe.services

theorem Starts.inv {tag : Origin} (hinv : Inv id w) (hstart : Starts w tag w') : Inv id w' := by
  have hframe := hstart.frame
  cases hstart with
  | accept => exact hinv.same hframe rfl rfl
  | connect_outbox | send_broadcast_to => exact hinv

theorem Replies.inv {i : Nat} {tag : Origin} {c : Command} {r : c.Reply} (hinv : Inv id w) (hpre : Pre tag w c)
    (hreply : Replies i w c r w') : Inv id w' := by
  have hframe := hreply.frame
  cases hreply with
  | spawn_outbound_accept_loop connection protocol =>
    refine ⟨hinv.registered, fun d hd handler hhandler => ?_, fun d hd => ?_, hinv.outboxes⟩
    · obtain hold | hnew := List.mem_append.mp hd
      · exact hinv.protocols d hold handler hhandler
      · obtain rfl := List.mem_singleton.mp hnew
        exact IrohEndpoint.spawn_outbound_accept_loop_protocol hhandler
    · obtain hold | hnew := List.mem_append.mp hd
      · exact hinv.dialled d hold
      · obtain rfl := List.mem_singleton.mp hnew
        have hlookup := hinv.registered.lookup (normalize_protocol protocol)
        rw [← w.endpoint.spawn_outbound_accept_loop_inbox protocol] at hlookup
        exact hlookup
  | hold outbox =>
    refine ⟨hinv.registered, hinv.protocols, hinv.dialled, fun held hheld inbox hwire => ?_⟩
    obtain hold | hnew := List.mem_append.mp hheld
    · exact hinv.outboxes held hold inbox hwire
    · obtain rfl := List.mem_singleton.mp hnew
      have hlookup := hinv.registered.lookup (normalize_protocol outbox.protocol)
      rw [hpre inbox hwire] at hlookup
      exact hlookup
  | evict_if_closed cache_key =>
    obtain ⟨connection_cache, hevict⟩ := w.evict_if_closed_eq cache_key
    rw [hevict] at hframe ⊢
    exact hinv.same hframe rfl rfl
  | relay_url | inbox | get | insert | remove | connect_lock | connect_unlock | close_reason | connected
  | connect_failed | opened | open_failed | accept_bi | write_all | push => exact hinv.same hframe rfl rfl

theorem Received.inv {handler : InboxProtocolHandler} {payload : Bytes} {clock : Clock} {resolver : Resolver}
    (hinv : Inv id w) (hreceived : Received lib handler payload clock resolver w w') : Inv id w' := by
  have hframe := hreceived.frame
  cases hreceived with
  | pushed m hsize hdecode => exact hinv.same hframe rfl rfl
  | refused hrefused => exact hinv.same hframe rfl rfl

theorem During.inv {c : Command} {event : NodeEvent} (hinv : Inv id w) (hduring : During lib w c event w') :
    Inv id w' := by
  cases hduring with
  | inbound_stream _ connection handler payload clock resolver hopen hreceived => exact hreceived.inv hinv

theorem Moves.inv {event : NodeEvent} (hinv : Inv id w) (hmove : Moves lib w event w') : Inv id w' := by
  cases hmove with
  | registration call =>
    refine ⟨hinv.registered.apply call, hinv.protocols, fun d hd => ?_, fun held hheld inbox hwire => ?_⟩
    · exact (hinv.dialled d hd).apply hinv.registered call
    · exact (hinv.outboxes held hheld inbox hwire).apply hinv.registered call
  | start_router => exact hinv.same ⟨.start_router, rfl, rfl⟩ rfl rfl
  | close connection hconnection => exact ⟨hinv.registered, hinv.protocols, hinv.dialled, hinv.outboxes⟩
  | stream _ d handler payload clock resolver hdialled hopen hhandler hreceived => exact hreceived.inv hinv
  | unserved => exact hinv
  | send held inbox message entropy clock payload m hheld hwire hpayload hreceive =>
    exact hinv.same ⟨.send_loopback held inbox clock entropy message, rfl, rfl⟩ rfl rfl
  | send_refused held inbox message entropy clock hheld hwire hrefused =>
    exact hinv.same ⟨.send_loopback held inbox clock entropy message, rfl, rfl⟩ rfl rfl
  | pop inbox now queue hqueue => exact hinv.same ⟨.set_queue inbox _, rfl, rfl⟩ rfl rfl
  | drain inbox now queue hqueue => exact hinv.same ⟨.set_queue inbox _, rfl, rfl⟩ rfl rfl

theorem run_inv {recipient_key : EncryptionKey} {events : List TasksEvent} {s : Tasks}
    (hrun : Run (rules lib parse id).Step (Tasks.start id recipient_key) events s) : Inv id s.world := by
  refine (guarded lib parse id).invariant (start_inv id recipient_key) Starts.inv ?_ During.inv Moves.inv ?_ hrun
  · intro i w tag c r w' hinv hpre hreply
    exact Replies.inv hinv hpre hreply
  · intro i w hinv
    exact hinv.same ⟨.refl w.endpoint, rfl, rfl⟩ rfl rfl

end

/-- A message arrives for a protocol that the code accepts: by a stream on a
    cached connection that was dialled for it, or by an outbox to this endpoint. -/
inductive Accepts (lib : Lib) (w : Node) : NodeEvent → String → Nat → Message → Prop
  | stream (d : Dialled) (payload : Bytes) (clock : Clock) (resolver : Resolver) (m : Message)
    (cache_key : String × String) (hcached : w.connection_cache.get cache_key = some d.connection)
    (hdecode : (w.endpoint.inbound_security.decode lib clock resolver payload
      (normalize_protocol d.protocol)).1 = .ok m) :
    Accepts lib w (.stream d payload clock resolver) d.protocol d.since m
  | send (held : HeldOutbox) (message : Message) (entropy : Entropy) (clock : Clock) (inbox : Inbox)
    (payload : Bytes) (m : Message) (hwire : held.opened.wire = .LoopbackWire inbox)
    (hpayload : (held.loopback lib inbox).payload lib clock entropy message = .ok payload)
    (hreceive : LoopbackWire.receive lib clock payload = .ok m) :
    Accepts lib w (.send held message entropy clock) held.opened.protocol held.since m

/-- A stream that is read to its end. -/
def Fits : NodeEvent → Prop
  | .stream _ payload _ _ => payload.length ≤ DEFAULT_MAX_INBOUND_MESSAGE_SIZE
  | _ => True

section
variable {lib : Lib} {parse : String → Except String String} {id : String} {w w' : Node}

end

end Node

namespace Tasks

end Tasks

end ma_core.iroh
