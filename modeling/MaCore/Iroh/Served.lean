import MaCore.Iroh.Discovery
import MaCore.Iroh.Guarantee
import MaCore.Iroh.Once

open rust transition
open ma_core.error ma_core.key ma_core.doc ma_core.msg ma_core.service ma_core.outbox ma_core.ttl_queue

namespace ma_core.iroh

namespace IrohEndpoint

variable {self : IrohEndpoint}

/-- A router that is started has a handler for each protocol with an inbox. -/
theorem mem_start_router (hrouter : self.router = none) {name : String} {inbox : Inbox}
    (hname : name ∈ self.protocols) (hinbox : self.inboxes.get name = some inbox) :
    ⟨name, inbox⟩ ∈ self.start_router.router.getD [] := by
  rw [start_router, hrouter]
  exact List.mem_filterMap.mpr ⟨name, hname, by rw [hinbox]; rfl⟩

theorem reload_router_of_running (hrunning : self.router.isSome = true) :
    self.reload_router_if_running = start_router { self with router := none } := by
  obtain ⟨handlers, hrouter⟩ := Option.isSome_iff_exists.mp hrunning
  rw [reload_router_if_running, hrouter]

/-- Registering a protocol that has no inbox starts the router, for the first time or anew. -/
theorem service_starts {protocol : String} (hnone : self.inboxes.get (normalize_protocol protocol) = none) :
    ∃ base : IrohEndpoint, base.router = none ∧ (self.service protocol).2 = base.start_router := by
  have hprotocols :
      (if self.protocols.contains (normalize_protocol protocol) = true then self
        else { self with protocols := self.protocols ++ [normalize_protocol protocol] }) =
      { self with protocols := with_protocol self.protocols (normalize_protocol protocol) } := by
    unfold with_protocol
    split <;> rfl
  unfold service
  simp only [hprotocols, hnone]
  split
  next hrunning => exact ⟨_, rfl, reload_router_of_running hrunning⟩
  next hstopped =>
    refine ⟨_, ?_, rfl⟩
    exact Option.not_isSome_iff_eq_none.mp hstopped

/-- So it has a handler from then on. -/
theorem mem_service_router {protocol : String} (hnone : self.inboxes.get (normalize_protocol protocol) = none) :
    ⟨normalize_protocol protocol, (self.service protocol).1⟩ ∈ (self.service protocol).2.router.getD [] := by
  have hname : normalize_protocol protocol ∈ (self.service protocol).2.protocols :=
    mem_service_protocols.mpr (.inl rfl)
  have hinbox : (self.service protocol).2.inboxes.get (normalize_protocol protocol) =
      some (self.service protocol).1 := by
    rw [service_inboxes, if_pos rfl]
  obtain ⟨base, hbase, hservice⟩ := service_starts hnone
  obtain ⟨router, hrouter⟩ := base.start_router_eq
  rw [hservice, hrouter] at hname hinbox
  rw [hservice]
  exact mem_start_router hbase hname hinbox

end IrohEndpoint

namespace System

/-- The call that an event is to the endpoint's registry. -/
def registration : Event → Option Registration
  | .service protocol => some (.service protocol)
  | .remove_service protocol => some (.remove_service protocol)
  | _ => none

section
variable {lib : Lib} {s t : System} {event : Event} {events : List Event} {id : String}
  {recipient_key : EncryptionKey}

/-- A step is a call to the registry, or leaves it alone; handlers are never stopped. -/
theorem step_registration (hstep : Step lib s event t) (houtboxes : s.LoopbackOutboxes lib) :
    (∃ call, registration event = some call ∧ t = s.reconfigured (call.apply s.endpoint)) ∨
      registration event = none ∧ SameServices s.endpoint t.endpoint ∧ s.handlers ⊆ t.handlers := by
  have hloopback (outbox : Outbox IrohEndpoint) (message : Message) (entropy : Entropy) (clock : Clock)
      (houtbox : outbox ∈ s.outboxes) :
      SameServices s.endpoint (outbox.send lib clock entropy message s.endpoint).2 := by
    obtain ⟨inbox, _, m, now, _, _, hsend⟩ | hsend :=
      @send_loopback_cases lib s.endpoint outbox message entropy clock (houtboxes outbox houtbox)
    · rw [hsend]
      exact .push inbox now m
    · rw [hsend]
      exact .refl _
  have hbroadcast (protocol : String) (message : Message) (clock : Clock) (transmit : Bytes → ServiceResult Unit) :
      SameServices s.endpoint
        (s.endpoint.send_broadcast_to lib clock s.endpoint.id protocol message transmit).2 := by
    obtain ⟨inbox, now, _, _, _, _, hsend⟩ | ⟨e, hsend⟩ :=
      IrohEndpoint.send_broadcast_to_cases lib clock s.endpoint protocol message transmit
    · rw [hsend]
      exact .push inbox now message
    · rw [hsend]
      exact .refl _
  cases hstep with
  | service protocol => exact .inl ⟨.service protocol, rfl, rfl⟩
  | remove_service protocol => exact .inl ⟨.remove_service protocol, rfl, rfl⟩
  | start_router => exact .inr ⟨rfl, .start_router, List.subset_append_left _ _⟩
  | dial protocol => exact .inr ⟨rfl, .refl _, List.subset_append_left _ _⟩
  | connect => exact .inr ⟨rfl, .refl _, List.Subset.refl _⟩
  | stream | stream_refused => exact .inr ⟨rfl, .receive_stream .., List.Subset.refl _⟩
  | send outbox message entropy clock resolver payload m houtbox hpayload hreceive =>
    exact .inr ⟨rfl, hloopback outbox message entropy clock houtbox, List.Subset.refl _⟩
  | send_refused outbox message entropy clock resolver houtbox hrefused =>
    exact .inr ⟨rfl, hloopback outbox message entropy clock houtbox, List.Subset.refl _⟩
  | broadcast protocol message clock resolver transmit | broadcast_refused protocol message clock resolver transmit =>
    exact .inr ⟨rfl, hbroadcast protocol message clock transmit, List.Subset.refl _⟩
  | pop | drain => exact .inr ⟨rfl, .set_queue .., List.Subset.refl _⟩

theorem reconfigured_endpoint (endpoint : IrohEndpoint) : (s.reconfigured endpoint).endpoint = endpoint := rfl

/-- The registry is as the calls of the run left it; every inbox in it is there and has a handler. -/
structure Served (id : String) (events : List Event) (s : System) : Prop where
  services : Registration.Inv id (events.filterMap registration) s.endpoint
  inboxes : ∀ name inbox, s.endpoint.inboxes.get name = some inbox →
    inbox < s.endpoint.queues.length ∧ ⟨name, inbox⟩ ∈ s.handlers

theorem Served.service (protocol : String) (hserved : Served id events s) :
    Served id (events ++ [.service protocol]) (s.reconfigured (s.endpoint.service protocol).2) where
  services := by
    rw [List.filterMap_append]
    exact Registration.apply_inv hserved.services (.service protocol)
  inboxes name inbox hinbox := by
    have hold (hsame : s.endpoint.inboxes.get name = some inbox)
        (hlength : s.endpoint.queues.length ≤ (s.endpoint.service protocol).2.queues.length) :
        inbox < (s.endpoint.service protocol).2.queues.length ∧
          ⟨name, inbox⟩ ∈ (s.reconfigured (s.endpoint.service protocol).2).handlers := by
      obtain ⟨hqueue, hhandler⟩ := hserved.inboxes name inbox hsame
      exact ⟨Nat.lt_of_lt_of_le hqueue hlength, List.mem_append_left _ hhandler⟩
    rw [reconfigured_endpoint, IrohEndpoint.service_inboxes] at hinbox
    obtain ⟨existing, hexisting, hservice⟩ | ⟨hnone, router, hservice⟩ := s.endpoint.service_cases protocol
    · refine hold ?_ (by rw [hservice])
      by_cases hname : name = iroh.normalize_protocol protocol
      · rw [if_pos hname, hservice] at hinbox
        rw [hname, hexisting, hinbox]
      · rw [if_neg hname] at hinbox
        exact hinbox
    · have hlength : (s.endpoint.service protocol).2.queues.length = s.endpoint.queues.length + 1 := by
        rw [hservice]
        exact List.length_append
      by_cases hname : name = iroh.normalize_protocol protocol
      · rw [if_pos hname] at hinbox
        cases hinbox
        have hinbox : (s.endpoint.service protocol).1 = s.endpoint.queues.length := by rw [hservice]
        rw [hname]
        refine ⟨?_, List.mem_append_right _ (IrohEndpoint.mem_service_router hnone)⟩
        rw [reconfigured_endpoint, hinbox, hlength]
        exact Nat.lt_succ_self _
      · rw [if_neg hname] at hinbox
        exact hold hinbox (by omega)

theorem Served.remove_service (protocol : String) (hserved : Served id events s) :
    Served id (events ++ [.remove_service protocol]) (s.reconfigured (s.endpoint.remove_service protocol).2) where
  services := by
    rw [List.filterMap_append]
    exact Registration.apply_inv hserved.services (.remove_service protocol)
  inboxes name inbox hinbox := by
    rw [reconfigured_endpoint, IrohEndpoint.remove_service_inboxes] at hinbox
    by_cases hname : name = iroh.normalize_protocol protocol
    · rw [if_pos hname] at hinbox
      cases hinbox
    · rw [if_neg hname] at hinbox
      obtain ⟨hqueue, hhandler⟩ := hserved.inboxes name inbox hinbox
      rw [reconfigured_endpoint, remove_service_queues]
      exact ⟨hqueue, List.mem_append_left _ hhandler⟩

theorem step_served (hstep : Step lib s event t) (houtboxes : s.LoopbackOutboxes lib) (hserved : Served id events s) :
    Served id (events ++ [event]) t := by
  obtain ⟨call, hcall, rfl⟩ | ⟨hnone, hsame, hhandlers⟩ := step_registration hstep houtboxes
  · cases event <;> cases hcall
    · exact hserved.service _
    · exact hserved.remove_service _
  · have hcalls : (events ++ [event]).filterMap registration = events.filterMap registration := by
      rw [List.filterMap_append, List.filterMap_cons_none hnone]
      exact List.append_nil _
    refine ⟨?_, fun name inbox hinbox => ?_⟩
    · rw [hcalls]
      exact ⟨hsame.id.trans hserved.services.id, by rw [hsame.inboxes]; exact hserved.services.inboxes,
        by rw [hsame.protocols]; exact hserved.services.protocols⟩
    · rw [hsame.inboxes] at hinbox
      obtain ⟨hqueue, hhandler⟩ := hserved.inboxes name inbox hinbox
      rw [hsame.queues]
      exact ⟨hqueue, hhandlers hhandler⟩

/-- In every run what is registered is served. -/
theorem run_served (hrun : Run (Step lib) (start id recipient_key) events s) : Served id events s := by
  induction hrun with
  | nil =>
    refine ⟨Registration.run_inv id recipient_key [], fun name inbox hinbox => ?_⟩
    cases hinbox
  | snoc hrun hlast ih => exact step_served hlast (reachable_inv ⟨_, hrun⟩).loopbacks ih

theorem acceptance_eq_some_iff {entry : Entry} {m_id : String} {time : Nat} : acceptance entry = some (m_id, time) ↔
    entry.path = .stream ∧ ∃ now, entry.clock = some now ∧ entry.message.id = m_id ∧ now.toNat = time := by
  obtain ⟨path, message, protocol, clock, resolver, before, after⟩ := entry
  cases path <;> cases clock <;> simp [acceptance]

/-- What has not entered by a stream within the window the guard does not hold. -/
theorem run_not_holds (hrun : Run (Step lib) (start id recipient_key) events s)
    (hclock : window.NonDecreasing stream_clock events) {now : UInt64}
    (hnow : ∀ event ∈ events, ∀ time ∈ stream_clock event, time ≤ now) {m_id : String}
    (hlately : ∀ entry ∈ s.entered, entry.path = .stream → entry.message.id = m_id →
      ∀ time ∈ entry.clock, time.toNat + 120 < now.toNat) :
    ¬ s.guard.Holds now m_id := by
  obtain ⟨calls, hcalls⟩ := run_decoded hrun
  have hordered : DecodeCall.NonDecreasing calls := by
    have hreadings : (events.filterMap stream_clock).Pairwise (· ≤ ·) := List.pairwise_filterMap.mpr hclock
    exact List.pairwise_filterMap.mp (hreadings.sublist hcalls.clocks)
  have hbefore : ∀ call ∈ calls, ∀ time ∈ call.clock, time ≤ now := by
    intro call hcall time htime
    obtain ⟨event, hevent, hreading⟩ := List.mem_filterMap.mp
      (hcalls.clocks.subset (List.mem_filterMap.mpr ⟨call, hcall, htime⟩))
    exact hnow event hevent time hreading
  have htracks := InboundSecurity.run_tracks hcalls.run hordered hbefore
  rw [hcalls.accepted] at htracks
  have hwindow : s.guard.window_secs.toNat = 120 := by
    rw [System.guard, InboundSecurity.run_window hcalls.run]
    rfl
  intro hheld
  obtain ⟨time, hlogged, hrecent⟩ := (htracks.holds_iff m_id).mp hheld
  obtain ⟨entry, hentry, hacceptance⟩ := List.mem_filterMap.mp hlogged
  obtain ⟨hpath, clock, hentered, hid, htime⟩ := acceptance_eq_some_iff.mp hacceptance
  have hlong := hlately entry hentry hpath hid clock hentered
  rw [htime] at hlong
  unfold System.guard at hwindow
  omega

/-- Served by this handler, the payload is received as this message: it enters, and is the last in the inbox. -/
def Receives (lib : Lib) (s : System) (handler : InboxProtocolHandler) (payload : Bytes) (clock : Clock)
    (resolver : Resolver) (m : Message) : Prop :=
  (∃ t, Step lib s (.stream handler payload clock resolver) t) ∧
  ∀ t, Step lib s (.stream handler payload clock resolver) t →
    (∃ entry, t.entered = s.entered ++ [entry] ∧ entry.path = .stream ∧ entry.message = m) ∧
    ∃ queue, t.endpoint.queues[handler.inbox]? = some queue ∧ queue.buf.getLast? = some (m.exp, m)

theorem Served.receives (hserved : Served id events s) {name : String} {inbox : Inbox} {payload : Bytes}
    {clock : Clock} {resolver : Resolver} {m : Message} (hinbox : s.endpoint.inboxes.get name = some inbox)
    (hsize : payload.length ≤ DEFAULT_MAX_INBOUND_MESSAGE_SIZE)
    (hdecode : (s.endpoint.inbound_security.decode lib clock resolver payload name).1 = .ok m) :
    Receives lib s ⟨name, inbox⟩ payload clock resolver m := by
  obtain ⟨hqueue, hhandler⟩ := hserved.inboxes name inbox hinbox
  refine ⟨⟨_, .stream s ⟨name, inbox⟩ payload clock resolver m hhandler hsize hdecode⟩, fun t hstep => ?_⟩
  cases hstep with
  | stream _ _ _ _ m' hhandler' hsize' hdecode' =>
    cases hdecode.symm.trans hdecode'
    obtain ⟨now, _, hreceive⟩ := IrohEndpoint.receive_stream_accepts hsize hdecode'
    refine ⟨⟨_, rfl, rfl, rfl⟩, ?_⟩
    have hqueues : (s.endpoint.receive_stream lib clock resolver ⟨name, inbox⟩ payload).queues[inbox]? =
        s.endpoint.queues[inbox]?.map (TtlQueue.push now m.exp m) := by
      rw [hreceive]
      exact List.getElem?_modify_eq ..
    refine ⟨_, hqueues.trans (by rw [List.getElem?_eq_getElem hqueue]; rfl), ?_⟩
    exact List.getLast?_concat
  | stream_refused _ _ _ _ _ hrefused =>
    exact absurd hdecode ((hrefused.resolve_left (Nat.not_lt.mpr hsize)) m)

end

end System

end ma_core.iroh
