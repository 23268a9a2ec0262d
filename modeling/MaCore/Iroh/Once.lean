import Mathlib.Data.List.Perm.Subperm
import MaCore.Base.Window
import MaCore.Iroh.Ingress
import MaCore.Iroh.Registration
import MaCore.Iroh.Runs

open rust transition
open ma_core.error ma_core.key ma_core.doc ma_core.msg ma_core.service ma_core.outbox ma_core.ttl_queue

namespace ma_core.iroh

/-! Lists behind handles. -/

section
variable {α β : Type} {held : α → List β} {xs : List β}

/-- A change that adds at most these to one list adds at most these to all. -/
theorem flatMap_modify_subperm {f : α → α} (hf : ∀ a, (held (f a)).Subperm (xs ++ held a)) (as : List α) (i : Nat) :
    ((as.modify i f).flatMap held).Subperm (xs ++ as.flatMap held) := by
  induction as generalizing i with
  | nil => simp
  | cons a as ih =>
    cases i with
    | zero =>
      rw [List.modify_zero_cons, List.flatMap_cons, List.flatMap_cons, ← List.append_assoc]
      exact (List.subperm_append_right _).mpr (hf a)
    | succ i =>
      rw [List.modify_succ_cons, List.flatMap_cons, List.flatMap_cons]
      have hrest := (List.subperm_append_left (held a)).mpr (ih i)
      refine hrest.trans (List.Perm.subperm ?_)
      rw [← List.append_assoc, ← List.append_assoc]
      exact List.perm_append_comm.append_right _

/-- What is taken from one list is no longer in all. -/
theorem flatMap_set_subperm {a b : α} {as : List α} {i : Nat} (hold : as[i]? = some a)
    (htaken : (xs ++ held b).Subperm (held a)) : (xs ++ (as.set i b).flatMap held).Subperm (as.flatMap held) := by
  induction as generalizing i with
  | nil => simp at hold
  | cons c as ih =>
    cases i with
    | zero =>
      cases hold
      rw [List.set_cons_zero, List.flatMap_cons, List.flatMap_cons, ← List.append_assoc]
      exact (List.subperm_append_right _).mpr htaken
    | succ i =>
      rw [List.set_cons_succ, List.flatMap_cons, List.flatMap_cons]
      refine List.Subperm.trans (List.Perm.subperm ?_) ((List.subperm_append_left (held c)).mpr (ih hold))
      rw [← List.append_assoc, ← List.append_assoc]
      exact List.perm_append_comm.append_right _

end

namespace System

/-- The messages in a queue. -/
def messages (queue : TtlQueue Message) : List Message := queue.buf.map Prod.snd

/-- The messages in the queues. -/
def contents (endpoint : IrohEndpoint) : List Message := endpoint.queues.flatMap messages

/-- Every message that was handed out, or is in a queue, is one of those that entered, none of them twice. -/
def Accounted (self : System) : Prop :=
  (self.handed ++ contents self.endpoint).Subperm (self.entered.map Entry.message)

section
variable {lib : Lib} {s t : System} {event : Event} {endpoint : IrohEndpoint} {inbox : Inbox} {now : UInt64}
  {m : Message}

theorem messages_push_subperm (queue : TtlQueue Message) :
    (messages (queue.push now m.exp m)).Subperm ([m] ++ messages queue) := by
  have hkept : (if queue.capacity ≤ (queue.evict now).buf.length then (queue.evict now).buf.tail
      else (queue.evict now).buf).Sublist queue.buf := by
    have hevict : (queue.evict now).buf.Sublist queue.buf := List.dropWhile_sublist _
    split
    · exact (List.tail_sublist _).trans hevict
    · exact hevict
  have hbuf : (messages (queue.push now m.exp m)).Sublist (messages queue ++ [m]) := by
    refine ((hkept.append_right [(m.exp, m)]).map Prod.snd).trans ?_
    rw [List.map_append, List.map_singleton]
    exact List.Sublist.refl _
  exact hbuf.subperm.trans List.perm_append_comm.subperm

theorem contents_push : (contents (endpoint.push inbox now m)).Subperm (m :: contents endpoint) :=
  flatMap_modify_subperm messages_push_subperm endpoint.queues inbox

theorem contents_of_queues {other : IrohEndpoint} (hqueues : other.queues = endpoint.queues) :
    contents other = contents endpoint := by rw [contents, hqueues, contents]

theorem contents_service (endpoint : IrohEndpoint) (protocol : String) :
    contents (endpoint.service protocol).2 = contents endpoint := by
  obtain hqueues | hqueues := service_queues endpoint protocol
  · exact contents_of_queues hqueues
  · rw [contents, hqueues, List.flatMap_append]
    exact List.append_nil _

theorem Accounted.of_contents {next : System} (haccounted : s.Accounted) (hentered : next.entered = s.entered)
    (hhanded : next.handed = s.handed) (hcontents : contents next.endpoint = contents s.endpoint) :
    next.Accounted := by
  rw [Accounted, hentered, hhanded, hcontents]
  exact haccounted

theorem Accounted.enter {path : Path} {protocol : String} {clock : Clock} {resolver : Resolver}
    (haccounted : s.Accounted) (hcontents : (contents endpoint).Subperm (m :: contents s.endpoint)) :
    (s.enter endpoint path m protocol clock resolver).Accounted := by
  have hstored : (s.handed ++ contents endpoint).Subperm (m :: (s.handed ++ contents s.endpoint)) :=
    ((List.subperm_append_left s.handed).mpr hcontents).trans List.perm_middle.subperm
  have hentered : (m :: s.entered.map Entry.message).Perm (s.entered.map Entry.message ++ [m]) :=
    (List.perm_append_singleton m _).symm
  rw [Accounted, System.enter, List.map_append, List.map_singleton]
  exact hstored.trans (((List.subperm_cons m).mpr haccounted).trans hentered.subperm)

theorem Accounted.take {taken : List Message} {queue old : TtlQueue Message} (haccounted : s.Accounted)
    (hold : s.endpoint.queues[inbox]? = some old)
    (htaken : (taken ++ messages queue).Sublist (messages old)) :
    (s.take inbox taken queue).Accounted := by
  have hcontents : (taken ++ contents (s.take inbox taken queue).endpoint).Subperm (contents s.endpoint) :=
    flatMap_set_subperm hold htaken.subperm
  rw [Accounted, show (s.take inbox taken queue).handed = s.handed ++ taken from rfl, List.append_assoc]
  exact ((List.subperm_append_left s.handed).mpr hcontents).trans haccounted

/-- A loopback pushes what it received, or changes nothing. -/
theorem send_loopback_cases {outbox : Outbox IrohEndpoint} {message : Message} {entropy : Entropy} {clock : Clock}
    (hloopback : ∃ inbox doc did protocol,
      outbox = Outbox.from_transport (LoopbackWire lib inbox) doc true did protocol) :
    (∃ inbox payload m now, outbox.payload lib clock entropy message = .ok payload ∧
      LoopbackWire.receive lib clock payload = .ok m ∧
      (outbox.send lib clock entropy message endpoint).2 = endpoint.push inbox now m) ∨
    (outbox.send lib clock entropy message endpoint).2 = endpoint := by
  obtain ⟨inbox, doc, did, protocol, rfl⟩ := hloopback
  cases hpayload : (Outbox.from_transport (LoopbackWire lib inbox) doc true did protocol).payload lib clock entropy
      message with
  | error e =>
    right
    rw [Outbox.send, hpayload]
    rcases e with cause | _ <;> rfl
  | ok payload =>
    rw [Outbox.send_eq lib clock entropy hpayload rfl]
    obtain ⟨m, now, _, hreceive, hsend⟩ | ⟨e, hsend⟩ :=
      LoopbackWire.send_payload_cases lib inbox clock payload endpoint
    · refine .inl ⟨inbox, payload, m, now, rfl, hreceive, ?_⟩
      rw [show (LoopbackWire lib inbox).send_payload clock payload endpoint = _ from hsend]
    · right
      rw [show (LoopbackWire lib inbox).send_payload clock payload endpoint = _ from hsend]

theorem step_accounted (hstep : Step lib s event t) (houtboxes : s.LoopbackOutboxes lib) (haccounted : s.Accounted) :
    t.Accounted := by
  cases hstep with
  | service protocol => exact haccounted.of_contents rfl rfl (contents_service s.endpoint protocol)
  | remove_service protocol =>
    exact haccounted.of_contents rfl rfl (contents_of_queues (remove_service_queues s.endpoint protocol))
  | start_router => exact haccounted.of_contents rfl rfl (contents_of_queues (start_router_queues s.endpoint))
  | dial | connect => exact haccounted
  | stream handler payload clock resolver m hhandler hsize hdecode =>
    obtain ⟨now, _, hreceive⟩ := IrohEndpoint.receive_stream_accepts hsize hdecode
    refine haccounted.enter ?_
    rw [hreceive]
    exact contents_push
  | stream_refused handler payload clock resolver hhandler hrefused =>
    obtain ⟨inbound_security, hreceive⟩ := IrohEndpoint.receive_stream_refuses hrefused
    refine haccounted.of_contents rfl rfl (contents_of_queues ?_)
    dsimp only
    rw [hreceive]
  | send outbox message entropy clock resolver payload m houtbox hpayload hreceive =>
    refine haccounted.enter ?_
    obtain ⟨inbox, other, received, now, hother, hreceived, hsend⟩ | hsend :=
      @send_loopback_cases lib s.endpoint outbox message entropy clock (houtboxes outbox houtbox)
    · cases hpayload.symm.trans hother
      cases hreceive.symm.trans hreceived
      rw [hsend]
      exact contents_push
    · rw [hsend]
      exact List.Subperm.cons_self
  | send_refused outbox message entropy clock resolver houtbox hrefused =>
    refine haccounted.of_contents rfl rfl ?_
    obtain ⟨_, payload, m, _, hpayload, hreceive, _⟩ | hsend :=
      @send_loopback_cases lib s.endpoint outbox message entropy clock (houtboxes outbox houtbox)
    · exact absurd hreceive (hrefused payload m hpayload)
    · dsimp only
      rw [hsend]
  | broadcast protocol message clock resolver transmit hsend =>
    refine haccounted.enter ?_
    obtain ⟨inbox, now, _, _, _, _, hcall⟩ | ⟨e, hcall⟩ :=
      IrohEndpoint.send_broadcast_to_cases lib clock s.endpoint protocol message transmit
    · rw [hcall]
      exact contents_push
    · rw [hcall] at hsend
      cases hsend
  | broadcast_refused protocol message clock resolver transmit hrefused =>
    refine haccounted.of_contents rfl rfl ?_
    obtain ⟨inbox, now, _, _, _, _, hcall⟩ | ⟨e, hcall⟩ :=
      IrohEndpoint.send_broadcast_to_cases lib clock s.endpoint protocol message transmit
    · exact absurd (by rw [hcall]) hrefused
    · dsimp only
      rw [hcall]
  | pop inbox now queue hqueue =>
    refine haccounted.take hqueue ?_
    have htaken : (queue.pop now).1.toList ++ messages (queue.pop now).2 = messages (queue.evict now) := by
      simp only [messages, TtlQueue.pop, TtlQueue.pop_front]
      cases (queue.evict now).buf <;> rfl
    rw [htaken]
    exact (List.dropWhile_sublist _).map Prod.snd
  | drain inbox now queue hqueue =>
    refine haccounted.take hqueue ?_
    rw [show messages (queue.drain now).2 = [] from rfl, List.append_nil]
    exact (List.dropWhile_sublist _).map Prod.snd

end

/-! The streams of an endpoint's life, as calls of its security. -/

/-- The time at which a stream is received. -/
def stream_clock : Event → Clock
  | .stream _ _ clock _ => clock
  | _ => none

/-- The identifier and the time that an entry by a stream leaves in the guard. -/
def acceptance (entry : Entry) : Option (String × Nat) :=
  match entry.path, entry.clock with
  | .stream, some now => some (entry.message.id, now.toNat)
  | _, _ => none

/-- The calls made so far, in the order of the streams and of the entries. -/
structure Decoded (lib : Lib) (recipient_key : EncryptionKey) (events : List Event) (s : System)
    (calls : List DecodeCall) : Prop where
  run : Run (InboundSecurity.Step lib) (InboundSecurity.new recipient_key) calls s.endpoint.inbound_security
  accepted : calls.filterMap DecodeCall.acceptance = s.entered.filterMap acceptance
  clocks : (calls.filterMap DecodeCall.clock).Sublist (events.filterMap stream_clock)

section
variable {lib : Lib} {recipient_key : EncryptionKey} {s t : System} {event : Event} {events : List Event}
  {calls : List DecodeCall}

theorem inbound_security_service (endpoint : IrohEndpoint) (protocol : String) :
    (endpoint.service protocol).2.inbound_security = endpoint.inbound_security := by
  obtain ⟨_, _, hservice⟩ | ⟨_, _, hservice⟩ := endpoint.service_cases protocol <;> rw [hservice]

theorem inbound_security_remove_service (endpoint : IrohEndpoint) (protocol : String) :
    (endpoint.remove_service protocol).2.inbound_security = endpoint.inbound_security := by
  obtain ⟨_, hremove⟩ | ⟨_, _, hremove⟩ := endpoint.remove_service_cases protocol <;> rw [hremove]

theorem inbound_security_start_router (endpoint : IrohEndpoint) :
    endpoint.start_router.inbound_security = endpoint.inbound_security := by
  obtain ⟨_, hrouter⟩ := endpoint.start_router_eq
  rw [hrouter]

/-- A refused stream makes no call, or one that accepts nothing. -/
theorem receive_stream_refused {endpoint : IrohEndpoint} {handler : InboxProtocolHandler} {payload : Bytes}
    {clock : Clock} {resolver : Resolver}
    (hrefused : DEFAULT_MAX_INBOUND_MESSAGE_SIZE < payload.length ∨
      ∀ m, (endpoint.inbound_security.decode lib clock resolver payload handler.protocol).1 ≠ .ok m) :
    (endpoint.receive_stream lib clock resolver handler payload).inbound_security = endpoint.inbound_security ∨
      ∃ e, (endpoint.inbound_security.decode lib clock resolver payload handler.protocol).1 = .error e ∧
        (endpoint.receive_stream lib clock resolver handler payload).inbound_security =
          (endpoint.inbound_security.decode lib clock resolver payload handler.protocol).2 := by
  unfold IrohEndpoint.receive_stream
  by_cases hsize : DEFAULT_MAX_INBOUND_MESSAGE_SIZE < payload.length
  · rw [if_pos hsize]
    exact .inl rfl
  · rw [if_neg hsize]
    have hnone := hrefused.resolve_left hsize
    cases hcall : endpoint.inbound_security.decode lib clock resolver payload handler.protocol with
    | mk result inbound_security =>
      rw [hcall] at hnone
      cases result with
      | error e => exact .inr ⟨e, rfl, rfl⟩
      | ok m => exact absurd rfl (hnone m)

/-- Steps other than streams make no call. -/
theorem Decoded.quiet (hdecoded : Decoded lib recipient_key events s calls) (event : Event)
    (hsecurity : t.endpoint.inbound_security = s.endpoint.inbound_security)
    (hentered : t.entered.filterMap acceptance = s.entered.filterMap acceptance) :
    Decoded lib recipient_key (events ++ [event]) t calls where
  run := by
    rw [hsecurity]
    exact hdecoded.run
  accepted := by rw [hentered, hdecoded.accepted]
  clocks := by
    rw [List.filterMap_append]
    exact hdecoded.clocks.trans (List.sublist_append_left _ _)

/-- A stream that is decoded makes one. -/
theorem Decoded.call (hdecoded : Decoded lib recipient_key events s calls) {handler : InboxProtocolHandler}
    {payload : Bytes} {clock : Clock} {resolver : Resolver} {result : ServiceResult Message}
    (hresult : (s.endpoint.inbound_security.decode lib clock resolver payload handler.protocol).1 = result)
    (hsecurity : t.endpoint.inbound_security =
      (s.endpoint.inbound_security.decode lib clock resolver payload handler.protocol).2)
    (hentered : t.entered.filterMap acceptance = s.entered.filterMap acceptance ++
      (DecodeCall.acceptance ⟨payload, handler.protocol, clock, resolver, result⟩).toList) :
    Decoded lib recipient_key (events ++ [.stream handler payload clock resolver]) t
      (calls ++ [⟨payload, handler.protocol, clock, resolver, result⟩]) where
  run := by
    rw [hsecurity]
    exact hdecoded.run.snoc
      (@InboundSecurity.step_of_result lib _ ⟨payload, handler.protocol, clock, resolver, _⟩ hresult)
  accepted := by
    rw [hentered, List.filterMap_append, hdecoded.accepted]
    cases hacceptance : DecodeCall.acceptance ⟨payload, handler.protocol, clock, resolver, result⟩ <;>
      simp [hacceptance]
  clocks := by
    rw [List.filterMap_append, List.filterMap_append]
    refine hdecoded.clocks.append ?_
    cases clock <;> exact List.Sublist.refl _

theorem step_decoded (hstep : Step lib s event t) (houtboxes : s.LoopbackOutboxes lib)
    (hdecoded : Decoded lib recipient_key events s calls) :
    ∃ calls', Decoded lib recipient_key (events ++ [event]) t calls' := by
  have hentered (path : Path) (hpath : path ≠ .stream) (m : Message) (protocol : String) (clock : Clock)
      (resolver : Resolver) (endpoint : IrohEndpoint) :
      (s.enter endpoint path m protocol clock resolver).entered.filterMap acceptance =
        s.entered.filterMap acceptance := by
    rw [System.enter, List.filterMap_append]
    cases path with
    | stream => exact absurd rfl hpath
    | loopback | local_broadcast => exact List.append_nil _
  cases hstep with
  | service protocol => exact ⟨calls, hdecoded.quiet _ (inbound_security_service s.endpoint protocol) rfl⟩
  | remove_service protocol =>
    exact ⟨calls, hdecoded.quiet _ (inbound_security_remove_service s.endpoint protocol) rfl⟩
  | start_router => exact ⟨calls, hdecoded.quiet _ (inbound_security_start_router s.endpoint) rfl⟩
  | dial | connect | pop | drain => exact ⟨calls, hdecoded.quiet _ rfl rfl⟩
  | stream handler payload clock resolver m hhandler hsize hdecode =>
    obtain ⟨now, rfl, hreceive⟩ := IrohEndpoint.receive_stream_accepts hsize hdecode
    refine ⟨_, hdecoded.call hdecode ?_ ?_⟩
    · rw [System.enter, hreceive]
      rfl
    · rw [System.enter, List.filterMap_append]
      rfl
  | stream_refused handler payload clock resolver hhandler hrefused =>
    obtain hsame | ⟨e, hresult, hsecurity⟩ := receive_stream_refused hrefused
    · exact ⟨calls, hdecoded.quiet _ hsame rfl⟩
    · exact ⟨_, hdecoded.call hresult hsecurity (List.append_nil _).symm⟩
  | send outbox message entropy clock resolver payload m houtbox hpayload hreceive =>
    have hsecurity := (@send_loopback lib s.endpoint outbox message entropy clock (houtboxes outbox houtbox)).1
    exact ⟨calls, hdecoded.quiet _ hsecurity (hentered .loopback (by decide) _ _ _ _ _)⟩
  | send_refused outbox message entropy clock resolver houtbox hrefused =>
    have hsecurity := (@send_loopback lib s.endpoint outbox message entropy clock (houtboxes outbox houtbox)).1
    exact ⟨calls, hdecoded.quiet _ hsecurity rfl⟩
  | broadcast protocol message clock resolver transmit hsend =>
    refine ⟨calls, hdecoded.quiet _ ?_ (hentered .local_broadcast (by decide) _ _ _ _ _)⟩
    obtain ⟨inbox, now, _, _, _, _, hcall⟩ | ⟨e, hcall⟩ :=
      IrohEndpoint.send_broadcast_to_cases lib clock s.endpoint protocol message transmit
    · rw [System.enter, hcall]
      rfl
    · rw [System.enter, hcall]
  | broadcast_refused protocol message clock resolver transmit hrefused =>
    refine ⟨calls, hdecoded.quiet _ ?_ rfl⟩
    obtain ⟨inbox, now, _, _, _, _, hcall⟩ | ⟨e, hcall⟩ :=
      IrohEndpoint.send_broadcast_to_cases lib clock s.endpoint protocol message transmit
    · exact absurd (by rw [hcall]) hrefused
    · dsimp only
      rw [hcall]

/-- In every run the streams are a run of the endpoint's security, and it accepted what entered by them. -/
theorem run_decoded {id : String} (hrun : Run (Step lib) (start id recipient_key) events s) :
    ∃ calls, Decoded lib recipient_key events s calls := by
  induction hrun with
  | nil => exact ⟨[], .nil, rfl, List.Sublist.refl _⟩
  | snoc hrun hlast ih =>
    obtain ⟨calls, hcalls⟩ := ih
    exact step_decoded hlast (reachable_inv ⟨_, hrun⟩).loopbacks hcalls

/-- What a run of the security accepts under one identifier is further apart than the guard's window. -/
theorem acceptances_apart {security : InboundSecurity}
    (hrun : Run (InboundSecurity.Step lib) (InboundSecurity.new recipient_key) calls security)
    (hclock : DecodeCall.NonDecreasing calls) :
    (calls.filterMap DecodeCall.acceptance).Pairwise fun first second =>
      first.1 = second.1 → first.2 + 120 < second.2 := by
  rw [List.pairwise_filterMap]
  induction hrun with
  | nil => exact List.Pairwise.nil
  | @snoc calls call security next hrun hlast ih =>
    obtain ⟨hcalls, _, hcross⟩ := List.pairwise_append.mp hclock
    refine List.pairwise_append.mpr ⟨ih hcalls, List.pairwise_singleton _ _, ?_⟩
    rintro earlier hearlier later hlater ⟨id, time⟩ hfirst ⟨id', time'⟩ hsecond hsame
    rw [List.mem_singleton.mp hlater] at hsecond
    obtain ⟨m, now, hresult, hnow, rfl, rfl⟩ := DecodeCall.acceptance_eq_some_iff.mp hfirst
    obtain ⟨m', now', hresult', hnow', rfl, rfl⟩ := DecodeCall.acceptance_eq_some_iff.mp hsecond
    obtain ⟨_, _, hclock', _, hunseen⟩ := InboundSecurity.step_accepts hlast hresult'
    cases hnow'.symm.trans hclock'
    have hle : now ≤ now' := hcross earlier hearlier call (List.mem_singleton.mpr rfl) now hnow now' hnow'
    have hheld := mt (@InboundSecurity.run_holds_iff _ _ _ [] _ _ _ hrun hclock hnow' m'.id).mpr hunseen
    by_contra hclose
    exact hheld ⟨earlier, hearlier, m, now, hresult, hnow, hsame, by omega⟩

/-- Whatever enters does so at a time. -/
def Timed (self : System) : Prop := ∀ entry ∈ self.entered, ∃ now, entry.clock = some now

theorem Timed.enter {endpoint : IrohEndpoint} {path : Path} {m : Message} {protocol : String} {now : UInt64}
    {resolver : Resolver} (htimed : s.Timed) : (s.enter endpoint path m protocol (some now) resolver).Timed := by
  intro entry hentry
  obtain hold | hnew := List.mem_append.mp hentry
  · exact htimed entry hold
  · rw [List.mem_singleton.mp hnew]
    exact ⟨now, rfl⟩

theorem step_timed (hstep : Step lib s event t) (htimed : s.Timed) : t.Timed := by
  cases hstep with
  | stream handler payload clock resolver m hhandler hsize hdecode =>
    obtain ⟨now, rfl, _⟩ := IrohEndpoint.receive_stream_accepts hsize hdecode
    exact htimed.enter
  | send outbox message entropy clock resolver payload m houtbox hpayload hreceive =>
    obtain ⟨now, rfl, _⟩ := (LoopbackWire.receive_eq_ok_iff.mp hreceive).2.fresh
    exact htimed.enter
  | broadcast protocol message clock resolver transmit hsend =>
    obtain ⟨_, now, _, rfl, _⟩ | ⟨e, hcall⟩ :=
      IrohEndpoint.send_broadcast_to_cases lib clock s.endpoint protocol message transmit
    · exact htimed.enter
    · rw [hcall] at hsend
      cases hsend
  | service | remove_service | start_router | dial | connect | stream_refused | send_refused | broadcast_refused | pop
  | drain => exact htimed

theorem reachable_accounted {id : String} (hreach : Reachable (Step lib) (start id recipient_key) s) :
    s.Inv lib ∧ s.Accounted ∧ s.Timed := by
  refine hreach.invariant (I := fun s => s.Inv lib ∧ s.Accounted ∧ s.Timed) ⟨start_inv id recipient_key, ?_, ?_⟩ ?_
  · exact List.Subperm.refl []
  · rintro _ ⟨⟩
  · rintro s event t ⟨hinv, haccounted, htimed⟩ hstep
    exact ⟨step_inv hstep hinv, step_accounted hstep hinv.loopbacks haccounted, step_timed hstep htimed⟩

/-- Entries by streams under one identifier are further apart than the guard's window. -/
def Apart (first second : Entry) : Prop :=
  first.path = .stream → second.path = .stream → first.message.id = second.message.id →
    ∃ t t', first.clock = some t ∧ second.clock = some t' ∧ t.toNat + 120 < t'.toNat

theorem run_apart {id : String} (hrun : Run (Step lib) (start id recipient_key) events s)
    (hclock : window.NonDecreasing stream_clock events) : s.entered.Pairwise Apart := by
  obtain ⟨calls, hcalls⟩ := run_decoded hrun
  obtain ⟨_, _, htimed⟩ := reachable_accounted ⟨events, hrun⟩
  have hordered : DecodeCall.NonDecreasing calls := by
    have hreadings : (events.filterMap stream_clock).Pairwise (· ≤ ·) := List.pairwise_filterMap.mpr hclock
    exact List.pairwise_filterMap.mp (hreadings.sublist hcalls.clocks)
  have hapart := acceptances_apart hcalls.run hordered
  rw [hcalls.accepted, List.pairwise_filterMap] at hapart
  refine hapart.imp_of_mem fun {first second} hfirst hsecond hpair hpath hpath' hsame => ?_
  obtain ⟨t, ht⟩ := htimed first hfirst
  obtain ⟨t', ht'⟩ := htimed second hsecond
  have hacceptance : acceptance first = some (first.message.id, t.toNat) := by rw [acceptance, hpath, ht]
  have hacceptance' : acceptance second = some (second.message.id, t'.toNat) := by rw [acceptance, hpath', ht']
  exact ⟨t, t', ht, ht', hpair _ hacceptance _ hacceptance' hsame⟩

/-- In every run of an endpoint whose clock does not go back, what is handed out entered before, each entry at most
    once, and what peers send under one identifier enters at most once in any window. So peers cannot make an
    application see a message twice within a window. -/
theorem handed_once {id : String} (hrun : Run (Step lib) (start id recipient_key) events s)
    (hclock : window.NonDecreasing stream_clock events) :
    (s.handed ++ contents s.endpoint).Subperm (s.entered.map Entry.message) ∧ s.entered.Pairwise Apart ∧
    ((∀ entry ∈ s.entered, entry.path = .stream) →
      (∀ first ∈ s.entered, ∀ second ∈ s.entered, ∀ t ∈ first.clock, ∀ t' ∈ second.clock,
        t'.toNat ≤ t.toNat + 120) →
      (s.handed.map Message.id).Nodup) := by
  obtain ⟨_, haccounted, _⟩ := reachable_accounted ⟨events, hrun⟩
  have hapart := run_apart hrun hclock
  refine ⟨haccounted, hapart, fun hstreams hwithin => ?_⟩
  have hdistinct : (s.entered.map fun entry => entry.message.id).Nodup := by
    refine List.pairwise_map.mpr (hapart.imp_of_mem fun {first second} hfirst hsecond hpair hsame => ?_)
    obtain ⟨t, t', ht, ht', hlater⟩ := hpair (hstreams first hfirst) (hstreams second hsecond) hsame
    exact absurd (hwithin first hfirst second hsecond t ht t' ht') (Nat.not_le_of_lt hlater)
  obtain ⟨handed, hperm, hsublist⟩ := (List.sublist_append_left s.handed _).subperm.trans haccounted
  have hids := hsublist.map Message.id
  rw [List.map_map] at hids
  exact (hperm.map Message.id).nodup_iff.mp (hdistinct.sublist hids)

end

/-! An application takes the broadcast of a peer. -/

section
open ma_core.reference

theorem delivered_queue : ∃ queue, delivered.endpoint.queues[0]? = some queue ∧
    (queue.pop 1000).1 = some (broadcast 1 "m" 0) := by
  obtain ⟨now, hnow, hreceive⟩ := @IrohEndpoint.receive_stream_accepts _ _ _ _ _ _
    ⟨INBOX_PROTOCOL_ID, 0⟩ broadcast_size served_decode
  refine ⟨(TtlQueue.new DEFAULT_INBOX_CAPACITY inbox_capacity_pos).push now (broadcast 1 "m" 0).exp
    (broadcast 1 "m" 0), ?_, TtlQueue.pop_push rfl⟩
  simp only [delivered, enter, hreceive]
  rfl

theorem handed_once_delivered : ∃ s : System, s.handed = [broadcast 1 "m" 0] ∧
    (s.handed ++ contents s.endpoint).Subperm (s.entered.map Entry.message) ∧ s.entered.Pairwise Apart ∧
    (s.handed.map Message.id).Nodup := by
  obtain ⟨queue, hqueue, hpopped⟩ := delivered_queue
  have hservice : Step library (start "endpoint" (encryptionKey 2)) (.service INBOX_PROTOCOL_ID) served :=
    .service _ _
  have hstream : Step library served _ delivered :=
    .stream served ⟨INBOX_PROTOCOL_ID, 0⟩ _ (some 1000) (resolve [1, 2]) _ served_handlers
      broadcast_size served_decode
  have hpop := @Step.pop library delivered 0 1000 queue hqueue
  have hrun := Run.cons hservice (Run.cons hstream (Run.single hpop))
  have hclock : window.NonDecreasing stream_clock [.service INBOX_PROTOCOL_ID,
      .stream ⟨INBOX_PROTOCOL_ID, 0⟩ (wire (broadcast 1 "m" 0)) (some 1000) (resolve [1, 2]), .pop 0 1000] := by
    simp [window.NonDecreasing, stream_clock]
  obtain ⟨haccounted, hapart, hnodup⟩ := handed_once hrun hclock
  refine ⟨_, ?_, haccounted, hapart, hnodup ?_ ?_⟩
  · rw [take, hpopped]
    rfl
  · intro entry hentry
    rw [List.mem_singleton.mp hentry]
  · intro first hfirst second hsecond t ht t' ht'
    rw [List.mem_singleton.mp hfirst] at ht
    rw [List.mem_singleton.mp hsecond] at ht'
    cases ht
    cases ht'
    decide

end

end System

end ma_core.iroh
