import MaCore.Iroh.Node

open rust
open ma_core.error ma_core.key ma_core.doc ma_core.msg ma_core.outbox ma_core.ttl_queue

namespace ma_core.iroh

/-- Nothing was registered or removed. -/
structure SameServices (before after : IrohEndpoint) : Prop where
  id : after.id = before.id
  protocols : after.protocols = before.protocols
  inboxes : after.inboxes = before.inboxes
  queues : after.queues.length = before.queues.length

namespace SameServices

variable {lib : Lib} {endpoint : IrohEndpoint}

theorem refl (endpoint : IrohEndpoint) : SameServices endpoint endpoint := ⟨rfl, rfl, rfl, rfl⟩

theorem push (inbox : Inbox) (now : UInt64) (m : Message) : SameServices endpoint (endpoint.push inbox now m) :=
  ⟨rfl, rfl, rfl, List.length_modify ..⟩

theorem set_queue (inbox : Inbox) (queue : TtlQueue Message) :
    SameServices endpoint { endpoint with queues := endpoint.queues.set inbox queue } :=
  ⟨rfl, rfl, rfl, List.length_set⟩

theorem start_router : SameServices endpoint endpoint.start_router := by
  obtain ⟨router, hrouter⟩ := endpoint.start_router_eq
  rw [hrouter]
  exact ⟨rfl, rfl, rfl, rfl⟩

theorem receive_stream (clock : Clock) (resolver : Resolver) (handler : InboxProtocolHandler) (payload : Bytes) :
    SameServices endpoint (endpoint.receive_stream lib clock resolver handler payload) := by
  unfold IrohEndpoint.receive_stream
  split
  · exact refl endpoint
  · split
    · exact ⟨rfl, rfl, rfl, rfl⟩
    · split
      · exact ⟨rfl, rfl, rfl, rfl⟩
      · exact ⟨rfl, rfl, rfl, List.length_modify ..⟩

theorem send_loopback (held : HeldOutbox) (inbox : Inbox) (clock : Clock) (entropy : Entropy) (message : Message) :
    SameServices endpoint ((held.loopback lib inbox).send lib clock entropy message endpoint).2 := by
  cases hpayload : (held.loopback lib inbox).payload lib clock entropy message with
  | error e =>
    have hsend : ((held.loopback lib inbox).send lib clock entropy message endpoint).2 = endpoint := by
      rw [Outbox.send, hpayload]
      rcases e with cause | _ <;> rfl
    rw [hsend]
    exact refl endpoint
  | ok payload =>
    rw [Outbox.send_eq lib clock entropy hpayload rfl]
    obtain ⟨m, now, _, _, hsend⟩ | ⟨e, hsend⟩ := LoopbackWire.send_payload_cases lib inbox clock payload endpoint
    · rw [show (LoopbackWire lib inbox).send_payload clock payload endpoint = _ from hsend]
      exact push inbox now m
    · rw [show (LoopbackWire lib inbox).send_payload clock payload endpoint = _ from hsend]
      exact refl endpoint

end SameServices

namespace Node

variable {lib : Lib} {parse : String → Except String String} {id : String} {w w' : Node}

/-- A step that registers nothing and closes nothing. -/
structure Frame (w w' : Node) : Prop where
  services : SameServices w.endpoint w'.endpoint
  registrations : w'.registrations = w.registrations
  closed : w'.closed = w.closed

theorem Frame.refl (w : Node) : Frame w w := ⟨.refl w.endpoint, rfl, rfl⟩

theorem Replies.frame {i : Nat} {c : Command} {r : c.Reply} (hreply : Replies i w c r w') : Frame w w' := by
  cases hreply with
  | evict_if_closed cache_key =>
    obtain ⟨connection_cache, hevict⟩ := w.evict_if_closed_eq cache_key
    rw [hevict]
    exact ⟨.refl w.endpoint, rfl, rfl⟩
  | push inbox now message => exact ⟨.push inbox now message, rfl, rfl⟩
  | relay_url | inbox | get | close_reason | connect_failed | opened | open_failed | accept_bi | write_all =>
    exact .refl w
  | insert | remove | connect_lock | connect_unlock | connected | spawn_outbound_accept_loop | hold =>
    exact ⟨.refl w.endpoint, rfl, rfl⟩

theorem Received.frame {handler : InboxProtocolHandler} {payload : Bytes} {clock : Clock} {resolver : Resolver}
    (hreceived : Received lib handler payload clock resolver w w') : Frame w w' := by
  cases hreceived with
  | pushed m hsize hdecode => exact ⟨.receive_stream clock resolver handler payload, rfl, rfl⟩
  | refused hrefused => exact ⟨.receive_stream clock resolver handler payload, rfl, rfl⟩

theorem During.frame {c : Command} {event : NodeEvent} (hduring : During lib w c event w') : Frame w w' := by
  cases hduring with
  | inbound_stream _ connection handler payload clock resolver hopen hreceived => exact hreceived.frame

theorem Starts.frame {tag : Origin} (hstart : Starts w tag w') : Frame w w' := by
  cases hstart with
  | accept => exact ⟨.refl w.endpoint, rfl, rfl⟩
  | connect_outbox | send_broadcast_to => exact .refl w

/-- What a task counts on: connections stay closed, and while it borrows the
    endpoint nothing is registered or removed. -/
structure Relies (tag : Origin) (w w' : Node) : Prop where
  closed : ∀ connection ∈ w.closed, connection ∈ w'.closed
  inboxes : tag.Borrows → w'.endpoint.inboxes = w.endpoint.inboxes

/-- When a task issues a command: a handler removes its entry once its
    connection has closed, and an outbox to this endpoint has the inbox that is
    registered then. -/
def Pre (tag : Origin) (w : Node) : Command → Prop
  | .remove cache_key => ∃ handler connection, tag = .accept handler connection ∧
    cache_key = (connection.remote_id, handler.protocol) ∧ connection ∈ w.closed
  | .hold outbox => ∀ inbox, outbox.wire = .LoopbackWire inbox →
    w.endpoint.inboxes.get (normalize_protocol outbox.protocol) = some inbox
  | _ => True

/-- A command that needs no precondition. -/
def Free (c : Command) : Prop := ∀ tag w, Pre tag w c

theorem Frame.relies (hframe : Frame w w') (tag : Origin) : Relies tag w w' := by
  refine ⟨fun connection hclosed => ?_, fun _ => hframe.services.inboxes⟩
  rw [hframe.closed]
  exact hclosed

theorem Moves.relies {event : NodeEvent} {tag : Origin} (hmove : Moves lib w event w')
    (hpermits : tag.Borrows → ¬ event.Exclusive) : Relies tag w w' := by
  cases hmove with
  | registration call => exact ⟨fun _ hclosed => hclosed, fun hborrows => absurd trivial (hpermits hborrows)⟩
  | start_router => exact ⟨fun _ hclosed => hclosed, fun hborrows => absurd trivial (hpermits hborrows)⟩
  | close connection hconnection => exact ⟨fun _ hclosed => List.mem_cons_of_mem _ hclosed, fun _ => rfl⟩
  | stream _ d handler payload clock resolver hdialled hopen hhandler hreceived => exact hreceived.frame.relies tag
  | unserved => exact (Frame.refl w).relies tag
  | send held inbox message entropy clock payload m hheld hwire hpayload hreceive =>
    exact ⟨fun _ hclosed => hclosed, fun _ => (SameServices.send_loopback held inbox clock entropy message).inboxes⟩
  | send_refused held inbox message entropy clock hheld hwire hrefused =>
    exact ⟨fun _ hclosed => hclosed, fun _ => (SameServices.send_loopback held inbox clock entropy message).inboxes⟩
  | pop | drain => exact ⟨fun _ hclosed => hclosed, fun _ => rfl⟩

theorem Relies.trans {tag : Origin} {a b c : Node} (hfirst : Relies tag a b) (hsecond : Relies tag b c) :
    Relies tag a c := by
  refine ⟨fun connection hclosed => hsecond.closed connection (hfirst.closed connection hclosed), fun hborrows => ?_⟩
  rw [hsecond.inboxes hborrows, hfirst.inboxes hborrows]

/-! The programs of the tasks. -/

theorem Free.of_dialling {cache_key : String × String} {c : Command} (hc : Dialling cache_key c) : Free c := by
  intro tag w
  cases hc <;> exact trivial

theorem resolve_addr_issues {P : Command → Prop} (hP : P .relay_url) (endpoint_id : String) :
    (resolve_addr parse endpoint_id).run.Issues P := by
  unfold resolve_addr
  cases parse (trim endpoint_id) with
  | error e => exact trivial
  | ok target => exact ⟨hP, fun _ => trivial⟩

theorem local_inbox_issues {P : Command → Prop} {protocol : String} (hP : P (.inbox (normalize_protocol protocol))) :
    (local_inbox protocol).run.Issues P := by
  refine ⟨hP, fun inbox => ?_⟩
  cases inbox <;> exact trivial

theorem send_broadcast_to_issues (clock : Clock) (target protocol : String) (message : Message) :
    (send_broadcast_to lib parse id clock target protocol message).run.Issues Free := by
  unfold send_broadcast_to
  cases IrohEndpoint.check_broadcast lib clock message with
  | error e => exact trivial
  | ok _ =>
    rw [Prog.lift_ok_bind]
    by_cases hlocal : target = id
    · rw [if_pos hlocal]
      apply Prog.Issues.bind_ok
      · exact local_inbox_issues fun _ _ => trivial
      intro inbox
      cases now_secs (ε := Error) clock with
      | error e => exact trivial
      | ok now => exact ⟨fun _ _ => trivial, fun _ => trivial⟩
    · rw [if_neg hlocal]
      cases validated message.encode with
      | error e => exact trivial
      | ok cbor =>
        rw [Prog.lift_ok_bind]
        apply Prog.Issues.bind_ok
        · exact resolve_addr_issues (fun _ _ => trivial) target
        intro addr
        apply Prog.Issues.bind_ok
        · exact (open_addr_cached_issues addr).mono fun c => Free.of_dialling
        intro channel
        exact transport_err_issues ⟨fun _ _ => trivial, fun _ => trivial⟩

/-- The caller of `connect_outbox` for another endpoint holds an outbox to it. -/
theorem connect_outbox_issues {endpoint_id : String} (hremote : endpoint_id ≠ id) (doc : Document)
    (did protocol : String) :
    (program lib parse id (.connect_outbox doc endpoint_id did protocol)).Issues Free := by
  change ((iroh.connect_outbox parse id doc endpoint_id did protocol).run >>= keep).Issues Free
  have herror (e : Failure Error) : (keep (.error e)).Issues Free := trivial
  unfold iroh.connect_outbox
  rw [if_neg hremote]
  apply Prog.Issues.bind_ok_bind (resolve_addr_issues (fun _ _ => trivial) endpoint_id)
  · intro addr
    apply Prog.Issues.bind_ok_bind ((get_or_connect_issues addr).mono fun c => Free.of_dialling)
    · intro connection
      have hhold : Free (.hold ⟨.CachedChannel connection, doc, did, protocol⟩) := by
        intro tag w inbox hwire
        cases hwire
      exact ⟨hhold, fun _ => trivial⟩
    · exact herror
  · exact herror

section
variable (lib : Lib) (parse : String → Except String String) (id : String)

/-- A handler removes its entry when `accept_bi` has failed, -/
theorem accept_held (i : Nat) (handler : InboxProtocolHandler) (connection : Connection) (w : Node) :
    Prog.rwp ((rules lib parse id).env Pre i (.accept handler connection)) (Relies (.accept handler connection))
      (fun _ _ => True) (handler.accept connection) w := by
  intro w₁ _
  refine ⟨trivial, fun _ w₂ _ w₃ _ => ⟨trivial, fun _ w₄ hreply => ?_⟩⟩
  cases hreply with
  | accept_bi _ _ hclosed =>
    intro w₅ hrely
    exact ⟨⟨handler, connection, rfl, rfl, hrely.closed connection hclosed⟩, fun _ _ _ _ _ => trivial⟩

/-- What a lookup finds is what is registered, and it changes nothing. -/
theorem Replies.inbox_eq {i : Nat} {normalized : String} {found : Option Inbox}
    (hreply : Replies i w (.inbox normalized) found w') :
    w' = w ∧ found = w.endpoint.inboxes.get normalized := by
  cases hreply
  exact ⟨rfl, rfl⟩

/-- and while the endpoint is borrowed, the inbox that was found stays registered. -/
theorem connect_outbox_held (i : Nat) (doc : Document) (endpoint_id did protocol : String) (w : Node) :
    Prog.rwp ((rules lib parse id).env Pre i (.connect_outbox doc endpoint_id did protocol))
      (Relies (.connect_outbox doc endpoint_id did protocol)) (fun _ _ => True)
      (program lib parse id (.connect_outbox doc endpoint_id did protocol)) w := by
  by_cases hlocal : endpoint_id = id
  · change Prog.rwp _ _ _ ((iroh.connect_outbox parse id doc endpoint_id did protocol).run >>= keep) w
    unfold iroh.connect_outbox
    rw [if_pos hlocal]
    intro w₁ _
    refine ⟨trivial, fun found w₂ hreply => ?_⟩
    obtain ⟨rfl, hfound⟩ := Replies.inbox_eq hreply
    cases found with
    | none => exact fun _ _ => trivial
    | some inbox =>
      intro w₃ hrely
      refine ⟨?_, fun _ _ _ _ _ => trivial⟩
      intro registered hwire
      cases hwire
      rw [hrely.inboxes trivial]
      exact hfound.symm
  · exact (connect_outbox_issues hlocal doc did protocol).rwp (fun c hfree w => hfree _ w) w

/-- The tasks keep to what they rely on of each other. -/
theorem guarded : (rules lib parse id).Guarded Relies Pre where
  refl tag w := (Frame.refl w).relies tag
  trans _ _ _ _ := Relies.trans
  starts hstart other := Starts.frame hstart |>.relies other
  replies hreply other := Replies.frame hreply |>.relies other
  during hduring other := During.frame hduring |>.relies other
  moves hmove _ hpermits := Moves.relies hmove hpermits
  release i w other := by
    have hframe : Frame w ((rules lib parse id).release i w) := ⟨.refl w.endpoint, rfl, rfl⟩
    exact hframe.relies other
  programs := by
    intro w tag w' _ i
    cases tag with
    | accept handler connection => exact accept_held lib parse id i handler connection w'
    | connect_outbox doc endpoint_id did protocol =>
      exact connect_outbox_held lib parse id i doc endpoint_id did protocol w'
    | send_broadcast_to clock target protocol message =>
      apply Prog.Issues.rwp (P := Free) fun c hfree w => hfree _ w
      apply (send_broadcast_to_issues clock target protocol message).bind
      exact fun _ => trivial

end

end Node

/-- An outbox with its transport boxed, given what a cached connection comes to. -/
def Opened.outbox (lib : Lib) (cached : Connection → OutboxWire IrohEndpoint) (self : Opened) :
    Outbox IrohEndpoint :=
  match self.wire with
  | .LoopbackWire inbox =>
    Outbox.from_transport (LoopbackWire lib inbox) self.recipient_document true self.did self.protocol
  | .CachedChannel connection =>
    Outbox.from_transport (cached connection) self.recipient_document false self.did self.protocol

namespace Node

variable {parse : String → Except String String} {id : String} {w w' : Node}

/-! A call that runs alone does what the endpoint's own function does. -/

/-- A command that leaves the endpoint alone. -/
def Quiet (c : Command) : Prop := ∀ inbox now message, c ≠ .push inbox now message

theorem Quiet.of_dialling {cache_key : String × String} {c : Command} (hc : Dialling cache_key c) : Quiet c := by
  intro inbox now message hpush
  rw [hpush] at hc
  cases hc

theorem Replies.endpoint {i : Nat} {c : Command} {r : c.Reply} (hquiet : Quiet c) (hreply : Replies i w c r w') :
    w'.endpoint = w.endpoint := by
  cases hreply with
  | push inbox now message => exact absurd rfl (hquiet inbox now message)
  | evict_if_closed cache_key =>
    obtain ⟨connection_cache, hevict⟩ := w.evict_if_closed_eq cache_key
    rw [hevict]
  | relay_url | inbox | get | insert | remove | connect_lock | connect_unlock | close_reason | connected
  | connect_failed | opened | open_failed | accept_bi | spawn_outbound_accept_loop | write_all | hold => rfl

section
variable {i : Nat} {tag : Origin} {protocol : String}

theorem local_inbox_exec {result : ServiceResult Inbox}
    (hexec : (local_inbox protocol).run.Exec ((rules lib parse id).env Pre i tag) w result w') :
    w.endpoint.local_inbox protocol = result ∧ w' = w := by
  obtain ⟨found, w₁, hreply, hrest⟩ := hexec
  obtain ⟨rfl, hfound⟩ := Replies.inbox_eq hreply
  unfold IrohEndpoint.local_inbox
  rw [← hfound]
  cases found with
  | none => exact ⟨hrest.1.symm, hrest.2⟩
  | some inbox => exact ⟨hrest.1.symm, hrest.2⟩

/-- `connect_outbox` opens what the endpoint's `connect_outbox` does, -/
theorem connect_outbox_exec (lib : Lib) (cached : Connection → OutboxWire IrohEndpoint) {doc : Document}
    {endpoint_id did : String} {result : ServiceResult Opened}
    (hexec : (iroh.connect_outbox parse w.endpoint.id doc endpoint_id did protocol).run.Exec
      ((rules lib parse id).env Pre i tag) w result w') :
    ∃ connect, w.endpoint.connect_outbox lib doc endpoint_id did protocol connect =
      result.map (Opened.outbox lib cached) := by
  unfold iroh.connect_outbox at hexec
  unfold IrohEndpoint.connect_outbox
  by_cases hlocal : endpoint_id = w.endpoint.id
  · rw [if_pos hlocal] at hexec
    obtain ⟨found, w₁, hfound, hrest⟩ := Prog.exec_bind.mp hexec
    obtain ⟨hinbox, _⟩ := local_inbox_exec hfound
    refine ⟨.error .panic, ?_⟩
    rw [if_pos hlocal, hinbox]
    cases found with
    | error e =>
      obtain ⟨rfl, _⟩ := hrest
      rfl
    | ok inbox =>
      obtain ⟨rfl, _⟩ := hrest
      rfl
  · rw [if_neg hlocal] at hexec
    obtain ⟨addr, w₁, _, hrest⟩ := Prog.exec_bind.mp hexec
    simp only [if_neg hlocal]
    cases addr with
    | error e =>
      obtain ⟨rfl, _⟩ := hrest
      exact ⟨.error e, rfl⟩
    | ok addr =>
      obtain ⟨connection, w₂, _, hrest⟩ := Prog.exec_bind.mp hrest
      cases connection with
      | error e =>
        obtain ⟨rfl, _⟩ := hrest
        exact ⟨.error e, rfl⟩
      | ok connection =>
        obtain ⟨rfl, _⟩ := hrest
        exact ⟨.ok (cached connection), rfl⟩

/-- and `send_broadcast_to` leaves the endpoint and returns as its own does. -/
theorem send_broadcast_to_exec {lib : Lib} {clock : Clock} {target : String} {message : Message}
    {result : ServiceResult Unit}
    (hexec : (iroh.send_broadcast_to lib parse w.endpoint.id clock target protocol message).run.Exec
      ((rules lib parse id).env Pre i tag) w result w') :
    ∃ transmit, w.endpoint.send_broadcast_to lib clock target protocol message transmit = (result, w'.endpoint) := by
  unfold iroh.send_broadcast_to at hexec
  unfold IrohEndpoint.send_broadcast_to
  cases hcheck : IrohEndpoint.check_broadcast lib clock message with
  | error e =>
    rw [hcheck, Prog.lift_error_bind] at hexec
    obtain ⟨rfl, rfl⟩ := hexec
    exact ⟨fun _ => .error e, rfl⟩
  | ok _ =>
    rw [hcheck, Prog.lift_ok_bind] at hexec
    dsimp only
    by_cases hlocal : target = w.endpoint.id
    · rw [if_pos hlocal] at hexec
      simp only [if_pos hlocal]
      refine ⟨fun _ => .ok (), ?_⟩
      obtain ⟨found, w₁, hfound, hrest⟩ := Prog.exec_bind.mp hexec
      obtain ⟨hinbox, rfl⟩ := local_inbox_exec hfound
      rw [hinbox]
      cases found with
      | error e =>
        obtain ⟨rfl, rfl⟩ := hrest
        rfl
      | ok inbox =>
        dsimp only [ExceptT.bindCont] at hrest
        cases hnow : now_secs (ε := Error) clock with
        | error e =>
          rw [hnow, Prog.lift_error_bind] at hrest
          obtain ⟨rfl, rfl⟩ := hrest
          rfl
        | ok now =>
          rw [hnow, Prog.lift_ok_bind] at hrest
          obtain ⟨_, w₂, hreply, rfl, rfl⟩ := hrest
          cases hreply with
          | push => rfl
    · rw [if_neg hlocal] at hexec
      simp only [if_neg hlocal]
      cases hencode : validated message.encode with
      | error e =>
        rw [hencode, Prog.lift_error_bind] at hexec
        obtain ⟨rfl, rfl⟩ := hexec
        exact ⟨fun _ => .error e, rfl⟩
      | ok cbor =>
        rw [hencode, Prog.lift_ok_bind] at hexec
        have hwrite (channel : Channel) : Quiet (.write_all channel.connection cbor) := by
          intro inbox now message hpush
          cases hpush
        have hquiet : (resolve_addr parse target >>= fun addr => open_addr_cached target addr protocol >>=
            fun channel => transport_err "channel write failed: "
              (Prog.issue (Command.write_all channel.connection cbor))).run.Issues Quiet := by
          apply Prog.Issues.bind_ok (resolve_addr_issues (fun _ _ _ h => by cases h) target)
          intro addr
          apply Prog.Issues.bind_ok ((open_addr_cached_issues addr).mono fun c => Quiet.of_dialling)
          intro channel
          exact transport_err_issues ⟨hwrite channel, fun _ => trivial⟩
        have hendpoint := hquiet.exec (I := fun v => v.endpoint = w.endpoint)
          (fun hc hreply hv => (Replies.endpoint hc hreply).trans hv) hexec rfl
        exact ⟨fun _ => result, Prod.ext rfl hendpoint.symm⟩

end

end Node

end ma_core.iroh
