import MaCore.Iroh.Discovery

open rust
open ma_core.key ma_core.transport

namespace ma_core.iroh

namespace IrohEndpoint

/-- `close`, which takes the router; the connections are not looked at here. -/
def close (self : IrohEndpoint) : IrohEndpoint := { self with router := none }

/-- The handlers of a router that is started now. -/
def handlers (self : IrohEndpoint) : List InboxProtocolHandler :=
  self.protocols.filterMap fun protocol => (self.inboxes.get protocol).map fun inbox => ⟨protocol, inbox⟩

/-- Protocols, inboxes and router agree, and no two protocols share an inbox. -/
structure Consistent (endpoint : IrohEndpoint) : Prop where
  nodup : endpoint.protocols.Nodup
  normalized : ∀ name ∈ endpoint.protocols, iroh.normalize_protocol name = name
  keys : ∀ name, name ∈ endpoint.protocols ↔ ∃ inbox, endpoint.inboxes.get name = some inbox
  routed : ∀ handlers, endpoint.router = some handlers → handlers = endpoint.handlers
  distinct : ∀ name other inbox,
    endpoint.inboxes.get name = some inbox → endpoint.inboxes.get other = some inbox →
    name = other
  allotted : ∀ name inbox, endpoint.inboxes.get name = some inbox → inbox < endpoint.queues.length

section
variable {self : IrohEndpoint} {protocol name : String} {inbox : Inbox}

theorem start_router_of_none (hrouter : self.router = none) :
    self.start_router = { self with router := some self.handlers } := by
  unfold start_router
  rw [hrouter]
  rfl

theorem reload_router (self : IrohEndpoint) :
    self.reload_router_if_running = { self with router := self.router.map fun _ => self.handlers } := by
  unfold reload_router_if_running
  split
  · rename_i hrouter
    rw [hrouter, Option.map_none, ← hrouter]
  · rename_i running hrouter
    rw [start_router_of_none rfl, hrouter]
    rfl

/-- After a registration there is a router for what is registered. -/
theorem start_or_reload (self : IrohEndpoint) :
    (if self.router.isSome = true then self.reload_router_if_running else self.start_router) =
      { self with router := some self.handlers } := by
  cases hrouter : self.router with
  | none =>
    rw [Option.isSome_none, if_neg Bool.false_ne_true]
    exact start_router_of_none hrouter
  | some running =>
    rw [Option.isSome_some, if_pos rfl, reload_router, hrouter]
    rfl

theorem Consistent.with_protocol_of_inbox (hself : self.Consistent) (hinbox : self.inboxes.get name = some inbox) :
    with_protocol self.protocols name = self.protocols := by
  have hmem : self.protocols.contains name = true :=
    List.contains_iff_mem.mpr ((hself.keys name).mpr ⟨inbox, hinbox⟩)
  rw [with_protocol, if_pos hmem]

theorem Consistent.absent_of_none (hself : self.Consistent) (hnone : self.inboxes.get name = none) :
    name ∉ self.protocols := by
  intro hmem
  obtain ⟨inbox, hinbox⟩ := (hself.keys name).mp hmem
  cases hnone.symm.trans hinbox

/-- A service that is registered is returned as it is, -/
theorem Consistent.service_of_inbox (hself : self.Consistent)
    (hinbox : self.inboxes.get (iroh.normalize_protocol protocol) = some inbox) :
    self.service protocol = (inbox, self) := by
  obtain ⟨found, hfound, hservice⟩ | ⟨hnone, _⟩ := self.service_cases protocol
  · cases hfound.symm.trans hinbox
    rw [hservice, hself.with_protocol_of_inbox hinbox]
  · cases hnone.symm.trans hinbox

/-- The endpoint with one more service. -/
def with_service (self : IrohEndpoint) (name : String) : IrohEndpoint :=
  { self with
    protocols := self.protocols ++ [name]
    queues := self.queues ++ [ttl_queue.TtlQueue.new DEFAULT_INBOX_CAPACITY inbox_capacity_pos]
    inboxes := self.inboxes.insert name self.queues.length }

/-- and any other is given a new inbox. -/
theorem Consistent.service_of_none (hself : self.Consistent)
    (hnone : self.inboxes.get (iroh.normalize_protocol protocol) = none) :
    self.service protocol = (self.queues.length, { self.with_service (iroh.normalize_protocol protocol) with
      router := some (self.with_service (iroh.normalize_protocol protocol)).handlers }) := by
  have habsent : ¬ self.protocols.contains (iroh.normalize_protocol protocol) = true :=
    fun hmem => hself.absent_of_none hnone (List.contains_iff_mem.mp hmem)
  unfold service
  simp only [if_neg habsent, hnone]
  exact congrArg (Prod.mk _) (start_or_reload (self.with_service (iroh.normalize_protocol protocol)))

theorem remove_service_of_none (hnone : self.inboxes.get (iroh.normalize_protocol protocol) = none) :
    self.remove_service protocol = (false, self) := by
  obtain ⟨_, hremove⟩ | ⟨⟨inbox, hinbox⟩, _⟩ := self.remove_service_cases protocol
  · exact hremove
  · cases hnone.symm.trans hinbox

/-- The endpoint with one service less. -/
def without_service (self : IrohEndpoint) (name : String) : IrohEndpoint :=
  { self with
    inboxes := self.inboxes.remove name
    protocols := self.protocols.filter (· != name) }

theorem remove_service_of_inbox (hinbox : self.inboxes.get (iroh.normalize_protocol protocol) = some inbox) :
    self.remove_service protocol = (true, { self.without_service (iroh.normalize_protocol protocol) with
      router := self.router.map fun _ => (self.without_service (iroh.normalize_protocol protocol)).handlers }) := by
  have hcontains : self.inboxes.contains_key (iroh.normalize_protocol protocol) = true :=
    (Map.contains_key_iff _ _).mpr ⟨inbox, hinbox⟩
  unfold remove_service
  dsimp only
  rw [if_pos hcontains]
  exact congrArg (Prod.mk _) (reload_router _)

/-! What keeps an endpoint consistent. -/

theorem new_consistent (id : String) (recipient_key : EncryptionKey) : (new id recipient_key).Consistent where
  nodup := List.nodup_nil
  normalized _ hmem := by cases hmem
  keys name := iff_of_false List.not_mem_nil fun ⟨_, hinbox⟩ => by cases hinbox
  routed _ hrouter := by cases hrouter
  distinct _ _ _ hinbox := by cases hinbox
  allotted _ _ hinbox := by cases hinbox

/-- A router may stop, or one be started for what is registered. -/
theorem Consistent.reroute (hself : self.Consistent) {router : Option (List InboxProtocolHandler)}
    (hrouter : ∀ handlers, router = some handlers → handlers = self.handlers) :
    ({ self with router } : IrohEndpoint).Consistent where
  nodup := hself.nodup
  normalized := hself.normalized
  keys := hself.keys
  routed := hrouter
  distinct := hself.distinct
  allotted := hself.allotted

theorem Consistent.with_service (hself : self.Consistent) (hname : iroh.normalize_protocol name = name)
    (hnone : self.inboxes.get name = none) {router : Option (List InboxProtocolHandler)}
    (hrouter : ∀ handlers, router = some handlers → handlers = (self.with_service name).handlers) :
    ({ self.with_service name with router } : IrohEndpoint).Consistent := by
  have hget (other : String) : (self.with_service name).inboxes.get other =
      if other = name then some self.queues.length else self.inboxes.get other := Map.get_insert _ _ _ _
  have hqueues : (self.with_service name).queues.length = self.queues.length + 1 := List.length_append
  have hnew {other : String} {inbox : Inbox} (hinbox : (self.with_service name).inboxes.get other = some inbox) :
      (other = name ∧ inbox = self.queues.length) ∨
        (other ≠ name ∧ self.inboxes.get other = some inbox ∧ inbox < self.queues.length) := by
    rw [hget] at hinbox
    split at hinbox
    · rename_i hother
      exact .inl ⟨hother, (Option.some.inj hinbox).symm⟩
    · rename_i hother
      exact .inr ⟨hother, hinbox, hself.allotted other inbox hinbox⟩
  refine ⟨?_, ?_, ?_, hrouter, ?_, ?_⟩
  · show (self.protocols ++ [name]).Nodup
    rw [List.nodup_append]
    refine ⟨hself.nodup, List.nodup_singleton name, ?_⟩
    intro kept hkept added hadded heq
    rw [heq, List.mem_singleton.mp hadded] at hkept
    exact hself.absent_of_none hnone hkept
  · intro other hmem
    obtain hkept | hadded := List.mem_append.mp hmem
    · exact hself.normalized other hkept
    · rw [List.mem_singleton.mp hadded]
      exact hname
  · intro other
    show other ∈ self.protocols ++ [name] ↔ ∃ inbox, (self.with_service name).inboxes.get other = some inbox
    rw [List.mem_append, List.mem_singleton, hget, hself.keys]
    by_cases hother : other = name
    · rw [if_pos hother]
      exact iff_of_true (.inr hother) ⟨_, rfl⟩
    · rw [if_neg hother]
      exact or_iff_left hother
  · intro first second inbox hfirst hsecond
    obtain ⟨hfirst_name, hfirst_new⟩ | ⟨_, hfirst_old, hfirst_lt⟩ := hnew hfirst
    · obtain ⟨hsecond_name, _⟩ | ⟨_, _, hsecond_lt⟩ := hnew hsecond
      · rw [hfirst_name, hsecond_name]
      · exact absurd hfirst_new (Nat.ne_of_lt hsecond_lt)
    · obtain ⟨_, hsecond_new⟩ | ⟨_, hsecond_old, _⟩ := hnew hsecond
      · exact absurd hsecond_new (Nat.ne_of_lt hfirst_lt)
      · exact hself.distinct first second inbox hfirst_old hsecond_old
  · intro other inbox hinbox
    show inbox < (self.with_service name).queues.length
    rw [hqueues]
    obtain ⟨_, hinbox_new⟩ | ⟨_, _, hlt⟩ := hnew hinbox
    · exact hinbox_new ▸ Nat.lt_succ_self _
    · exact Nat.lt_succ_of_lt hlt

theorem Consistent.without_service (hself : self.Consistent) (name : String)
    {router : Option (List InboxProtocolHandler)}
    (hrouter : ∀ handlers, router = some handlers → handlers = (self.without_service name).handlers) :
    ({ self.without_service name with router } : IrohEndpoint).Consistent := by
  have hget (other : String) : (self.without_service name).inboxes.get other =
      if other = name then none else self.inboxes.get other := Map.get_remove _ _ _
  have hkept {other : String} {inbox : Inbox} (hinbox : (self.without_service name).inboxes.get other = some inbox) :
      self.inboxes.get other = some inbox := by
    rw [hget] at hinbox
    split at hinbox
    · cases hinbox
    · exact hinbox
  refine ⟨hself.nodup.filter _, ?_, ?_, hrouter, ?_, ?_⟩
  · intro other hmem
    exact hself.normalized other (List.mem_filter.mp hmem).1
  · intro other
    show other ∈ self.protocols.filter (· != name) ↔
      ∃ inbox, (self.without_service name).inboxes.get other = some inbox
    rw [List.mem_filter, hget, hself.keys, bne_iff_ne]
    by_cases hother : other = name
    · rw [if_pos hother]
      exact iff_of_false (fun hboth => hboth.2 hother) fun ⟨_, hinbox⟩ => by cases hinbox
    · rw [if_neg hother]
      exact and_iff_left hother
  · intro first second inbox hfirst hsecond
    exact hself.distinct first second inbox (hkept hfirst) (hkept hsecond)
  · intro other inbox hinbox
    exact hself.allotted other inbox (hkept hinbox)

theorem handlers_protocols (hself : self.Consistent) :
    self.handlers.map InboxProtocolHandler.protocol = self.protocols := by
  have hkeys : ∀ name ∈ self.protocols, ∃ inbox, self.inboxes.get name = some inbox :=
    fun name hname => (hself.keys name).mp hname
  unfold handlers
  generalize self.protocols = protocols at hkeys
  induction protocols with
  | nil => rfl
  | cons first rest ih =>
    obtain ⟨inbox, hinbox⟩ := hkeys first List.mem_cons_self
    rw [List.filterMap_cons, hinbox, Option.map_some, List.map_cons,
      ih fun name hname => hkeys name (List.mem_cons_of_mem first hname)]

theorem handlers_inbox {handler : InboxProtocolHandler} (hhandler : handler ∈ self.handlers) :
    self.inboxes.get handler.protocol = some handler.inbox := by
  obtain ⟨name, _, hname⟩ := List.mem_filterMap.mp hhandler
  obtain ⟨inbox, hinbox, rfl⟩ := Option.map_eq_some_iff.mp hname
  exact hinbox

/-- Normalized protocols are told apart in the services. -/
theorem Consistent.services_nodup (hself : self.Consistent) : self.services.Nodup := by
  refine hself.nodup.map_on ?_
  intro first hfirst second hsecond hsame
  have htails := (String.append_right_inj _).mp hsame
  rwa [← normalize_protocol_eq_transport, ← normalize_protocol_eq_transport, hself.normalized first hfirst,
    hself.normalized second hsecond] at htails

/-- An inbox is what the protocol had, or a new one. -/
theorem service_inbox (self : IrohEndpoint) (protocol : String) :
    self.inboxes.get (iroh.normalize_protocol protocol) = some (self.service protocol).1 ∨
      (self.service protocol).1 = self.queues.length := by
  obtain ⟨inbox, hinbox, hservice⟩ | ⟨_, router, hservice⟩ := self.service_cases protocol
  · rw [hservice]
    exact .inl hinbox
  · rw [hservice]
    exact .inr rfl

end

end IrohEndpoint

/-! Runs of calls. -/

namespace Registry

/-- A call that changes what is registered, or starts or stops the router. -/
inductive Call where
  | service (protocol : String)
  | remove_service (protocol : String)
  | start_router
  | close

def Call.apply (endpoint : IrohEndpoint) : Call → IrohEndpoint
  | service protocol => (endpoint.service protocol).2
  | remove_service protocol => (endpoint.remove_service protocol).2
  | start_router => endpoint.start_router
  | close => endpoint.close

/-- The endpoint after these calls. -/
def run (id : String) (recipient_key : EncryptionKey) (calls : List Call) : IrohEndpoint :=
  calls.foldl Call.apply (IrohEndpoint.new id recipient_key)

/-- Whether one of these calls removes a protocol that is registered then. -/
def Removed (endpoint : IrohEndpoint) (name : String) (calls : List Call) : Prop :=
  ∃ front protocol back, calls = front ++ .remove_service protocol :: back ∧
    iroh.normalize_protocol protocol = name ∧ ((front.foldl Call.apply endpoint).remove_service protocol).1 = true

/-- An inbox that no protocol has any more, nor will have. -/
structure Retired (endpoint : IrohEndpoint) (inbox : Inbox) : Prop where
  allotted : inbox < endpoint.queues.length
  unused : ∀ name, endpoint.inboxes.get name ≠ some inbox

section
variable {endpoint : IrohEndpoint} {inbox : Inbox} {name : String} {calls : List Call}

theorem apply_consistent (hendpoint : endpoint.Consistent) (call : Call) : (call.apply endpoint).Consistent := by
  cases call with
  | service protocol =>
    show (endpoint.service protocol).2.Consistent
    cases hinbox : endpoint.inboxes.get (iroh.normalize_protocol protocol) with
    | some inbox =>
      rw [hendpoint.service_of_inbox hinbox]
      exact hendpoint
    | none =>
      rw [hendpoint.service_of_none hinbox]
      refine hendpoint.with_service ?_ hinbox fun handlers hrouter => (Option.some.inj hrouter).symm
      simp only [normalize_protocol_eq_transport, normalize_protocol_normalize]
  | remove_service protocol =>
    show (endpoint.remove_service protocol).2.Consistent
    cases hinbox : endpoint.inboxes.get (iroh.normalize_protocol protocol) with
    | none =>
      rw [IrohEndpoint.remove_service_of_none hinbox]
      exact hendpoint
    | some inbox =>
      rw [IrohEndpoint.remove_service_of_inbox hinbox]
      refine hendpoint.without_service _ ?_
      intro handlers hrouter
      obtain ⟨_, _, hhandlers⟩ := Option.map_eq_some_iff.mp hrouter
      exact hhandlers.symm
  | start_router =>
    show endpoint.start_router.Consistent
    cases hrouter : endpoint.router with
    | none =>
      rw [IrohEndpoint.start_router_of_none hrouter]
      exact hendpoint.reroute fun handlers hstarted => (Option.some.inj hstarted).symm
    | some handlers =>
      rw [IrohEndpoint.start_router, hrouter]
      exact hendpoint
  | close =>
    show endpoint.close.Consistent
    refine hendpoint.reroute ?_
    intro handlers hstopped
    cases hstopped

theorem foldl_consistent (hendpoint : endpoint.Consistent) (calls : List Call) :
    (calls.foldl Call.apply endpoint).Consistent := by
  induction calls generalizing endpoint with
  | nil => exact hendpoint
  | cons call calls ih => exact ih (apply_consistent hendpoint call)

theorem apply_id (call : Call) : (call.apply endpoint).id = endpoint.id := by
  cases call with
  | service protocol => exact IrohEndpoint.service_id
  | remove_service protocol => exact IrohEndpoint.remove_service_id
  | start_router =>
    obtain ⟨router, hrouter⟩ := endpoint.start_router_eq
    show endpoint.start_router.id = endpoint.id
    rw [hrouter]
  | close => rfl

theorem run_id (id : String) (recipient_key : EncryptionKey) (calls : List Call) :
    (run id recipient_key calls).id = id := by
  induction calls using List.reverseRecOn with
  | nil => rfl
  | append_singleton calls call ih =>
    rw [run, List.foldl_append]
    exact (apply_id call).trans ih

theorem apply_queues (endpoint : IrohEndpoint) (call : Call) :
    endpoint.queues.length ≤ (call.apply endpoint).queues.length := by
  cases call with
  | service protocol =>
    show endpoint.queues.length ≤ (endpoint.service protocol).2.queues.length
    obtain ⟨_, _, hservice⟩ | ⟨_, _, hservice⟩ := endpoint.service_cases protocol
    · rw [hservice]
    · rw [hservice, List.length_append]
      exact Nat.le_add_right _ _
  | remove_service protocol =>
    show endpoint.queues.length ≤ (endpoint.remove_service protocol).2.queues.length
    obtain ⟨_, hremove⟩ | ⟨_, _, hremove⟩ := endpoint.remove_service_cases protocol <;> rw [hremove]
  | start_router =>
    obtain ⟨router, hrouter⟩ := endpoint.start_router_eq
    show endpoint.queues.length ≤ endpoint.start_router.queues.length
    rw [hrouter]
  | close => exact Nat.le_refl _

theorem retired_apply (hretired : Retired endpoint inbox) (call : Call) : Retired (call.apply endpoint) inbox := by
  refine ⟨Nat.lt_of_lt_of_le hretired.allotted (apply_queues endpoint call), ?_⟩
  intro name hname
  cases call with
  | service protocol =>
    have hget : (endpoint.service protocol).2.inboxes.get name = some inbox := hname
    rw [IrohEndpoint.service_inboxes] at hget
    split at hget
    · obtain hfound | hnew := endpoint.service_inbox protocol
      · rw [hget] at hfound
        exact hretired.unused _ hfound
      · rw [Option.some.inj hget] at hnew
        exact absurd hnew (Nat.ne_of_lt hretired.allotted)
    · exact hretired.unused name hget
  | remove_service protocol =>
    have hget : (endpoint.remove_service protocol).2.inboxes.get name = some inbox := hname
    rw [IrohEndpoint.remove_service_inboxes] at hget
    split at hget
    · cases hget
    · exact hretired.unused name hget
  | start_router =>
    obtain ⟨router, hrouter⟩ := endpoint.start_router_eq
    have hget : endpoint.start_router.inboxes.get name = some inbox := hname
    rw [hrouter] at hget
    exact hretired.unused name hget
  | close => exact hretired.unused name hname

/-- A protocol keeps its inbox until it is removed, -/
theorem apply_inbox (hinbox : endpoint.inboxes.get name = some inbox) {call : Call}
    (hkept : ∀ protocol, call = .remove_service protocol → iroh.normalize_protocol protocol ≠ name) :
    (call.apply endpoint).inboxes.get name = some inbox := by
  cases call with
  | service protocol =>
    show (endpoint.service protocol).2.inboxes.get name = some inbox
    rw [IrohEndpoint.service_inboxes]
    split
    · rename_i hname
      obtain ⟨found, hfound, hservice⟩ | ⟨hnone, _⟩ := endpoint.service_cases protocol
      · rw [hservice, ← hfound, ← hname, hinbox]
      · rw [← hname, hinbox] at hnone
        cases hnone
    · exact hinbox
  | remove_service protocol =>
    show (endpoint.remove_service protocol).2.inboxes.get name = some inbox
    rw [IrohEndpoint.remove_service_inboxes, if_neg (hkept protocol rfl).symm]
    exact hinbox
  | start_router =>
    obtain ⟨router, hrouter⟩ := endpoint.start_router_eq
    show endpoint.start_router.inboxes.get name = some inbox
    rw [hrouter]
    exact hinbox
  | close => exact hinbox

/-- and then leaves it for good. -/
theorem remove_service_retires (hendpoint : endpoint.Consistent) {protocol : String}
    (hinbox : endpoint.inboxes.get (iroh.normalize_protocol protocol) = some inbox) :
    (endpoint.remove_service protocol).1 = true ∧ Retired (endpoint.remove_service protocol).2 inbox := by
  constructor
  · rw [IrohEndpoint.remove_service_of_inbox hinbox]
  · have hlt := hendpoint.allotted _ inbox hinbox
    refine ⟨Nat.lt_of_lt_of_le hlt (apply_queues endpoint (.remove_service protocol)), ?_⟩
    intro other hother
    rw [IrohEndpoint.remove_service_inboxes] at hother
    split at hother
    · cases hother
    · rename_i hne
      exact hne (hendpoint.distinct other _ inbox hother hinbox)

theorem removed_snoc (call : Call) : Removed endpoint name (calls ++ [call]) ↔ Removed endpoint name calls ∨
    ∃ protocol, call = .remove_service protocol ∧ iroh.normalize_protocol protocol = name ∧
      ((calls.foldl Call.apply endpoint).remove_service protocol).1 = true := by
  constructor
  · rintro ⟨front, protocol, back, hcalls, hname, hremoved⟩
    obtain rfl | ⟨rest, last, rfl⟩ := List.eq_nil_or_concat back
    · obtain ⟨rfl, hcall⟩ := List.append_inj' hcalls rfl
      exact .inr ⟨protocol, List.singleton_inj.mp hcall, hname, hremoved⟩
    · rw [List.concat_eq_append, ← List.cons_append, ← List.append_assoc] at hcalls
      exact .inl ⟨front, protocol, rest, (List.append_inj' hcalls rfl).1, hname, hremoved⟩
  · rintro (⟨front, protocol, back, rfl, hname, hremoved⟩ | ⟨protocol, rfl, hname, hremoved⟩)
    · exact ⟨front, protocol, back ++ [call], by rw [List.append_assoc, List.cons_append], hname, hremoved⟩
    · exact ⟨calls, protocol, [], rfl, hname, hremoved⟩

/-- Since a protocol was registered, it has kept its inbox, or it was removed and the inbox is retired. -/
theorem since_registered (hendpoint : endpoint.Consistent) (hinbox : endpoint.inboxes.get name = some inbox)
    (calls : List Call) :
    ((calls.foldl Call.apply endpoint).inboxes.get name = some inbox ∧ ¬ Removed endpoint name calls) ∨
      (Retired (calls.foldl Call.apply endpoint) inbox ∧ Removed endpoint name calls) := by
  induction calls using List.reverseRecOn with
  | nil =>
    refine .inl ⟨hinbox, ?_⟩
    rintro ⟨front, protocol, back, hcalls, _⟩
    exact List.append_ne_nil_of_right_ne_nil front (List.cons_ne_nil _ _) hcalls.symm
  | append_singleton calls call ih =>
    rw [List.foldl_append, removed_snoc]
    obtain ⟨hkept, hnot⟩ | ⟨hretired, hremoved⟩ := ih
    · by_cases hremoves : ∃ protocol, call = .remove_service protocol ∧ iroh.normalize_protocol protocol = name
      · obtain ⟨protocol, rfl, rfl⟩ := hremoves
        obtain ⟨heffective, hretired⟩ := remove_service_retires (foldl_consistent hendpoint calls) hkept
        exact .inr ⟨hretired, .inr ⟨protocol, rfl, rfl, heffective⟩⟩
      · refine .inl ⟨apply_inbox hkept ?_, ?_⟩
        · intro protocol hcall hname
          exact hremoves ⟨protocol, hcall, hname⟩
        · rintro (hremoved | ⟨protocol, hcall, hname, _⟩)
          · exact hnot hremoved
          · exact hremoves ⟨protocol, hcall, hname⟩
    · exact .inr ⟨retired_apply hretired call, .inl hremoved⟩

/-- Whatever is called, protocols, inboxes and router agree, and a protocol has one inbox from its registration to
    its removal. -/
theorem registry_invariant (id : String) (recipient_key : EncryptionKey) :
    (∀ calls, (run id recipient_key calls).protocols.Nodup ∧
      (∀ name, name ∈ (run id recipient_key calls).protocols ↔
        (run id recipient_key calls).inboxes.contains_key name = true) ∧
      (∀ handlers, (run id recipient_key calls).router = some handlers →
        handlers.map InboxProtocolHandler.protocol = (run id recipient_key calls).protocols ∧
        ∀ handler ∈ handlers, (run id recipient_key calls).inboxes.get handler.protocol = some handler.inbox) ∧
      (run id recipient_key calls).services.Nodup ∧
      ∀ service, service ∈ (run id recipient_key calls).services ↔
        ∃ name, (run id recipient_key calls).inboxes.contains_key name = true ∧
          service = transport_string id name) ∧
    ∀ before protocol between other,
      let registered := (run id recipient_key before).service protocol
      let later := between.foldl Call.apply registered.2
      (later.service other).1 = registered.1 ↔
        iroh.normalize_protocol other = iroh.normalize_protocol protocol ∧
          ¬ Removed registered.2 (iroh.normalize_protocol protocol) between := by
  constructor
  · intro calls
    have hrun : (run id recipient_key calls).Consistent :=
      foldl_consistent (IrohEndpoint.new_consistent id recipient_key) calls
    have hkeys (name : String) : name ∈ (run id recipient_key calls).protocols ↔
        (run id recipient_key calls).inboxes.contains_key name = true :=
      (hrun.keys name).trans (Map.contains_key_iff _ _).symm
    refine ⟨hrun.nodup, hkeys, ?_, hrun.services_nodup, ?_⟩
    · intro handlers hrouter
      rw [hrun.routed handlers hrouter]
      exact ⟨IrohEndpoint.handlers_protocols hrun, fun handler => IrohEndpoint.handlers_inbox⟩
    · intro service
      simp only [IrohEndpoint.services, List.mem_map, run_id, hkeys, eq_comm]
  · intro before protocol between other registered later
    have hregistered : registered.2.Consistent :=
      apply_consistent (foldl_consistent (IrohEndpoint.new_consistent id recipient_key) before) (.service protocol)
    have hinbox : registered.2.inboxes.get (iroh.normalize_protocol protocol) = some registered.1 := by
      rw [IrohEndpoint.service_inboxes, if_pos rfl]
    have hlater : later.Consistent := foldl_consistent hregistered between
    obtain ⟨hkept, hnot⟩ | ⟨hretired, hremoved⟩ := since_registered hregistered hinbox between
    · constructor
      · intro hsame
        obtain hfound | hnew := later.service_inbox other
        · rw [hsame] at hfound
          exact ⟨hlater.distinct _ _ _ hfound hkept, hnot⟩
        · rw [hsame] at hnew
          exact absurd hnew (Nat.ne_of_lt (hlater.allotted _ _ hkept))
      · rintro ⟨hname, _⟩
        have hother : later.inboxes.get (iroh.normalize_protocol other) = some registered.1 := by
          rw [hname]
          exact hkept
        rw [hlater.service_of_inbox hother]
    · refine iff_of_false ?_ fun hboth => hboth.2 hremoved
      intro hsame
      obtain hfound | hnew := later.service_inbox other
      · rw [hsame] at hfound
        exact hretired.unused _ hfound
      · rw [hsame] at hnew
        exact absurd hnew (Nat.ne_of_lt hretired.allotted)

end

end Registry

end ma_core.iroh
