import MaCore.Iroh.Endpoint
import MaCore.Transport

open rust
open ma_core.doc

namespace ma_core.iroh

/-- The two copies of the function are one. -/
theorem normalize_protocol_eq_transport (input : String) :
    normalize_protocol input = transport.normalize_protocol input := rfl

namespace IrohEndpoint

variable (self : IrohEndpoint) (protocol : String)

/-- Starting and reloading touch the router alone. -/
theorem start_router_eq : ∃ router, self.start_router = { self with router } := by
  unfold start_router
  split
  · exact ⟨self.router, rfl⟩
  · exact ⟨_, rfl⟩

theorem reload_router_eq : ∃ router, self.reload_router_if_running = { self with router } := by
  unfold reload_router_if_running
  split
  · exact ⟨self.router, rfl⟩
  · exact start_router_eq { self with router := none }

/-- The protocols after one is registered. -/
def with_protocol (protocols : List String) (normalized : String) : List String :=
  if protocols.contains normalized then protocols else protocols ++ [normalized]

/-- Registering returns the inbox there is, or a new one. -/
theorem service_cases :
    (∃ inbox, self.inboxes.get (normalize_protocol protocol) = some inbox ∧
      self.service protocol =
        (inbox, { self with protocols := with_protocol self.protocols (normalize_protocol protocol) })) ∨
    self.inboxes.get (normalize_protocol protocol) = none ∧ ∃ router,
      self.service protocol = (self.queues.length, { self with
        protocols := with_protocol self.protocols (normalize_protocol protocol)
        queues := self.queues ++ [ttl_queue.TtlQueue.new DEFAULT_INBOX_CAPACITY inbox_capacity_pos]
        inboxes := self.inboxes.insert (normalize_protocol protocol) self.queues.length
        router }) := by
  have hprotocols :
      (if self.protocols.contains (normalize_protocol protocol) = true then self
        else { self with protocols := self.protocols ++ [normalize_protocol protocol] }) =
      { self with protocols := with_protocol self.protocols (normalize_protocol protocol) } := by
    unfold with_protocol
    split <;> rfl
  unfold service
  simp only [hprotocols]
  cases hinbox : self.inboxes.get (normalize_protocol protocol) with
  | some inbox => exact .inl ⟨inbox, rfl, rfl⟩
  | none =>
    refine .inr ⟨rfl, ?_⟩
    dsimp only
    split
    · obtain ⟨router, hrouter⟩ := reload_router_eq { self with
        protocols := with_protocol self.protocols (normalize_protocol protocol)
        queues := self.queues ++ [ttl_queue.TtlQueue.new DEFAULT_INBOX_CAPACITY inbox_capacity_pos]
        inboxes := self.inboxes.insert (normalize_protocol protocol) self.queues.length }
      exact ⟨router, by rw [hrouter]⟩
    · obtain ⟨router, hrouter⟩ := start_router_eq { self with
        protocols := with_protocol self.protocols (normalize_protocol protocol)
        queues := self.queues ++ [ttl_queue.TtlQueue.new DEFAULT_INBOX_CAPACITY inbox_capacity_pos]
        inboxes := self.inboxes.insert (normalize_protocol protocol) self.queues.length }
      exact ⟨router, by rw [hrouter]⟩

/-- Removing forgets the inbox of a protocol that has one. -/
theorem remove_service_cases :
    (self.inboxes.get (normalize_protocol protocol) = none ∧ self.remove_service protocol = (false, self)) ∨
    (∃ inbox, self.inboxes.get (normalize_protocol protocol) = some inbox) ∧ ∃ router,
      self.remove_service protocol = (true, { self with
        protocols := self.protocols.filter (· != normalize_protocol protocol)
        inboxes := self.inboxes.remove (normalize_protocol protocol)
        router }) := by
  unfold remove_service
  dsimp only
  by_cases hcontains : self.inboxes.contains_key (normalize_protocol protocol) = true
  · rw [if_pos hcontains]
    obtain ⟨router, hrouter⟩ := reload_router_eq { self with
      protocols := self.protocols.filter (· != normalize_protocol protocol)
      inboxes := self.inboxes.remove (normalize_protocol protocol) }
    exact .inr ⟨(Map.contains_key_iff _ _).mp hcontains, router, by rw [hrouter]⟩
  · rw [if_neg hcontains]
    exact .inl ⟨(Map.contains_key_eq_false_iff _ _).mp (Bool.eq_false_iff.mpr hcontains), rfl⟩

variable {self protocol} {name : String}

theorem service_id : (self.service protocol).2.id = self.id := by
  obtain ⟨_, _, hservice⟩ | ⟨_, _, hservice⟩ := self.service_cases protocol <;> rw [hservice]

theorem service_inboxes :
    (self.service protocol).2.inboxes.get name =
      if name = normalize_protocol protocol then some (self.service protocol).1 else self.inboxes.get name := by
  obtain ⟨inbox, hinbox, hservice⟩ | ⟨_, _, hservice⟩ := self.service_cases protocol
  · rw [hservice]
    by_cases hname : name = normalize_protocol protocol
    · rw [if_pos hname, hname]
      exact hinbox
    · rw [if_neg hname]
  · rw [hservice]
    dsimp only
    rw [Map.get_insert]

theorem mem_service_protocols :
    name ∈ (self.service protocol).2.protocols ↔ name = normalize_protocol protocol ∨ name ∈ self.protocols := by
  have hmem : name ∈ with_protocol self.protocols (normalize_protocol protocol) ↔
      name = normalize_protocol protocol ∨ name ∈ self.protocols := by
    unfold with_protocol
    by_cases hcontains : self.protocols.contains (normalize_protocol protocol) = true
    · rw [if_pos hcontains]
      constructor
      · exact .inr
      · rintro (rfl | hmem)
        · exact List.contains_iff_mem.mp hcontains
        · exact hmem
    · rw [if_neg hcontains, List.mem_append, List.mem_singleton]
      exact or_comm
  obtain ⟨_, _, hservice⟩ | ⟨_, _, hservice⟩ := self.service_cases protocol <;> rw [hservice] <;> exact hmem

theorem remove_service_id : (self.remove_service protocol).2.id = self.id := by
  obtain ⟨_, hremove⟩ | ⟨_, _, hremove⟩ := self.remove_service_cases protocol <;> rw [hremove]

theorem remove_service_inboxes :
    (self.remove_service protocol).2.inboxes.get name =
      if name = normalize_protocol protocol then none else self.inboxes.get name := by
  obtain ⟨hnone, hremove⟩ | ⟨_, _, hremove⟩ := self.remove_service_cases protocol
  · rw [hremove]
    by_cases hname : name = normalize_protocol protocol
    · rw [if_pos hname, hname]
      exact hnone
    · rw [if_neg hname]
  · rw [hremove]
    dsimp only
    rw [Map.get_remove]

theorem mem_remove_service_protocols
    (habsent : self.inboxes.get (normalize_protocol protocol) = none → normalize_protocol protocol ∉ self.protocols) :
    name ∈ (self.remove_service protocol).2.protocols ↔
      name ≠ normalize_protocol protocol ∧ name ∈ self.protocols := by
  obtain ⟨hnone, hremove⟩ | ⟨_, _, hremove⟩ := self.remove_service_cases protocol
  · rw [hremove]
    constructor
    · intro hmem
      refine ⟨?_, hmem⟩
      rintro rfl
      exact habsent hnone hmem
    · exact And.right
  · rw [hremove]
    simp [and_comm]

end IrohEndpoint

end ma_core.iroh
