import MaCore.Iroh.Endpoint
import MaCore.Reference

open rust
open ma_core.error ma_core.did ma_core.key ma_core.doc ma_core.msg ma_core.service
open ma_core.ttl_queue ma_core.reference

namespace ma_core.iroh

/-- An ingress path accepts the message at this time. -/
inductive Accepts (lib : Lib) (now : UInt64) (m : Message) : Prop
  | decode (security : InboundSecurity) (resolver : Resolver) (payload : Bytes) (protocol : String)
    (hdecode : (security.decode lib (some now) resolver payload protocol).1 = .ok m)
  | loopback (inbox : Inbox) (payload : Bytes) (endpoint : IrohEndpoint)
    (hmessage : Message.decode lib payload = .ok m)
    (hsend : (LoopbackWire.send_payload lib inbox (some now) payload endpoint).1 = .ok ())
  | local_broadcast (endpoint : IrohEndpoint) (protocol : String)
    (transmit : Bytes → ServiceResult Unit)
    (hsend : (endpoint.send_broadcast_to lib (some now) endpoint.id protocol m transmit).1 = .ok ())

section
variable {lib : Lib} {now : UInt64} {m : Message}

/-- Every path checks the headers. -/
theorem Accepts.valid (haccepts : Accepts lib now m) : (m.headers lib).Valid lib (some now) := by
  cases haccepts with
  | decode security resolver payload protocol hdecode =>
    exact InboundSecurity.valid_of_authenticate (InboundSecurity.decode_ok_iff.mp hdecode).1
  | loopback inbox payload endpoint hmessage hsend =>
    rcases LoopbackWire.send_payload_cases lib inbox (some now) payload endpoint with
      ⟨m', _, _, hreceive, _⟩ | ⟨e, hrefused⟩
    · obtain ⟨hdecode, hvalid⟩ := LoopbackWire.receive_eq_ok_iff.mp hreceive
      rw [hmessage] at hdecode
      cases hdecode
      exact hvalid
    · rw [hrefused] at hsend
      cases hsend
  | local_broadcast endpoint protocol transmit hsend =>
    rcases IrohEndpoint.send_broadcast_to_cases lib (some now) endpoint protocol m transmit with
      ⟨_, _, _, _, hvalid, _⟩ | ⟨e, hrefused⟩
    · exact hvalid
    · rw [hrefused] at hsend
      cases hsend

/-- An accepted message is popped at once unless it is in the skew allowed
    after its expiry, in which it is evicted. -/
theorem accepted_popped_iff (haccepts : Accepts lib now m) {queue : TtlQueue Message}
    (hempty : queue.buf = []) :
    (((queue.push now m.exp m).pop now).1 = some m ↔ m.exp = 0 ∨ now < m.exp) ∧
    (((queue.push now m.exp m).pop now).1 ≠ some m →
      ((queue.push now m.exp m).pop now).1 = none ∧ now.toNat ≤ m.exp.toNat + 30) := by
  obtain ⟨_, ⟨⟩, hfresh⟩ := haccepts.valid.fresh
  rw [TtlQueue.pop_push hempty]
  cases hexpired : TtlQueue.expired now (m.exp, m) with
  | false =>
    simpa using TtlQueue.expired_eq_false_iff.mp hexpired
  | true =>
    have hlate : ¬ (m.exp = 0 ∨ now < m.exp) := by
      intro hlive
      rw [TtlQueue.expired_eq_false_iff.mpr hlive] at hexpired
      cases hexpired
    refine ⟨by simpa using hlate, fun _ => ⟨rfl, ?_⟩⟩
    exact hfresh.le_exp.resolve_left fun hnever => hlate (.inl hnever)

end

/-! A broadcast that reaches the reference library's receiver as it expires. -/

theorem fresh_at_expiry : Fresh library 1000 0 1000 :=
  ⟨⟨1030, rfl, by decide⟩, .inr ⟨1030, rfl, by decide⟩⟩

theorem expiring_broadcast_accepted : Accepts library 1000 (broadcast 1 "m" 1000) := by
  obtain ⟨_, _, hauth⟩ := broadcast_authentic (show validate_message_id "m" = .ok () by decide)
    (show 1 ≤ 1024 by decide) fresh_at_expiry resolve_1 (encryptionKey 2)
  refine .decode (InboundSecurity.new (encryptionKey 2)) (resolve [1, 2])
    (wire (broadcast 1 "m" 1000)) INBOX_PROTOCOL_ID ?_
  rw [InboundSecurity.decode_ok_iff, ReplayGuard.check_and_insert_ok_iff]
  exact ⟨hauth, InboundSecurity.valid_of_authenticate hauth,
    fun _ _ => InboundSecurity.new_not_holds _ _ _⟩

/-- The queue of a new inbox. -/
def inbox_queue : TtlQueue Message := TtlQueue.new DEFAULT_INBOX_CAPACITY inbox_capacity_pos

theorem accepted_popped_iff_expiring_broadcast :
    (((inbox_queue.push 1000 (broadcast 1 "m" 1000).exp (broadcast 1 "m" 1000)).pop 1000).1 =
        some (broadcast 1 "m" 1000) ↔
      (broadcast 1 "m" 1000).exp = 0 ∨ 1000 < (broadcast 1 "m" 1000).exp) ∧
    (((inbox_queue.push 1000 (broadcast 1 "m" 1000).exp (broadcast 1 "m" 1000)).pop 1000).1 ≠
        some (broadcast 1 "m" 1000) →
      ((inbox_queue.push 1000 (broadcast 1 "m" 1000).exp (broadcast 1 "m" 1000)).pop 1000).1 = none ∧
        (1000 : UInt64).toNat ≤ (broadcast 1 "m" 1000).exp.toNat + 30) :=
  accepted_popped_iff expiring_broadcast_accepted rfl

/-- An accepted message can be expired for the queue. -/
theorem accepted_evicted :
    ¬ ∀ (now : UInt64) (m : Message) (queue : TtlQueue Message), Accepts library now m →
      queue.buf = [] → ((queue.push now m.exp m).pop now).1 = some m := by
  intro hclaim
  have hpopped := hclaim 1000 (broadcast 1 "m" 1000) inbox_queue expiring_broadcast_accepted rfl
  rw [TtlQueue.pop_push rfl] at hpopped
  have hexpired : TtlQueue.expired 1000 ((broadcast 1 "m" 1000).exp, broadcast 1 "m" 1000) = true :=
    rfl
  rw [hexpired] at hpopped
  cases hpopped

end ma_core.iroh
