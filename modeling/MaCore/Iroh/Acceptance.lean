import MaCore.Iroh.InboundSecurity

open rust
open ma_core.error ma_core.did ma_core.doc ma_core.msg ma_core.service

namespace ma_core.iroh.InboundSecurity

/-- What a message must be for its payload to be accepted: the whole of the
    checks of both wire formats, of the headers, the guard and the sender. -/
structure Acceptable (lib : Lib) (clock : Clock) (resolver : Resolver) (self : InboundSecurity)
    (payload : Bytes) (protocol : String) (m : Message) : Prop where
  encrypted : m.message_type ≠ MESSAGE_TYPE_BROADCAST →
    ∃ envelope, Envelope.decode lib payload = .ok envelope ∧
      envelope.decrypt lib clock self.recipient_key = .ok m ∧
      SameBase lib m.to self.recipient_key.did.id
  broadcast : m.message_type = MESSAGE_TYPE_BROADCAST →
    (∃ cause, Envelope.decode lib payload = Err cause) ∧ Message.decode lib payload = .ok m ∧
      (trim m.to).isEmpty = true
  headers : (m.headers lib).validate lib clock = .ok ()
  unseen : ∀ now, clock = some now → ¬ self.replay_guard.Holds now m.id
  sender : ¬ (protocol = IPFS_PROTOCOL_ID ∧ m.message_type = MESSAGE_TYPE_IDENTITY_PUBLISH_REQUEST) →
    ∃ sender_document did, resolver m.from = .ok sender_document ∧
      Did.try_from lib m.from = .ok did ∧ sender_document.id = did.base_id ∧
      m.SignatureVerifies lib sender_document

variable {lib : Lib} {clock : Clock} {resolver : Resolver} {payload : Bytes} {protocol : String}
  {m : Message}

theorem not_exempt_iff :
    ¬ skip_resolver_verification protocol m.message_type = true ↔
      ¬ (protocol = IPFS_PROTOCOL_ID ∧ m.message_type = MESSAGE_TYPE_IDENTITY_PUBLISH_REQUEST) := by
  simp [skip_resolver_verification]

/-- With valid headers, verification comes down to the sender's document and signature. -/
theorem verified_iff (hvalid : (m.headers lib).Valid lib clock) :
    Verified lib clock resolver m ↔
      ∃ sender_document did, resolver m.from = .ok sender_document ∧
        Did.try_from lib m.from = .ok did ∧ sender_document.id = did.base_id ∧
        m.SignatureVerifies lib sender_document := by
  unfold Verified
  simp only [Message.verify_with_document_eq_ok_iff]
  constructor
  · rintro ⟨document, hresolve, ⟨did, hdid, hid⟩, _, hsignature⟩
    exact ⟨document, did, hresolve, hdid, hid, hsignature⟩
  · rintro ⟨document, did, hresolve, hdid, hid, hsignature⟩
    exact ⟨document, hresolve, ⟨did, hdid, hid⟩, hvalid, hsignature⟩

/-- The wire format decides which of the two formats' conditions apply. -/
theorem carried_iff {self : InboundSecurity} (hvalid : (m.headers lib).Valid lib clock) :
    (∃ encrypted, Carries lib clock self.recipient_key payload m encrypted ∧
      (encrypted = false ↔ m.message_type = MESSAGE_TYPE_BROADCAST) ∧
      (encrypted = true → SameBase lib m.to self.recipient_key.did.id)) ↔
    (m.message_type ≠ MESSAGE_TYPE_BROADCAST →
      ∃ envelope, Envelope.decode lib payload = .ok envelope ∧
        envelope.decrypt lib clock self.recipient_key = .ok m ∧
        SameBase lib m.to self.recipient_key.did.id) ∧
    (m.message_type = MESSAGE_TYPE_BROADCAST →
      (∃ cause, Envelope.decode lib payload = Err cause) ∧ Message.decode lib payload = .ok m ∧
        (trim m.to).isEmpty = true) := by
  constructor
  · rintro ⟨encrypted, hcarries, hformat, hrecipient⟩
    cases hcarries with
    | @envelope e _ hdecode hdecrypt =>
      have hother : m.message_type ≠ MESSAGE_TYPE_BROADCAST := by simpa using hformat
      exact ⟨fun _ => ⟨e, hdecode, hdecrypt, hrecipient rfl⟩, fun h => absurd h hother⟩
    | raw hother hdecode =>
      have hbroadcast := hformat.mp rfl
      exact ⟨fun h => absurd hbroadcast h,
        fun _ => ⟨⟨_, hother⟩, hdecode, hvalid.broadcast hbroadcast⟩⟩
  · rintro ⟨hencrypted, hbroadcast⟩
    by_cases htype : m.message_type = MESSAGE_TYPE_BROADCAST
    · obtain ⟨⟨cause, hother⟩, hdecode, _⟩ := hbroadcast htype
      exact ⟨false, .raw hother hdecode, by simp [htype], by simp⟩
    · obtain ⟨e, hdecode, hdecrypt, hrecipient⟩ := hencrypted htype
      exact ⟨true, .envelope hdecode hdecrypt, by simp [htype], fun _ => hrecipient⟩

/-- **Acceptance.** A payload is decoded to a message exactly when the message
    meets every check, in either wire format and from any state of the guard. -/
theorem decode_ok_iff_acceptable (lib : Lib) (clock : Clock) (resolver : Resolver)
    (self : InboundSecurity) (payload : Bytes) (protocol : String) (m : Message) :
    (self.decode lib clock resolver payload protocol).1 = .ok m ↔
      Acceptable lib clock resolver self payload protocol m := by
  constructor
  · intro hdecode
    obtain ⟨hauth, hguard⟩ := decode_ok_iff.mp hdecode
    have hvalid := valid_of_authenticate hauth
    obtain ⟨encrypted, hcarries, hcheck⟩ := authenticate_eq_ok_iff.mp hauth
    obtain ⟨hformat, hrecipient, hsender⟩ := check_eq_ok_iff.mp hcheck
    obtain ⟨hencrypted, hbroadcast⟩ :=
      (@carried_iff _ _ _ _ self hvalid).mp ⟨encrypted, hcarries, hformat, hrecipient⟩
    refine ⟨hencrypted, hbroadcast, Headers.validate_eq_ok_iff.mpr hvalid,
      (ReplayGuard.check_and_insert_ok_iff.mp hguard).2, ?_⟩
    intro hordinary
    have hverified := hsender.resolve_left (not_exempt_iff.mpr hordinary)
    exact (verified_iff hvalid).mp hverified
  · rintro ⟨hencrypted, hbroadcast, hheaders, hunseen, hsender⟩
    have hvalid := Headers.validate_eq_ok_iff.mp hheaders
    obtain ⟨encrypted, hcarries, hformat, hrecipient⟩ :=
      (carried_iff hvalid).mpr ⟨hencrypted, hbroadcast⟩
    have hverified : VerifiedOrExempt lib clock resolver protocol m := by
      by_cases hexempt : skip_resolver_verification protocol m.message_type = true
      · exact .inl hexempt
      · exact .inr ((verified_iff hvalid).mpr (hsender (not_exempt_iff.mp hexempt)))
    have hcheck := check_eq_ok_iff.mpr ⟨hformat, hrecipient, hverified⟩
    rw [decode_ok_iff]
    exact ⟨authenticate_eq_ok_iff.mpr ⟨encrypted, hcarries, hcheck⟩,
      ReplayGuard.check_and_insert_ok_iff.mpr ⟨hvalid, hunseen⟩⟩

end ma_core.iroh.InboundSecurity
