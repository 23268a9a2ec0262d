import MaCore.Iroh.InboundSecurity
import MaCore.Reference

open rust
open ma_core.error ma_core.did ma_core.key ma_core.doc ma_core.msg ma_core.service
open ma_core.reference

namespace ma_core.iroh.InboundSecurity

section
variable {lib : Lib} {clock : Clock} {resolver : Resolver} {self : InboundSecurity} {e : Envelope}
  {payload : Bytes} {protocol : String} {sender_document : Document} {m : Message}

/-- What `open_with_replay_guard` asks of the message an envelope holds. -/
structure Openable (lib : Lib) (clock : Clock) (self : InboundSecurity) (e : Envelope)
    (sender_document : Document) (m : Message) : Prop where
  held : e.Holds lib self.recipient_key m
  valid : (m.headers lib).Valid lib clock
  sent : m.SentBy lib sender_document
  signature : m.SignatureVerifies lib sender_document
  unseen : ∀ now, clock = some now → ¬ self.replay_guard.Holds now m.id

theorem open_with_replay_guard_ok_iff_openable :
    (e.open_with_replay_guard lib clock self.recipient_key sender_document self.replay_guard).1 =
      .ok m ↔ Openable lib clock self e sender_document m := by
  rw [Envelope.open_with_replay_guard_ok_iff, Envelope.decrypt_eq_ok_iff,
    Message.verify_with_document_eq_ok_iff, ReplayGuard.check_and_insert_ok_iff]
  constructor
  · rintro ⟨⟨hheld, hvalid⟩, ⟨hsent, _, hsignature⟩, _, hunseen⟩
    exact ⟨hheld, hvalid, hsent, hsignature, hunseen⟩
  · rintro ⟨hheld, hvalid, hsent, hsignature, hunseen⟩
    exact ⟨⟨hheld, hvalid⟩, ⟨hsent, hvalid, hsignature⟩, hvalid, hunseen⟩

/-- On the wire form of an envelope `decode` asks the same of the message it
    holds, and besides that it is a point-to-point message to the key's DID. -/
theorem decode_wire_ok_iff (hcbor : lib.CborRoundTrips) (hpayload : e.encode = .ok payload)
    (hresolver : ∀ m, e.Holds lib self.recipient_key m → resolver m.from = .ok sender_document)
    (hordinary : skip_resolver_verification protocol m.message_type = false) :
    (self.decode lib clock resolver payload protocol).1 = .ok m ↔
      Openable lib clock self e sender_document m ∧ m.message_type ≠ MESSAGE_TYPE_BROADCAST ∧
        SameBase lib m.to self.recipient_key.did.id := by
  have hdecode := Envelope.decode_encode hcbor hpayload
  constructor
  · intro haccept
    obtain ⟨hauth, hguard⟩ := decode_ok_iff.mp haccept
    obtain ⟨encrypted, hcarries, hcheck⟩ := authenticate_eq_ok_iff.mp hauth
    obtain ⟨hformat, hrecipient, hsender⟩ := check_eq_ok_iff.mp hcheck
    obtain ⟨hvalid, hunseen⟩ := ReplayGuard.check_and_insert_ok_iff.mp hguard
    cases hcarries with
    | envelope hdecode' hdecrypt =>
      rw [hdecode] at hdecode'
      cases hdecode'
      have hheld := (Envelope.decrypt_eq_ok_iff.mp hdecrypt).1
      rw [VerifiedOrExempt, hordinary] at hsender
      obtain ⟨document, hresolve, hverify⟩ := hsender.resolve_left Bool.false_ne_true
      rw [hresolver m hheld] at hresolve
      cases hresolve
      obtain ⟨hsent, _, hsignature⟩ := Message.verify_with_document_eq_ok_iff.mp hverify
      exact ⟨⟨hheld, hvalid, hsent, hsignature, hunseen⟩, by simpa using hformat, hrecipient rfl⟩
    | raw hother _ =>
      rw [hdecode] at hother
      cases hother
  · rintro ⟨⟨hheld, hvalid, hsent, hsignature, hunseen⟩, hother, hrecipient⟩
    have hverify := Message.verify_with_document_eq_ok_iff.mpr ⟨hsent, hvalid, hsignature⟩
    exact decode_envelope hcbor hpayload (Envelope.decrypt_eq_ok_iff.mpr ⟨hheld, hvalid⟩) hother
      hrecipient (.inr ⟨sender_document, hresolver m hheld, hverify⟩) hunseen

/-- The two ways of opening an envelope agree exactly when nothing it opens to
    is a broadcast or addressed to another DID than the key's. -/
theorem openings_agree_iff (hcbor : lib.CborRoundTrips) (hpayload : e.encode = .ok payload)
    (hresolver : ∀ m, e.Holds lib self.recipient_key m → resolver m.from = .ok sender_document) :
    (∀ m, skip_resolver_verification protocol m.message_type = false →
      ((e.open_with_replay_guard lib clock self.recipient_key sender_document
          self.replay_guard).1 = .ok m ↔
        (self.decode lib clock resolver payload protocol).1 = .ok m)) ↔
    ∀ m, skip_resolver_verification protocol m.message_type = false →
      Openable lib clock self e sender_document m →
        m.message_type ≠ MESSAGE_TYPE_BROADCAST ∧ SameBase lib m.to self.recipient_key.did.id := by
  constructor
  · intro hagree m hordinary hopenable
    have hopen := open_with_replay_guard_ok_iff_openable.mpr hopenable
    have haccept := (hagree m hordinary).mp hopen
    exact ((decode_wire_ok_iff hcbor hpayload hresolver hordinary).mp haccept).2
  · intro haddressed m hordinary
    rw [open_with_replay_guard_ok_iff_openable,
      decode_wire_ok_iff hcbor hpayload hresolver hordinary]
    constructor
    · intro hopenable
      exact ⟨hopenable, haddressed m hordinary hopenable⟩
    · exact fun h => h.1

end

/-! An encrypted broadcast on the reference library. -/

theorem broadcast_1_valid :
    ((broadcast 1 "m" 0).headers library).Valid library (some 1000) :=
  broadcast_valid (by decide) (fresh_never (by decide))

theorem broadcast_1_length :
    (wire (broadcast 1 "m" 0)).length ≤ 4096 ∧
      (cbor.encode ((broadcast 1 "m" 0).headers library).serialize).length ≤ 4096 ∧
      (cbor.encode ((broadcast 1 "m" 0).unsigned_headers library).serialize).length ≤ 4096 :=
  broadcast_length_le (show 1 ≤ 1024 by decide)

theorem enclosed_broadcast_holds :
    (enclosed 2 (broadcast 1 "m" 0)).Holds library (encryptionKey 2) (broadcast 1 "m" 0) := by
  have henclose := @enclose_for_eq_enclosed _ 2 _ broadcast_1_valid broadcast_1_length.2.1
    (show 3 ≤ 4096 by decide)
  exact Envelope.holds_enclose_for cborRoundTrips diffieHellmanAgrees aeadOpens
    (document_key_agreement 2) henclose

theorem enclosed_broadcast_openable :
    Openable library (some 1000) (InboundSecurity.new (encryptionKey 2))
      (enclosed 2 (broadcast 1 "m" 0)) (document 1) (broadcast 1 "m" 0) where
  held := enclosed_broadcast_holds
  valid := broadcast_1_valid
  sent := ⟨did 1, did_try_from 1, rfl⟩
  signature :=
    signed_signatureVerifies (document_key 1) (Nat.le_trans broadcast_1_length.2.2 (by decide))
  unseen now _ := new_not_holds _ now _

theorem enclosed_broadcast_encode :
    (enclosed 2 (broadcast 1 "m" 0)).encode = .ok (wireEnvelope (enclosed 2 (broadcast 1 "m" 0))) :=
  encode_enclosed broadcast_1_length.2.1 (show 3 ≤ 4096 by decide)

theorem openings_agree_iff_enclosed_broadcast :
    (∀ m, skip_resolver_verification INBOX_PROTOCOL_ID m.message_type = false →
      (((enclosed 2 (broadcast 1 "m" 0)).open_with_replay_guard library (some 1000)
          (encryptionKey 2) (document 1) ReplayGuard.default).1 = .ok m ↔
        ((InboundSecurity.new (encryptionKey 2)).decode library (some 1000)
          (fun _ => .ok (document 1)) (wireEnvelope (enclosed 2 (broadcast 1 "m" 0)))
          INBOX_PROTOCOL_ID).1 = .ok m)) ↔
    ∀ m, skip_resolver_verification INBOX_PROTOCOL_ID m.message_type = false →
      Openable library (some 1000) (InboundSecurity.new (encryptionKey 2))
        (enclosed 2 (broadcast 1 "m" 0)) (document 1) m →
        m.message_type ≠ MESSAGE_TYPE_BROADCAST ∧
          SameBase library m.to (encryptionKey 2).did.id :=
  @openings_agree_iff _ _ _ (InboundSecurity.new (encryptionKey 2)) _ _ _ _ cborRoundTrips
    enclosed_broadcast_encode fun _ _ => rfl

/-- An encrypted broadcast opens one way and not the other. -/
theorem openings_disagree :
    ¬ ∀ (clock : Clock) (resolver : Resolver) (self : InboundSecurity) (e : Envelope)
      (payload : Bytes) (protocol : String) (sender_document : Document) (m : Message),
      e.encode = .ok payload →
      (∀ m, e.Holds library self.recipient_key m → resolver m.from = .ok sender_document) →
      skip_resolver_verification protocol m.message_type = false →
      ((e.open_with_replay_guard library clock self.recipient_key sender_document
          self.replay_guard).1 = .ok m ↔
        (self.decode library clock resolver payload protocol).1 = .ok m) := by
  intro hclaim
  have hresolver : ∀ m, (enclosed 2 (broadcast 1 "m" 0)).Holds library
      (InboundSecurity.new (encryptionKey 2)).recipient_key m →
      (fun _ => .ok (document 1) : Resolver) m.from = .ok (document 1) := fun _ _ => rfl
  have hordinary : skip_resolver_verification INBOX_PROTOCOL_ID
      (broadcast 1 "m" 0).message_type = false := rfl
  have hagree := hclaim (some 1000) (fun _ => .ok (document 1))
    (InboundSecurity.new (encryptionKey 2)) _ _ INBOX_PROTOCOL_ID (document 1) (broadcast 1 "m" 0)
    enclosed_broadcast_encode hresolver hordinary
  have haccept := hagree.mp
    (open_with_replay_guard_ok_iff_openable.mpr enclosed_broadcast_openable)
  have hother := ((decode_wire_ok_iff cborRoundTrips enclosed_broadcast_encode hresolver
    hordinary).mp haccept).2.1
  exact hother rfl

end ma_core.iroh.InboundSecurity
