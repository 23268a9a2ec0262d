import MaCore.Base.Transition
import MaCore.Msg.Envelope

open rust
open ma_core.error ma_core.did ma_core.key ma_core.doc ma_core.msg ma_core.service

namespace ma_core.iroh

/-- `DidDocumentResolver::resolve`, as it answers during one call. -/
abbrev Resolver := String → ServiceResult Document

structure InboundSecurity where
  recipient_key : EncryptionKey
  replay_guard : ReplayGuard

def skip_resolver_verification (protocol message_type : String) : Bool :=
  protocol == IPFS_PROTOCOL_ID && message_type == MESSAGE_TYPE_IDENTITY_PUBLISH_REQUEST

def same_base_did (lib : Lib) (left right : String) : MaResult Bool := do
  let (left_base, _) ← Did.parse lib left
  let (right_base, _) ← Did.parse lib right
  return left_base == right_base

namespace InboundSecurity

def new (recipient_key : EncryptionKey) : InboundSecurity where
  recipient_key
  replay_guard := ReplayGuard.default

section
variable (lib : Lib) (clock : Clock) (resolver : Resolver)

/-- The message of a payload in either wire format, and whether it was encrypted. -/
def unwrap (recipient_key : EncryptionKey) (payload : Bytes) : ServiceResult (Message × Bool) :=
  match Envelope.decode lib payload with
  | .ok envelope => do
    let message ← validated (envelope.decrypt lib clock recipient_key)
    return (message, true)
  | Err _ => do
    let message ← validated (Message.decode lib payload)
    return (message, false)
  | Panic => Panic

/-- The sender's signature, except on what verifies itself later: an identity
    publication carries the document it is to be verified against. -/
def verify_sender (protocol : String) (message : Message) : ServiceResult Unit :=
  if skip_resolver_verification protocol message.message_type then .ok ()
  else do
    let sender_document ← resolver message.from
    validated (message.verify_with_document lib clock sender_document)

/-- The checks between decoding a payload and asking the guard. -/
def check (recipient_key : EncryptionKey) (protocol : String) (message : Message)
    (encrypted : Bool) : ServiceResult Unit := do
  reject_if (encrypted && message.message_type == MESSAGE_TYPE_BROADCAST)
    (.Validation .BroadcastMustNotBeEncrypted)
  reject_if (!encrypted && message.message_type != MESSAGE_TYPE_BROADCAST)
    (.Validation .EncryptionRequired)
  if encrypted then
    let same ← validated (same_base_did lib message.to recipient_key.did.id)
    reject_if (!same) (.Validation .InvalidRecipient)
  verify_sender lib clock resolver protocol message

/-- What `decode` does before it takes the guard's lock. -/
def authenticate (recipient_key : EncryptionKey) (payload : Bytes) (protocol : String) :
    ServiceResult Message := do
  let (message, encrypted) ← unwrap lib clock recipient_key payload
  check lib clock resolver recipient_key protocol message encrypted
  return message

/-- `InboundSecurity::decode`: its result and the state it leaves. -/
def decode (self : InboundSecurity) (payload : Bytes) (protocol : String) :
    ServiceResult Message × InboundSecurity :=
  match authenticate lib clock resolver self.recipient_key payload protocol with
  | .error e => (.error e, self)
  | .ok message =>
    let (admitted, replay_guard) := self.replay_guard.accept lib clock message
    (validated admitted, { self with replay_guard })

end

section
variable {lib : Lib} {clock : Clock} {resolver : Resolver} {recipient_key : EncryptionKey}
  {payload : Bytes} {protocol : String} {m : Message}

/-- The payload is in a wire format and carries this message for the key. -/
inductive Carries (lib : Lib) (clock : Clock) (recipient_key : EncryptionKey) (payload : Bytes) :
    Message → Bool → Prop
  | envelope {e : Envelope} {m : Message} (hdecode : Envelope.decode lib payload = .ok e)
    (hdecrypt : e.decrypt lib clock recipient_key = .ok m) : Carries lib clock recipient_key payload m true
  | raw {cause : MaError} {m : Message} (hother : Envelope.decode lib payload = Err cause)
    (hdecode : Message.decode lib payload = .ok m) : Carries lib clock recipient_key payload m false

theorem unwrap_eq_ok_iff {encrypted : Bool} :
    unwrap lib clock recipient_key payload = .ok (m, encrypted) ↔
      Carries lib clock recipient_key payload m encrypted := by
  unfold unwrap
  constructor
  · intro hunwrap
    cases hdecode : Envelope.decode lib payload with
    | ok e =>
      simp only [hdecode, bind_eq_ok_iff, validated_eq_ok_iff] at hunwrap
      obtain ⟨_, hdecrypt, hm⟩ := hunwrap
      cases hm
      exact .envelope hdecode hdecrypt
    | error failure =>
      cases failure with
      | panic =>
        rw [hdecode] at hunwrap
        cases hunwrap
      | err cause =>
        simp only [hdecode, bind_eq_ok_iff, validated_eq_ok_iff] at hunwrap
        obtain ⟨_, hraw, hm⟩ := hunwrap
        cases hm
        exact .raw hdecode hraw
  · intro hcarries
    cases hcarries with
    | envelope hdecode hdecrypt =>
      simp only [hdecode, hdecrypt]
      rfl
    | raw hother hdecode =>
      simp only [hother, hdecode]
      rfl

theorem Carries.unique {m' : Message} {encrypted encrypted' : Bool}
    (hcarries : Carries lib clock recipient_key payload m encrypted)
    (hcarries' : Carries lib clock recipient_key payload m' encrypted') :
    m' = m ∧ encrypted' = encrypted := by
  rw [← unwrap_eq_ok_iff] at hcarries hcarries'
  rw [hcarries] at hcarries'
  cases hcarries'
  exact ⟨rfl, rfl⟩

theorem same_base_did_eq_ok_iff {left right : String} {same : Bool} :
    same_base_did lib left right = .ok same ↔
      ∃ left_parts right_parts, Did.parse lib left = .ok left_parts ∧
        Did.parse lib right = .ok right_parts ∧ same = (left_parts.1 == right_parts.1) := by
  unfold same_base_did
  simp only [bind_eq_ok_iff]
  constructor
  · rintro ⟨left_parts, hleft, right_parts, hright, hsame⟩
    cases hsame
    exact ⟨left_parts, right_parts, hleft, hright, rfl⟩
  · rintro ⟨left_parts, right_parts, hleft, hright, rfl⟩
    exact ⟨left_parts, hleft, right_parts, hright, rfl⟩

/-- Two DIDs or DID URLs with one base DID. -/
def SameBase (lib : Lib) (left right : String) : Prop :=
  ∃ ipns left_fragment right_fragment,
    Did.parse lib left = .ok (ipns, left_fragment) ∧ Did.parse lib right = .ok (ipns, right_fragment)

theorem same_base_did_eq_true_iff {left right : String} :
    same_base_did lib left right = .ok true ↔ SameBase lib left right := by
  rw [same_base_did_eq_ok_iff]
  constructor
  · rintro ⟨⟨ipns, left_fragment⟩, ⟨_, right_fragment⟩, hleft, hright, hsame⟩
    cases eq_of_beq hsame.symm
    exact ⟨ipns, left_fragment, right_fragment, hleft, hright⟩
  · rintro ⟨ipns, left_fragment, right_fragment, hleft, hright⟩
    exact ⟨_, _, hleft, hright, (beq_self_eq_true ipns).symm⟩

/-- The sender is the one the message names: a document was resolved for it
    under which the message verifies. -/
def Verified (lib : Lib) (clock : Clock) (resolver : Resolver) (m : Message) : Prop :=
  ∃ sender_document, resolver m.from = .ok sender_document ∧
    m.verify_with_document lib clock sender_document = .ok ()

/-- The sender is verified, or the message is an identity-publish request on
    the IPFS protocol, which verifies itself later. -/
def VerifiedOrExempt (lib : Lib) (clock : Clock) (resolver : Resolver) (protocol : String)
    (m : Message) : Prop :=
  skip_resolver_verification protocol m.message_type = true ∨ Verified lib clock resolver m

theorem verify_sender_eq_ok_iff :
    verify_sender lib clock resolver protocol m = .ok () ↔
      VerifiedOrExempt lib clock resolver protocol m := by
  unfold verify_sender VerifiedOrExempt Verified
  cases skip_resolver_verification protocol m.message_type with
  | true => simp
  | false => simp [bind_eq_ok_iff]

/-- A message passes the checks when the wire format is the one its type asks
    for, an encrypted one is addressed to the key, and the sender is verified. -/
theorem check_eq_ok_iff {encrypted : Bool} :
    check lib clock resolver recipient_key protocol m encrypted = .ok () ↔
      (encrypted = false ↔ m.message_type = MESSAGE_TYPE_BROADCAST) ∧
      (encrypted = true → SameBase lib m.to recipient_key.did.id) ∧
      VerifiedOrExempt lib clock resolver protocol m := by
  unfold check
  cases encrypted with
  | true =>
    simp only [if_true, Bool.true_and, Bool.not_true, Bool.false_and, Bool.true_eq_false, false_iff,
      true_implies, bind_eq_ok_iff, exists_unit, reject_if_eq_ok_iff, beq_eq_false_iff_ne,
      validated_eq_ok_iff, Bool.not_eq_false', verify_sender_eq_ok_iff, true_and]
    constructor
    · rintro ⟨htype, _, hsame, rfl, hsender⟩
      exact ⟨htype, same_base_did_eq_true_iff.mp hsame, hsender⟩
    · rintro ⟨htype, hsame, hsender⟩
      exact ⟨htype, true, same_base_did_eq_true_iff.mpr hsame, rfl, hsender⟩
  | false =>
    simp only [Bool.false_and, Bool.not_false, Bool.true_and, bind_eq_ok_iff, exists_unit,
      reject_if_eq_ok_iff, bne_eq_false_iff_eq, verify_sender_eq_ok_iff, true_iff, true_and,
      Bool.false_eq_true, if_false, false_implies]

theorem authenticate_eq_ok_iff :
    authenticate lib clock resolver recipient_key payload protocol = .ok m ↔
      ∃ encrypted, Carries lib clock recipient_key payload m encrypted ∧
        check lib clock resolver recipient_key protocol m encrypted = .ok () := by
  unfold authenticate
  simp only [bind_eq_ok_iff, exists_unit, Prod.exists, unwrap_eq_ok_iff]
  constructor
  · rintro ⟨_, encrypted, hcarries, hcheck, hm⟩
    cases hm
    exact ⟨encrypted, hcarries, hcheck⟩
  · rintro ⟨encrypted, hcarries, hcheck⟩
    exact ⟨m, encrypted, hcarries, hcheck, rfl⟩

/-- `decode` returns what it authenticates and the guard admits. -/
theorem decode_ok_iff {self : InboundSecurity} :
    (self.decode lib clock resolver payload protocol).1 = .ok m ↔
      authenticate lib clock resolver self.recipient_key payload protocol = .ok m ∧
        (self.replay_guard.check_and_insert lib clock (m.headers lib)).1 = .ok () := by
  unfold decode
  cases hauth : authenticate lib clock resolver self.recipient_key payload protocol with
  | error e => simp
  | ok message => simp [ReplayGuard.accept_ok_iff]

theorem new_not_holds (key : EncryptionKey) (now : UInt64) (id : String) :
    ¬ (InboundSecurity.new key).replay_guard.Holds now id := by
  rintro ⟨_, hget, _⟩
  cases hget

/-- After it returned a message, the guard is the one its check left. -/
theorem decode_replay_guard {self : InboundSecurity}
    (hdecode : (self.decode lib clock resolver payload protocol).1 = .ok m) :
    (self.decode lib clock resolver payload protocol).2.replay_guard =
      (self.replay_guard.check_and_insert lib clock (m.headers lib)).2 := by
  obtain ⟨hauth, _⟩ := decode_ok_iff.mp hdecode
  simp only [decode, hauth, ReplayGuard.accept]

/-- An authenticated message has valid headers. -/
theorem valid_of_authenticate
    (hauth : authenticate lib clock resolver recipient_key payload protocol = .ok m) :
    (m.headers lib).Valid lib clock := by
  obtain ⟨encrypted, hcarries, hcheck⟩ := authenticate_eq_ok_iff.mp hauth
  obtain ⟨hformat, _, hsender⟩ := check_eq_ok_iff.mp hcheck
  cases hcarries with
  | envelope _ hdecrypt => exact (Envelope.decrypt_eq_ok_iff.mp hdecrypt).2
  | raw _ _ =>
    -- A raw message is a broadcast, and those are never exempt from verification.
    have hbroadcast := hformat.mp rfl
    rcases hsender with hexempt | ⟨document, _, hverify⟩
    · simp only [skip_resolver_verification, Bool.and_eq_true, beq_iff_eq] at hexempt
      rw [hexempt.2] at hbroadcast
      exact absurd hbroadcast (by decide)
    · exact (Message.verify_with_document_eq_ok_iff.mp hverify).2.1

/-- Comparing two DIDs never ends in a replay error. -/
theorem same_base_did_not_replay {left right : String} :
    validated (same_base_did lib left right) ≠ Err (.Validation .ReplayDetected) := by
  intro herr
  rw [validated_eq_err_iff, same_base_did] at herr
  simp only [bind_eq_err_iff] at herr
  rcases herr with hleft | ⟨_, _, hright | ⟨_, _, hok⟩⟩
  · have := Did.parse_err hleft
    simp [IsDidError] at this
  · have := Did.parse_err hright
    simp [IsDidError] at this
  · cases hok

/-- A verified message is turned away for a replay by the guard alone. -/
theorem authenticate_not_replay {encrypted : Bool}
    (hcarries : Carries lib clock recipient_key payload m encrypted)
    (hverified : Verified lib clock resolver m) :
    authenticate lib clock resolver recipient_key payload protocol ≠
      Err (.Validation .ReplayDetected) := by
  have hunwrap := unwrap_eq_ok_iff.mpr hcarries
  have hsender : verify_sender lib clock resolver protocol m = .ok () :=
    verify_sender_eq_ok_iff.mpr (.inr hverified)
  intro herr
  cases encrypted with
  | true =>
    simp only [authenticate, hunwrap, ok_bind, check, hsender, bind_eq_err_iff, reject_if_eq_err_iff,
      if_true, Error.Validation.injEq, reduceCtorEq, and_false, false_or] at herr
    rcases herr with ⟨_, _, _, _, hsame | ⟨_, _, _, hfalse⟩⟩ | ⟨_, _, hok⟩
    · exact same_base_did_not_replay hsame
    · exact hfalse
    · cases hok
  | false =>
    simp only [authenticate, hunwrap, ok_bind, check, hsender, bind_eq_err_iff, reject_if_eq_err_iff,
      Bool.false_eq_true, if_false, Error.Validation.injEq, reduceCtorEq, and_false, false_or] at herr
    rcases herr with ⟨_, _, _, hfalse⟩ | ⟨_, _, hok⟩
    · exact hfalse
    · cases hok

/-- An authenticated message that the guard holds is refused as a replay. -/
theorem decode_held {self : InboundSecurity} {now : UInt64}
    (hauth : authenticate lib clock resolver self.recipient_key payload protocol = .ok m)
    (hclock : clock = some now) (hheld : self.replay_guard.Holds now m.id) :
    (self.decode lib clock resolver payload protocol).1 = Err (.Validation .ReplayDetected) := by
  have hvalid := valid_of_authenticate hauth
  subst hclock
  rcases ReplayGuard.check_and_insert_cases lib (some now) self.replay_guard (m.headers lib) with
    ⟨_, hinvalid, _⟩ | ⟨_, ⟨⟩, _, ⟨_, hcall⟩ | ⟨hfree, _⟩⟩
  · rw [Headers.validate_eq_ok_iff.mpr hvalid] at hinvalid
    cases hinvalid
  · simp only [decode, hauth, ReplayGuard.accept, hcall]
    rfl
  · exact absurd hheld hfree

/-- A raw broadcast is accepted by any receiver that can verify its sender and
    has not seen it. -/
theorem decode_raw {self : InboundSecurity} (hcbor : lib.CborRoundTrips)
    (hpayload : m.encode = .ok payload) (hbroadcast : m.message_type = MESSAGE_TYPE_BROADCAST)
    (hsender : VerifiedOrExempt lib clock resolver protocol m)
    (hvalid : (m.headers lib).Valid lib clock)
    (hunseen : ∀ now, clock = some now → ¬ self.replay_guard.Holds now m.id) :
    (self.decode lib clock resolver payload protocol).1 = .ok m := by
  obtain ⟨cause, hother⟩ := Envelope.decode_message hcbor hpayload
  have hcheck : check lib clock resolver self.recipient_key protocol m false = .ok () :=
    check_eq_ok_iff.mpr ⟨by simp [hbroadcast], by simp, hsender⟩
  rw [decode_ok_iff, authenticate_eq_ok_iff, ReplayGuard.check_and_insert_ok_iff]
  exact ⟨⟨false, .raw hother (Message.decode_encode hcbor hpayload), hcheck⟩, hvalid, hunseen⟩

/-- An envelope is accepted when what it holds for the key is addressed to it. -/
theorem decode_envelope {self : InboundSecurity} {e : Envelope} (hcbor : lib.CborRoundTrips)
    (hpayload : e.encode = .ok payload) (hdecrypt : e.decrypt lib clock self.recipient_key = .ok m)
    (hother : m.message_type ≠ MESSAGE_TYPE_BROADCAST)
    (hrecipient : SameBase lib m.to self.recipient_key.did.id)
    (hsender : VerifiedOrExempt lib clock resolver protocol m)
    (hunseen : ∀ now, clock = some now → ¬ self.replay_guard.Holds now m.id) :
    (self.decode lib clock resolver payload protocol).1 = .ok m := by
  have hcheck : check lib clock resolver self.recipient_key protocol m true = .ok () :=
    check_eq_ok_iff.mpr ⟨by simp [hother], fun _ => hrecipient, hsender⟩
  rw [decode_ok_iff, authenticate_eq_ok_iff, ReplayGuard.check_and_insert_ok_iff]
  exact ⟨⟨true, .envelope (Envelope.decode_encode hcbor hpayload) hdecrypt, hcheck⟩,
    (Envelope.decrypt_eq_ok_iff.mp hdecrypt).2, hunseen⟩

end

end InboundSecurity

end ma_core.iroh
