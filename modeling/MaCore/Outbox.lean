import MaCore.Msg.Envelope

open rust
open ma_core.error ma_core.doc ma_core.msg ma_core.service

namespace ma_core.outbox

/-- An `OutboxWire` object: what sending a payload does to the world it sends
    into, at a time. -/
structure OutboxWire (S : Type) where
  send_payload : Clock → Bytes → S → ServiceResult Unit × S

/-- What `enclose_for` generates. -/
structure Entropy where
  ephemeral_secret : ByteArr 32
  headers_nonce : ByteArr 24
  content_nonce : ByteArr 24

structure Outbox (S : Type) where
  inner : Option (OutboxWire S)
  recipient_document : Document
  «local» : Bool
  did : String
  protocol : String

namespace Outbox

variable {S : Type} (lib : Lib) (clock : Clock) (entropy : Entropy)

/-- `Outbox::from_transport`. -/
def from_transport (transport : OutboxWire S) (recipient_document : Document) («local» : Bool)
    (did protocol : String) : Outbox S where
  inner := some transport
  recipient_document
  «local»
  did
  protocol

/-- The bytes `send` hands to the transport. -/
def payload (self : Outbox S) (message : Message) : MaResult Bytes := do
  (message.headers lib).validate lib clock
  let unencrypted := self.local || message.message_type == MESSAGE_TYPE_BROADCAST
  if unencrypted then message.encode
  else
    let envelope ← message.enclose_for lib clock entropy.ephemeral_secret entropy.headers_nonce
      entropy.content_nonce self.recipient_document
    envelope.encode

def send (self : Outbox S) (message : Message) (world : S) : ServiceResult Unit × S :=
  match validated (self.payload lib clock entropy message) with
  | .error e => (.error e, world)
  | .ok payload =>
    match self.inner with
    | some transport => transport.send_payload clock payload world
    | none => (Err (.ConnectionClosed "outbox is closed"), world)

/-- A send that gets as far as the transport hands it the payload. -/
theorem send_eq {self : Outbox S} {message : Message} {payload : Bytes} {transport : OutboxWire S}
    (hpayload : self.payload lib clock entropy message = .ok payload)
    (hinner : self.inner = some transport) (world : S) :
    self.send lib clock entropy message world = transport.send_payload clock payload world := by
  rw [send, hpayload, hinner]
  rfl

section
variable {lib clock entropy} {self : Outbox S} {m : Message}

/-- A message that is not encrypted is sent in its own wire format. -/
theorem payload_eq_encode (hvalid : (m.headers lib).Valid lib clock)
    (hunencrypted : self.local = true ∨ m.message_type = MESSAGE_TYPE_BROADCAST) :
    self.payload lib clock entropy m = m.encode := by
  have hcondition : (self.local || m.message_type == MESSAGE_TYPE_BROADCAST) = true := by
    simpa using hunencrypted
  simp only [payload, Headers.validate_eq_ok_iff.mpr hvalid, ok_bind, hcondition, if_true]

theorem payload_eq_enclose_for (hvalid : (m.headers lib).Valid lib clock)
    (hremote : self.local = false) (hother : m.message_type ≠ MESSAGE_TYPE_BROADCAST) :
    self.payload lib clock entropy m =
      (m.enclose_for lib clock entropy.ephemeral_secret entropy.headers_nonce entropy.content_nonce
        self.recipient_document >>= Envelope.encode) := by
  have hcondition : (self.local || m.message_type == MESSAGE_TYPE_BROADCAST) = false := by
    simp [hremote, hother]
  simp only [payload, Headers.validate_eq_ok_iff.mpr hvalid, ok_bind, hcondition,
    Bool.false_eq_true, if_false]

/-- A valid message gets a payload unless the encryption fails. -/
theorem payload_err {public_key : ByteArr 32} {e : MaError}
    (hvalid : (m.headers lib).Valid lib clock)
    (hkey : m.message_type ≠ MESSAGE_TYPE_BROADCAST →
      self.recipient_document.key_agreement_public_key_bytes lib = .ok public_key)
    (herr : self.payload lib clock entropy m = Err e) : e = .Crypto := by
  by_cases hunencrypted : self.local = true ∨ m.message_type = MESSAGE_TYPE_BROADCAST
  · rw [payload_eq_encode hvalid hunencrypted] at herr
    exact absurd herr to_vec_ne_err
  · obtain ⟨hremote, hother⟩ := not_or.mp hunencrypted
    rw [payload_eq_enclose_for hvalid (Bool.eq_false_iff.mpr hremote) hother,
      bind_eq_err_iff] at herr
    rcases herr with henclose | ⟨_, _, hencode⟩
    · exact Message.enclose_for_err hvalid (hkey hother) henclose
    · exact absurd hencode to_vec_ne_err

end

def close (self : Outbox S) : Outbox S := { self with inner := none }

end Outbox

end ma_core.outbox
