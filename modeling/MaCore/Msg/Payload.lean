import MaCore.Reference

open rust
open ma_core.error ma_core.key ma_core.multiformat

namespace ma_core.msg

/-- A codec takes at least a byte. -/
theorem encode_content_ne_nil (codec : UInt64) (payload : Bytes) : encode_content codec payload ≠ [] := by
  have hcodec : unsigned_varint.encode_u64 codec ≠ [] := by
    rw [unsigned_varint.encode_u64, unsigned_varint.encodeFrom]
    split
    · exact List.cons_ne_nil _ _
    · exact List.cons_ne_nil _ _
  exact List.append_ne_nil_of_left_ne_nil hcodec payload

theorem decode_content_encode_content (codec : UInt64) {payload : Bytes} (hpayload : payload ≠ []) :
    decode_content (encode_content codec payload) = .ok (codec, payload) :=
  multicodec_decode_encode codec hpayload

/-- The decoder takes a codec without a payload for an error. -/
theorem decode_content_encode_nil (codec : UInt64) :
    decode_content (encode_content codec []) = Err .InvalidPublicKeyMultibase := by
  have hcodec := unsigned_varint.decode_encode_u64 codec []
  simp only [decode_content, encode_content, multicodec_decode, multicodec_encode, hcodec, ok_or, ok_bind]
  rfl

namespace Message

variable {lib : Lib} {clock : Clock} {nanoid from_ to_ message_type content_type : String} {content : Bytes}
  {signing_key : SigningKey} {m : Message}

/-- The payload of encoded content is the content, unless that is empty: then it is the codec. -/
theorem payload_eq_iff {codec : UInt64} (hcontent : m.content = encode_content codec content) :
    m.payload = content ↔ content ≠ [] := by
  unfold payload
  rw [hcontent]
  constructor
  · rintro hpayload rfl
    rw [decode_content_encode_nil] at hpayload
    exact encode_content_ne_nil codec [] hpayload
  · intro hne
    rw [decode_content_encode_content codec hne]

/-- The message `new_with_options` makes, before it is signed. -/
def draft (now : UInt64) (nanoid «from» «to» message_type content_type : String) (content : Bytes) (exp : UInt64)
    (reply_to : Option String) : Message where
  id := nanoid
  protocol := default_protocol
  message_type
  «from»
  «to»
  created_at := now
  exp
  content_type
  reply_to
  content := encode_content (codec_for content_type) content
  signature := []

/-- A message is made at a time at which its headers are valid, and signed; that its content is not
    empty is no condition, as the codec is part of it. -/
theorem new_with_options_eq_ok_iff {exp : UInt64} {reply_to : Option String} :
    new_with_options lib clock nanoid from_ to_ message_type content_type content exp reply_to signing_key =
      .ok m ↔
      ∃ now bytes, clock = some now ∧
        ((draft now nanoid from_ to_ message_type content_type content exp reply_to).unsigned_headers lib).Valid lib
          clock ∧
        (draft now nanoid from_ to_ message_type content_type content exp reply_to).unsigned_headers_cbor lib =
          .ok bytes ∧
        m = { draft now nanoid from_ to_ message_type content_type content exp reply_to with
          signature := signing_key.sign lib bytes } := by
  have hsize (now : UInt64) :
      (draft now nanoid from_ to_ message_type content_type content exp reply_to).validate_content = .ok () := by
    rw [validate_content, reject_if_eq_ok_iff, List.isEmpty_eq_false_iff]
    exact encode_content_ne_nil _ _
  simp only [new_with_options, now_unix_secs, bind_eq_ok_iff, exists_unit, ok_or_eq_ok_iff,
    Headers.validate_eq_ok_iff]
  constructor
  · rintro ⟨now, hclock, hvalid, _, hsign⟩
    obtain ⟨bytes, hbytes, hm⟩ := bind_eq_ok_iff.mp hsign
    exact ⟨now, bytes, hclock, hvalid, hbytes, (Except.ok.inj hm).symm⟩
  · rintro ⟨now, bytes, hclock, hvalid, hbytes, rfl⟩
    exact ⟨now, hclock, hvalid, hsize now, bind_eq_ok_iff.mpr ⟨bytes, hbytes, rfl⟩⟩

/-- A message made by one of the constructors, from this content. -/
inductive Constructed (lib : Lib) (clock : Clock) (nanoid «from» «to» message_type content_type : String)
    (content : Bytes) (signing_key : SigningKey) (m : Message) : Prop
  | new (hnew : Message.new lib clock nanoid «from» «to» message_type content_type content signing_key = .ok m)
  | new_reply (reply_to : String)
    (hnew : Message.new_reply lib clock nanoid «from» «to» message_type content_type content reply_to signing_key =
      .ok m)
  | new_with_exp (exp : UInt64)
    (hnew : Message.new_with_exp lib clock nanoid «from» «to» message_type content_type content exp signing_key =
      .ok m)

/-- All three constructors come down to one. -/
theorem Constructed.new_with_options
    (hnew : Constructed lib clock nanoid from_ to_ message_type content_type content signing_key m) :
    ∃ exp reply_to, Message.new_with_options lib clock nanoid from_ to_ message_type content_type content exp reply_to
      signing_key = .ok m := by
  cases hnew with
  | new hnew =>
    obtain ⟨_, _, hnew⟩ := bind_eq_ok_iff.mp hnew
    obtain ⟨exp, _, hnew⟩ := bind_eq_ok_iff.mp hnew
    exact ⟨exp, none, hnew⟩
  | new_reply reply_to hnew =>
    obtain ⟨_, _, hnew⟩ := bind_eq_ok_iff.mp hnew
    obtain ⟨exp, _, hnew⟩ := bind_eq_ok_iff.mp hnew
    exact ⟨exp, some reply_to, hnew⟩
  | new_with_exp exp hnew => exact ⟨exp, none, hnew⟩

theorem Constructed.content_eq
    (hnew : Constructed lib clock nanoid from_ to_ message_type content_type content signing_key m) :
    m.content = encode_content (codec_for content_type) content := by
  obtain ⟨_, _, hnew⟩ := hnew.new_with_options
  obtain ⟨_, _, _, _, _, rfl⟩ := new_with_options_eq_ok_iff.mp hnew
  rfl

/-- The payload survives in memory and on the wire. -/
structure PayloadSurvives (lib : Lib) (content : Bytes) (m : Message) : Prop where
  payload : m.payload = content
  encodes : ∀ e, m.encode ≠ Err e
  decoded : ∀ bytes, m.encode = .ok bytes → ∃ received, Message.decode lib bytes = .ok received ∧
    received.payload = content

/-- A constructed message has the payload it was given, unless it was given none. -/
theorem payload_survives_iff (hcbor : lib.CborRoundTrips)
    (hnew : Constructed lib clock nanoid from_ to_ message_type content_type content signing_key m) :
    PayloadSurvives lib content m ↔ content ≠ [] := by
  have hpayload := payload_eq_iff hnew.content_eq
  constructor
  · exact fun hsurvives => hpayload.mp hsurvives.payload
  · intro hne
    have hsame := hpayload.mpr hne
    exact ⟨hsame, fun _ => to_vec_ne_err, fun bytes hbytes => ⟨m, decode_encode hcbor hbytes, hsame⟩⟩

/-- A broadcast of this content by the first identity of the reference library. -/
def broadcast_draft (content : Bytes) : Message :=
  draft 1000 "m" (reference.did 1).base_id "" service.MESSAGE_TYPE_BROADCAST "text/plain" content 0 none

theorem broadcast_draft_valid (content : Bytes) :
    ((broadcast_draft content).unsigned_headers reference.library).Valid reference.library (some 1000) where
  id := show validate_message_id "m" = .ok () by decide
  protocol := rfl
  reply_to _ hmem := by cases hmem
  content_type := show "text/plain".isEmpty = false by decide
  sender := ⟨_, reference.did_parse 1⟩
  broadcast _ := show (trim "").isEmpty = true by decide
  recipient hother := absurd rfl hother
  fresh := ⟨1000, rfl, ⟨1030, rfl, show (1000 : UInt64) ≤ 1030 by decide⟩, .inl rfl⟩

/-- Its headers are short, whatever the content, before and after they are signed. -/
theorem broadcast_draft_length (content : Bytes) {signature : Bytes} (hsignature : signature.length ≤ 64) :
    (cbor.encode (({ broadcast_draft content with signature } : Message).headers
      reference.library).serialize).length ≤ 2048 := by
  have hsize := (({ broadcast_draft content with signature } : Message).headers
    reference.library).serialize_length_le
  have hsender := reference.did_length 1
  have hfixed : (utf8 "m").length + (utf8 default_protocol).length +
      (utf8 service.MESSAGE_TYPE_BROADCAST).length + (utf8 "").length + (utf8 "text/plain").length ≤ 100 := by
    decide
  simp only [headers, unsigned_headers, broadcast_draft, draft, Option.elim_none] at hsize ⊢
  omega

/-- Any content can be sent as a broadcast. -/
theorem broadcast_constructed (content : Bytes) :
    ∃ m, Message.new_with_exp reference.library (some 1000) "m" (reference.did 1).base_id ""
        service.MESSAGE_TYPE_BROADCAST "text/plain" content 0 (reference.signingKey 1) = .ok m ∧
      m.message_type = service.MESSAGE_TYPE_BROADCAST ∧
      (m.headers reference.library).Valid reference.library (some 1000) ∧
      (cbor.encode (m.headers reference.library).serialize).length ≤ 2048 := by
  have hmax : 2048 ≤ MAX_ALLOCATION := by decide
  have hbytes : (broadcast_draft content).unsigned_headers_cbor reference.library = .ok _ :=
    to_vec_eq_ok_iff.mpr ⟨rfl, Nat.le_trans (broadcast_draft_length content (Nat.zero_le 64)) hmax⟩
  have hvalid := broadcast_draft_valid content
  exact ⟨_, new_with_options_eq_ok_iff.mpr ⟨1000, _, rfl, hvalid, hbytes, rfl⟩, rfl, hvalid.resign _ _,
    broadcast_draft_length content (Nat.le_of_eq (ByteArr.length_val _))⟩

theorem payload_survives_iff_hi :
    ∃ m, Constructed reference.library (some 1000) "m" (reference.did 1).base_id "" service.MESSAGE_TYPE_BROADCAST
        "text/plain" [104, 105] (reference.signingKey 1) m ∧
      (PayloadSurvives reference.library [104, 105] m ↔ ([104, 105] : Bytes) ≠ []) := by
  obtain ⟨m, hm, _⟩ := broadcast_constructed [104, 105]
  exact ⟨m, .new_with_exp 0 hm, payload_survives_iff reference.cborRoundTrips (.new_with_exp 0 hm)⟩

/-- An empty content is accepted, and is read as the one byte of its codec. -/
theorem empty_content_is_lost :
    (∃ m, Message.new_with_exp reference.library (some 1000) "m" (reference.did 1).base_id ""
        service.MESSAGE_TYPE_BROADCAST "text/plain" [] 0 (reference.signingKey 1) = .ok m ∧ m.payload = [0]) ∧
      ¬ ∀ (lib : Lib) (clock : Clock) (nanoid from_ to_ message_type content_type : String) (content : Bytes)
        (signing_key : SigningKey) (m : Message), lib.CborRoundTrips →
        Constructed lib clock nanoid from_ to_ message_type content_type content signing_key m →
        PayloadSurvives lib content m := by
  obtain ⟨m, hm, _⟩ := broadcast_constructed []
  have hcontent : m.content = encode_content (codec_for "text/plain") [] :=
    Constructed.content_eq (.new_with_exp 0 hm)
  have hpayload : m.payload = [0] := by
    unfold payload
    rw [hcontent, decode_content_encode_nil]
    decide
  refine ⟨⟨m, hm, hpayload⟩, fun hclaim => ?_⟩
  have hsurvives := hclaim _ _ _ _ _ _ _ _ _ m reference.cborRoundTrips (.new_with_exp 0 hm)
  rw [hsurvives.payload] at hpayload
  cases hpayload

end Message

end ma_core.msg
