import MaCore.Msg

open rust
open ma_core.error ma_core.did ma_core.doc ma_core.service

namespace ma_core.msg

section
variable {lib : Lib} {clock : Clock}

/-- When a message is neither from the future nor expired, with the skew the
    code allows on both sides. -/
structure Fresh (lib : Lib) (now created_at exp : UInt64) : Prop where
  created : ∃ latest : UInt64,
    u64_add (ε := MaError) lib.overflow_checks now DEFAULT_MAX_CLOCK_SKEW_SECS = .ok latest ∧
      created_at ≤ latest
  unexpired : exp = 0 ∨ ∃ deadline : UInt64,
    u64_add (ε := MaError) lib.overflow_checks exp DEFAULT_MAX_CLOCK_SKEW_SECS = .ok deadline ∧
      now ≤ deadline

theorem validate_message_freshness_eq_ok_iff {created_at exp : UInt64} :
    validate_message_freshness lib clock created_at exp = .ok () ↔
      ∃ now, clock = some now ∧ Fresh lib now created_at exp := by
  unfold validate_message_freshness now_unix_secs
  simp only [bind_eq_ok_iff, exists_unit, ok_or_eq_ok_iff, reject_if_eq_ok_iff,
    decide_eq_false_iff_not, gt_iff_lt, UInt64.not_lt]
  constructor
  · rintro ⟨now, hclock, latest, hlatest, hcreated, hexp⟩
    refine ⟨now, hclock, ⟨latest, hlatest, hcreated⟩, ?_⟩
    by_cases hnever : exp = 0
    · exact .inl hnever
    · rw [if_neg hnever, bind_eq_ok_iff] at hexp
      obtain ⟨deadline, hdeadline, hlive⟩ := hexp
      rw [reject_if_eq_ok_iff, decide_eq_false_iff_not] at hlive
      exact .inr ⟨deadline, hdeadline, UInt64.not_lt.mp hlive⟩
  · rintro ⟨now, hclock, ⟨latest, hlatest, hcreated⟩, hunexpired⟩
    refine ⟨now, hclock, latest, hlatest, hcreated, ?_⟩
    by_cases hnever : exp = 0
    · rw [if_pos hnever]
      rfl
    · obtain ⟨deadline, hdeadline, hlive⟩ := hunexpired.resolve_left hnever
      rw [if_neg hnever, bind_eq_ok_iff]
      exact ⟨deadline, hdeadline,
        reject_if_eq_ok_iff.mpr (decide_eq_false_iff_not.mpr (UInt64.not_lt.mpr hlive))⟩

/-- An expiring message is fresh until the allowed skew after its expiry at most. -/
theorem Fresh.le_exp {now created_at exp : UInt64} (hfresh : Fresh lib now created_at exp) :
    exp = 0 ∨ now.toNat ≤ exp.toNat + 30 := by
  rcases hfresh.unexpired with hnever | ⟨deadline, hdeadline, hle⟩
  · exact .inl hnever
  · have hsum := u64_add_le hdeadline
    have hle := UInt64.le_iff_toNat_le.mp hle
    have hskew : DEFAULT_MAX_CLOCK_SKEW_SECS.toNat = 30 := rfl
    right
    omega

/-- What `Headers::validate` asks of a message's headers at a time. -/
structure Headers.Valid (lib : Lib) (clock : Clock) (headers : Headers) : Prop where
  id : validate_message_id headers.id = .ok ()
  protocol : headers.protocol = default_protocol
  reply_to : ∀ id ∈ headers.reply_to, validate_message_id id = .ok ()
  content_type : headers.content_type.isEmpty = false
  sender : ∃ parts, Did.parse lib headers.from = .ok parts
  broadcast : headers.message_type = MESSAGE_TYPE_BROADCAST → (trim headers.to).isEmpty = true
  recipient : headers.message_type ≠ MESSAGE_TYPE_BROADCAST →
    (trim headers.to).isEmpty = false ∧ ∃ parts, Did.parse lib headers.to = .ok parts
  fresh : ∃ now, clock = some now ∧ Fresh lib now headers.created_at headers.exp

theorem Headers.validate_eq_ok_iff {headers : Headers} :
    headers.validate lib clock = .ok () ↔ headers.Valid lib clock := by
  unfold Headers.validate validate_protocol
  by_cases hbroadcast : headers.message_type = MESSAGE_TYPE_BROADCAST
  all_goals
    simp only [hbroadcast, if_true, if_false, bind_eq_ok_iff, exists_unit, reject_if_eq_ok_iff,
      forM_eq_ok_iff, Did.validate_eq_ok_iff, Did.validate_url, map_err_eq_ok_iff,
      validate_message_freshness_eq_ok_iff, Option.mem_toList, bne_eq_false_iff_eq,
      Bool.not_eq_false']
  · constructor
    · rintro ⟨hid, hprotocol, hreply, hcontent, hsender, hblank, hfresh⟩
      exact ⟨hid, hprotocol, hreply, hcontent, hsender, fun _ => hblank,
        fun hother => absurd hbroadcast hother, hfresh⟩
    · rintro ⟨hid, hprotocol, hreply, hcontent, hsender, hblank, _, hfresh⟩
      exact ⟨hid, hprotocol, hreply, hcontent, hsender, hblank hbroadcast, hfresh⟩
  · constructor
    · rintro ⟨hid, hprotocol, hreply, hcontent, hsender, hblank, hrecipient, hfresh⟩
      exact ⟨hid, hprotocol, hreply, hcontent, hsender, fun h => absurd h hbroadcast,
        fun _ => ⟨hblank, hrecipient⟩, hfresh⟩
    · rintro ⟨hid, hprotocol, hreply, hcontent, hsender, _, hrecipient, hfresh⟩
      obtain ⟨hblank, hparse⟩ := hrecipient hbroadcast
      exact ⟨hid, hprotocol, hreply, hcontent, hsender, hblank, hparse, hfresh⟩

/-- The signature is not among the checks, and neither is the content hash. -/
theorem Headers.Valid.resign {headers : Headers} (hvalid : headers.Valid lib clock)
    (content_hash : ByteArr 32) (signature : Bytes) :
    ({ headers with content_hash, signature } : Headers).Valid lib clock :=
  ⟨hvalid.id, hvalid.protocol, hvalid.reply_to, hvalid.content_type, hvalid.sender,
    hvalid.broadcast, hvalid.recipient, hvalid.fresh⟩

namespace Message

/-- The signature of a message is one over its headers, by the first assertion
    method of a document. -/
def SignatureVerifies (lib : Lib) (self : Message) (document : Document) : Prop :=
  ∃ bytes signature public_key,
    self.unsigned_headers_cbor lib = .ok bytes ∧
    ByteArr.try_from 64 self.signature = some signature ∧
    document.assertion_method_public_key lib = .ok public_key ∧
    lib.ed25519_verify public_key bytes signature = true

/-- The document is that of the sender's base DID. -/
def SentBy (lib : Lib) (self : Message) (document : Document) : Prop :=
  ∃ did, Did.try_from lib self.from = .ok did ∧ document.id = did.base_id

theorem verify_with_document_eq_ok_iff {m : Message} {document : Document} :
    m.verify_with_document lib clock document = .ok () ↔
      m.SentBy lib document ∧ (m.headers lib).Valid lib clock ∧ m.SignatureVerifies lib document := by
  unfold verify_with_document
  simp only [bind_eq_ok_iff, exists_unit, reject_if_eq_ok_iff, ok_or_eq_ok_iff,
    Headers.validate_eq_ok_iff, bne_eq_false_iff_eq, Bool.not_eq_false']
  constructor
  · rintro ⟨_, _, did, hdid, hid, hvalid, bytes, hbytes, signature, hsignature, key, hkey, hverify⟩
    exact ⟨⟨did, hdid, hid⟩, hvalid, bytes, signature, key, hbytes, hsignature, hkey, hverify⟩
  · rintro ⟨⟨did, hdid, hid⟩, hvalid, bytes, signature, key, hbytes, hsignature, hkey, hverify⟩
    have hfrom := Did.parse_nonempty (Did.try_from_eq_ok_iff.mp hdid)
    have hsigned : m.signature.isEmpty = false := by
      rw [ByteArr.try_from_eq_some_iff] at hsignature
      have hlength := signature.length_val
      rw [← hsignature] at hlength
      cases hempty : m.signature with
      | nil => simp [hempty] at hlength
      | cons => rfl
    exact ⟨hfrom, hsigned, did, hdid, hid, hvalid, bytes, hbytes, signature, hsignature, key, hkey,
      hverify⟩

theorem from_headers_eq_ok_iff {headers : Headers} {m : Message} :
    from_headers lib clock headers = .ok m ↔
      headers.Valid lib clock ∧ m.content = [] ∧
        { m.headers lib with content_hash := headers.content_hash } = headers := by
  unfold from_headers
  simp only [bind_eq_ok_iff, exists_unit, Headers.validate_eq_ok_iff]
  constructor
  · rintro ⟨hvalid, hm⟩
    cases hm
    exact ⟨hvalid, rfl, rfl⟩
  · rintro ⟨hvalid, hcontent, hheaders⟩
    refine ⟨hvalid, ?_⟩
    rw [← hheaders]
    cases m
    cases hcontent
    rfl

end Message

end

end ma_core.msg
