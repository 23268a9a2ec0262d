import MaCore.Laws
import MaCore.Msg

open rust
open ma_core.error

namespace ma_core.msg

theorem optionalField_depth_le (name : String) (value : Option String) :
    ∀ entry ∈ optionalField name value, entry.2.depth ≤ 2 := by
  cases value <;> simp [optionalField, cbor.Value.depth]

/-- The fields of headers and of messages, which differ in the name of one. -/
def wire_fields (id protocol message_type from_ to_ : String) (created_at exp : UInt64)
    (content_type : String) (reply_to : Option String) (name : String) (bytes signature : Bytes) :
    List (String × cbor.Value) :=
  [("id", .text id), ("protocol", .text protocol), ("type", .text message_type),
    ("from", .text from_), ("to", .text to_), ("createdAt", .uint created_at), ("exp", .uint exp),
    ("contentType", .text content_type)] ++
  optionalField "replyTo" reply_to ++
  [(name, cbor.bytesValue bytes), ("signature", cbor.bytesValue signature)]

section
variable {id protocol message_type from_ to_ content_type name : String} {created_at exp : UInt64}
variable {reply_to : Option String} {bytes signature : Bytes} {fields : List (String × cbor.Value)}

theorem wire_fields_nodup (hname : name = "content" ∨ name = "contentHash")
    (hfields : fields = wire_fields id protocol message_type from_ to_ created_at exp content_type
      reply_to name bytes signature) : (fields.map Prod.fst).Nodup := by
  subst hfields
  obtain rfl | rfl := hname
  · cases reply_to <;> simp [wire_fields, optionalField]
  · cases reply_to <;> simp [wire_fields, optionalField]

/-- The one optional field is read as it was, also where it is left out. -/
theorem wire_fields_reply_to (hname : name = "content" ∨ name = "contentHash")
    (hfields : fields = wire_fields id protocol message_type from_ to_ created_at exp content_type
      reply_to name bytes signature) :
    serde.defaulted fields "replyTo" none (cbor.readOption cbor.readString) = .ok reply_to := by
  have hnodup := wire_fields_nodup hname hfields
  cases reply_to with
  | none =>
    refine serde.defaulted_of_absent ?_
    subst hfields
    obtain rfl | rfl := hname <;> simp [wire_fields, optionalField]
  | some reply =>
    have hmem : ("replyTo", cbor.Value.text reply) ∈ fields := by
      subst hfields
      simp [wire_fields, optionalField]
    rw [serde.defaulted_of_mem hnodup hmem]
    rfl

/-- Every field is read as it was written; what is read from the bytes is left
    to the type, which wants 32 of them or any number. -/
theorem wire_fields_read (hname : name = "content" ∨ name = "contentHash")
    (hfields : fields = wire_fields id protocol message_type from_ to_ created_at exp content_type
      reply_to name bytes signature) :
    serde.required fields "id" cbor.readString = .ok id ∧
      serde.required fields "protocol" cbor.readString = .ok protocol ∧
      serde.required fields "type" cbor.readString = .ok message_type ∧
      serde.required fields "from" cbor.readString = .ok from_ ∧
      serde.required fields "to" cbor.readString = .ok to_ ∧
      serde.required fields "createdAt" cbor.readU64 = .ok created_at ∧
      serde.defaulted fields "exp" 0 cbor.readU64 = .ok exp ∧
      serde.required fields "contentType" cbor.readString = .ok content_type ∧
      serde.defaulted fields "replyTo" none (cbor.readOption cbor.readString) = .ok reply_to ∧
      (∀ {α : Type} (read : cbor.Value → Except String α),
        serde.required fields name read = read (cbor.bytesValue bytes)) ∧
      serde.required fields "signature" cbor.readBytes = .ok signature := by
  have hnodup := wire_fields_nodup hname hfields
  have hreply_to := wire_fields_reply_to hname hfields
  have hrequired {α : Type} {read : cbor.Value → Except String α} {a : α} (field : String)
      {value : cbor.Value} (hread : read value = .ok a) (hmem : (field, value) ∈ fields) :
      serde.required fields field read = .ok a := by
    rw [serde.required_of_mem hnodup hmem, hread]
  have hexp : ("exp", cbor.Value.uint exp) ∈ fields := by simp [hfields, wire_fields]
  have hbytes : (name, cbor.bytesValue bytes) ∈ fields := by simp [hfields, wire_fields]
  refine ⟨hrequired "id" (cbor.readString_text id) ?_,
    hrequired "protocol" (cbor.readString_text protocol) ?_,
    hrequired "type" (cbor.readString_text message_type) ?_,
    hrequired "from" (cbor.readString_text from_) ?_, hrequired "to" (cbor.readString_text to_) ?_,
    hrequired "createdAt" (cbor.readU64_uint created_at) ?_,
    (serde.defaulted_of_mem hnodup hexp).trans (cbor.readU64_uint exp),
    hrequired "contentType" (cbor.readString_text content_type) ?_, hreply_to,
    fun read => serde.required_of_mem hnodup hbytes,
    hrequired "signature" (cbor.readBytes_bytesValue signature) ?_⟩
  all_goals
    simp [hfields, wire_fields]

theorem wire_fields_names {entry : String × cbor.Value}
    (hmem : entry ∈ wire_fields id protocol message_type from_ to_ created_at exp content_type reply_to
      name bytes signature) :
    entry.1 ∈ ["id", "protocol", "type", "from", "to", "createdAt", "exp", "contentType", "replyTo", name,
      "signature"] := by
  have hnames : entry.1 ∈ (wire_fields id protocol message_type from_ to_ created_at exp content_type reply_to
      name bytes signature).map Prod.fst := List.mem_map_of_mem hmem
  cases reply_to with
  | none =>
    have hsublist := (List.sublist_cons_self "replyTo" [name, "signature"]).append_left
      ["id", "protocol", "type", "from", "to", "createdAt", "exp", "contentType"]
    exact hsublist.mem hnames
  | some reply => exact hnames

theorem fields_depth_le :
    (cbor.structValue (wire_fields id protocol message_type from_ to_ created_at exp content_type
      reply_to name bytes signature)).depth ≤ 256 := by
  have hoptional := optionalField_depth_le "replyTo" reply_to
  refine Nat.le_trans (@cbor.structValue_depth_le 2 _ (by omega) ?_) (by omega)
  intro entry hmem
  obtain hfields | hbytes := List.mem_append.mp hmem
  · obtain hscalar | hreply := List.mem_append.mp hfields
    · have hscalars : ∀ value ∈ [.text id, .text protocol, .text message_type, .text from_, .text to_,
          .uint created_at, .uint exp, .text content_type], cbor.Value.depth value ≤ 2 := by
        simp [cbor.Value.depth]
      exact hscalars entry.2 (List.mem_map_of_mem hscalar)
    · exact hoptional entry hreply
  · have hvectors : ∀ value ∈ [cbor.bytesValue bytes, cbor.bytesValue signature], value.depth ≤ 2 := by
      simp [cbor.bytesValue_depth_le]
    exact hvectors entry.2 (List.mem_map_of_mem hbytes)

theorem fields_length_le :
    (cbor.encode (cbor.structValue (wire_fields id protocol message_type from_ to_ created_at exp
      content_type reply_to name bytes signature))).length ≤
    (utf8 id).length + (utf8 protocol).length + (utf8 message_type).length + (utf8 from_).length +
      (utf8 to_).length + (utf8 content_type).length + (reply_to.elim 0 fun id => (utf8 id).length) +
      (utf8 name).length + 2 * bytes.length + 2 * signature.length + 300 := by
  have hsize := cbor.encode_structValue_length_le (wire_fields id protocol message_type from_ to_
    created_at exp content_type reply_to name bytes signature)
  have hreply : ((optionalField "replyTo" reply_to).map fun entry =>
      (utf8 entry.1).length + 9 + (cbor.encode entry.2).length).sum ≤
      (reply_to.elim 0 fun id => (utf8 id).length) + 25 := by
    cases reply_to with
    | none => simp [optionalField]
    | some id =>
      have hid := cbor.encode_text_length_le id
      have hname : (utf8 "replyTo").length = 7 := rfl
      simp only [optionalField, Option.map_some, Option.toList_some, List.map_cons, List.map_nil,
        List.sum_cons, List.sum_nil, Option.elim_some]
      omega
  have hnames : (utf8 "id").length + (utf8 "protocol").length + (utf8 "type").length +
      (utf8 "from").length + (utf8 "to").length + (utf8 "createdAt").length + (utf8 "exp").length +
      (utf8 "contentType").length + (utf8 "signature").length = 52 := rfl
  have hid := cbor.encode_text_length_le id
  have hprotocol := cbor.encode_text_length_le protocol
  have htype := cbor.encode_text_length_le message_type
  have hfrom := cbor.encode_text_length_le from_
  have hto := cbor.encode_text_length_le to_
  have hcreated := cbor.encode_uint_length_le created_at
  have hexp := cbor.encode_uint_length_le exp
  have hcontent_type := cbor.encode_text_length_le content_type
  have hbytes := cbor.encode_bytesValue_length_le bytes
  have hsignature := cbor.encode_bytesValue_length_le signature
  simp only [wire_fields, List.map_append, List.map_cons, List.map_nil, List.sum_append, List.sum_cons,
    List.sum_nil] at hsize ⊢
  omega

end

/-- The headers of a message are read back from what they are serialized to. -/
@[simp] theorem Headers.deserialize_serialize (headers : Headers) :
    Headers.deserialize headers.serialize = .ok headers := by
  obtain ⟨fields, hfields, hserialize⟩ : ∃ fields, fields = wire_fields headers.id headers.protocol
      headers.message_type headers.from headers.to headers.created_at headers.exp headers.content_type
      headers.reply_to "contentHash" headers.content_hash.val headers.signature ∧
      headers.serialize = cbor.structValue fields := ⟨_, rfl, rfl⟩
  obtain ⟨hid, hprotocol, htype, hfrom, hto, hcreated, hexp, hcontent_type, hreply_to, hhash, hsignature⟩ :=
    wire_fields_read (.inr rfl) hfields
  rw [hserialize, Headers.deserialize, cbor.readFields_structValue]
  simp only [ok_bind, hid, hprotocol, htype, hfrom, hto, hcreated, hexp, hcontent_type, hreply_to, hhash,
    cbor.readByteArr_bytesValue, hsignature]
  rfl

@[simp] theorem Message.deserialize_serialize (m : Message) :
    Message.deserialize m.serialize = .ok m := by
  obtain ⟨fields, hfields, hserialize⟩ : ∃ fields, fields = wire_fields m.id m.protocol m.message_type
      m.from m.to m.created_at m.exp m.content_type m.reply_to "content" m.content m.signature ∧
      m.serialize = cbor.structValue fields := ⟨_, rfl, rfl⟩
  obtain ⟨hid, hprotocol, htype, hfrom, hto, hcreated, hexp, hcontent_type, hreply_to, hcontent,
    hsignature⟩ := wire_fields_read (.inl rfl) hfields
  rw [hserialize, Message.deserialize, cbor.readFields_structValue]
  simp only [ok_bind, hid, hprotocol, htype, hfrom, hto, hcreated, hexp, hcontent_type, hreply_to, hcontent,
    cbor.readBytes_bytesValue, hsignature]
  rfl

theorem Headers.serialize_depth_le (headers : Headers) : headers.serialize.depth ≤ 256 :=
  fields_depth_le

theorem Message.serialize_depth_le (m : Message) : m.serialize.depth ≤ 256 := fields_depth_le

/-- A message is at most about twice as long on the wire as its parts. -/
theorem Message.serialize_length_le (m : Message) :
    (cbor.encode m.serialize).length ≤ (utf8 m.id).length + (utf8 m.protocol).length +
      (utf8 m.message_type).length + (utf8 m.from).length + (utf8 m.to).length +
      (utf8 m.content_type).length + (m.reply_to.elim 0 fun id => (utf8 id).length) +
      2 * m.content.length + 2 * m.signature.length + 307 := by
  have hsize : (cbor.encode m.serialize).length ≤ _ := fields_length_le
  have hname : (utf8 "content").length = 7 := rfl
  omega

/-- Headers do not grow with the content. -/
theorem Headers.serialize_length_le (headers : Headers) :
    (cbor.encode headers.serialize).length ≤ (utf8 headers.id).length + (utf8 headers.protocol).length +
      (utf8 headers.message_type).length + (utf8 headers.from).length + (utf8 headers.to).length +
      (utf8 headers.content_type).length + (headers.reply_to.elim 0 fun id => (utf8 id).length) +
      2 * headers.signature.length + 375 := by
  have hsize : (cbor.encode headers.serialize).length ≤ _ := fields_length_le
  have hname : (utf8 "contentHash").length = 11 := rfl
  have hhash := headers.content_hash.length_val
  omega

section
variable {lib : Lib}

/-- Bytes written for a value are read by any deserializer as that value. -/
theorem from_cbor_to_cbor {α : Type} {deserialize : cbor.Value → Except String α}
    (hcbor : lib.CborRoundTrips) {value : cbor.Value} (hdepth : value.depth ≤ 256) {bytes : Bytes}
    (hbytes : to_cbor value = .ok bytes) :
    from_cbor lib deserialize bytes = of_library .CborDecode (deserialize value) := by
  obtain ⟨rfl, hlength⟩ := to_vec_eq_ok_iff.mp hbytes
  simp only [from_cbor, hcbor.of_length hdepth hlength, of_library, ok_bind]

theorem Headers.from_cbor_to_cbor (hcbor : lib.CborRoundTrips) {headers : Headers} {bytes : Bytes}
    (hbytes : to_cbor headers.serialize = .ok bytes) :
    from_cbor lib Headers.deserialize bytes = .ok headers := by
  rw [msg.from_cbor_to_cbor hcbor headers.serialize_depth_le hbytes, Headers.deserialize_serialize]
  rfl

/-- A message is decoded from its wire form with every field it had. -/
theorem Message.decode_encode (hcbor : lib.CborRoundTrips) {m : Message} {bytes : Bytes}
    (hbytes : m.encode = .ok bytes) : Message.decode lib bytes = .ok m := by
  rw [Message.decode, from_cbor_to_cbor hcbor m.serialize_depth_le hbytes,
    Message.deserialize_serialize]
  rfl

end

end ma_core.msg
