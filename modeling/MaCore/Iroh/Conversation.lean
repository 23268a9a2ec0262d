import MaCore.Config.Published
import MaCore.Iroh.Delivery
import MaCore.Iroh.Served

open rust transition
open ma_core.error ma_core.did ma_core.key ma_core.doc ma_core.msg ma_core.service ma_core.outbox
open ma_core.transport ma_core.config ma_core.ipfs

namespace ma_core.iroh

/-- Someone with a bundle: the endpoint started from it, the protocols registered there, and the document that was
    built of both and encoded for publication. -/
structure Participant (lib : Lib) (format : Int → Option String) where
  bundle : SecretBundle
  endpoint_id : String
  calls : List Registration
  signing_key : SigningKey
  encryption_key : EncryptionKey
  generated_at : UInt64
  touched_at : UInt64
  document : Document
  bytes : Bytes
  created : is_valid_rfc3339_utc lib bundle.created_at = true
  named : EndpointId endpoint_id
  protocols : ∀ call ∈ calls, trim call.protocol ≠ ""
  signing : bundle.signing_key lib = .ok signing_key
  encryption : bundle.encryption_key lib = .ok encryption_key
  built : bundle.build_document lib (now_iso_utc format generated_at) (now_iso_utc format touched_at)
    (Registration.run endpoint_id encryption_key calls).ma_extension = .ok document
  encoded : document.encode lib = .ok bytes

/-- The text is the DID of the document, or the URL of something in it. -/
def Names (lib : Lib) (did : String) (document : Document) : Prop :=
  ∃ parsed, Did.try_from lib did = .ok parsed ∧ document.id = parsed.base_id

namespace Participant

section
variable {lib : Lib} {format : Int → Option String} {resolver : Resolver} {did protocol : String}

/-- Asked for a participant, the resolver returns what the published bytes parse to. -/
def ResolvedBy (self : Participant lib format) (resolver : Resolver) : Prop :=
  ∀ did, Names lib did self.document →
    ∀ document, parse_document_bytes lib self.bytes = .ok document → resolver did = .ok document

/-- The endpoint of a participant has run up to this time and serves the protocol; no peer has sent it anything under
    the identifier within the window. -/
structure Awaits (participant : Participant lib format) (protocol m_id : String) (events : List Event)
    (s : System) (now : UInt64) : Prop where
  run : Run (System.Step lib) (System.start participant.endpoint_id participant.encryption_key) events s
  registered :
    Registration.registered (events.filterMap System.registration) (transport.normalize_protocol protocol) = true
  clock : window.NonDecreasing System.stream_clock events
  past : ∀ event ∈ events, ∀ time ∈ System.stream_clock event, time ≤ now
  lately : ∀ entry ∈ s.entered, entry.path = .stream → entry.message.id = m_id →
    ∀ time ∈ entry.clock, time.toNat + 120 < now.toNat

theorem published (self : Participant lib format) (hed25519 : lib.Ed25519Signs) (hbase58 : lib.Base58RoundTrips)
    (hdagcbor : lib.DagCborRoundTrips) (hformat : FormatsUtc lib format) :
    Published lib self.bundle (Registration.run self.endpoint_id self.encryption_key self.calls).ma_extension
      self.signing_key self.encryption_key self.document self.bytes :=
  SecretBundle.build_document_published hed25519 hbase58 hdagcbor hformat self.created self.built self.signing
    self.encryption self.encoded

/-- The services advertised are those of the extension the document was built with. -/
theorem advertised_eq {to_value : Ipld → Option serde_json.Value} {document : Document} {ext : MaExtension}
    (hextension : document.ma = if ext.map.isEmpty then none else some (.Map ext.map)) :
    advertised to_value document = advertised to_value (document.set_ma_extension ext) := by
  rw [Document.set_ma_extension_eq, advertised, advertised, hextension]

/-- In the document of a participant the endpoint is found under each protocol registered there. -/
theorem resolves (self : Participant lib format) {to_value : Ipld → Option serde_json.Value}
    (hwrites : WritesStrings to_value)
    (hextension : self.document.ma =
      let ext := (Registration.run self.endpoint_id self.encryption_key self.calls).ma_extension
      if ext.map.isEmpty then none else some (.Map ext.map))
    (hregistered : Registration.registered self.calls (transport.normalize_protocol protocol) = true) :
    transport.resolve_endpoint_for_protocol (advertised to_value self.document) protocol = some self.endpoint_id := by
  have hinv := Registration.run_inv self.endpoint_id self.encryption_key self.calls
  have hprotocols : ∀ name ∈ (Registration.run self.endpoint_id self.encryption_key self.calls).protocols,
      trim name ≠ "" ∧ transport.normalize_protocol name = name := by
    intro name hmem
    obtain ⟨call, hcall, rfl⟩ := Registration.mem_of_registered ((hinv.protocols name).mp hmem)
    exact ⟨transport.trim_normalize_protocol_ne_empty (self.protocols call hcall),
      transport.normalize_protocol_normalize call.protocol⟩
  rw [advertised_eq hextension, advertised, IrohEndpoint.ma_extension, Document.services_set_ma_extension,
    Option.bind_some, hwrites, IrohEndpoint.services, hinv.id,
    transport.resolve_transport_strings self.named hprotocols]
  exact if_pos ((hinv.protocols _).mpr hregistered)

/-- What a participant writes is its own as long as it is fresh. -/
theorem verifies {sent : Clock} {nanoid from_ to_ message_type content_type : String} {content : Bytes} {m : Message}
    {document : Document} {signing_key : SigningKey} (hed25519 : lib.Ed25519Signs) (hbase58 : lib.Base58RoundTrips)
    (hsigns : Signs lib document signing_key) (hvalid : document.Valid lib) (hfrom : Names lib from_ document)
    (hnew : Message.Constructed lib sent nanoid from_ to_ message_type content_type content signing_key m) :
    (m.from = from_ ∧ m.to = to_ ∧ m.message_type = message_type) ∧ (m.headers lib).Valid lib sent ∧
      ∀ now, Fresh lib now m.created_at m.exp → m.verify_with_document lib (some now) document = .ok () := by
  obtain ⟨now, exp, reply_to, _, hheaders, hsign⟩ := constructed_draft hnew
  have hsent : m.SentBy lib document ∧ (m.from = from_ ∧ m.to = to_ ∧ m.message_type = message_type) ∧
      (m.headers lib).Valid lib sent ∧
      ∀ now, Fresh lib now m.created_at m.exp → (m.headers lib).Valid lib (some now) := by
    obtain ⟨_, _, hm⟩ := bind_eq_ok_iff.mp hsign
    cases hm
    exact ⟨hfrom, ⟨rfl, rfl, rfl⟩, hheaders.resign _ _, fun now hfresh => (hheaders.at_time hfresh).resign _ _⟩
  obtain ⟨hsent, hfields, hvalid_sent, hlater⟩ := hsent
  refine ⟨hfields, hvalid_sent, fun now hfresh => ?_⟩
  exact hsigns.verifies hed25519 hbase58 hvalid hsign hsent (hlater now hfresh)

/-- A message finds its way. Whoever asks a resolver for a participant is led to its endpoint, under each protocol
    registered there; and what another participant writes to it and sends through the outbox so opened is received
    there as it was written, while it is fresh and has not been received lately. Only the encryption can stop it. -/
theorem conversation {to_value : Ipld → Option serde_json.Value} (hwrites : WritesStrings to_value)
    (hcbor : lib.CborRoundTrips) (hdagcbor : lib.DagCborRoundTrips) (hed25519 : lib.Ed25519Signs)
    (hbase58 : lib.Base58RoundTrips) (hagree : lib.DiffieHellmanAgrees) (haead : lib.AeadOpens)
    (hformat : FormatsUtc lib format) {writer reader : Participant lib format} (hwriter : writer.ResolvedBy resolver)
    (hreader : reader.ResolvedBy resolver) (hdid : Names lib did reader.document)
    (hregistered : Registration.registered reader.calls (transport.normalize_protocol protocol) = true)
    {sent : Clock} {nanoid from_ to_ message_type content_type : String} {content : Bytes} {m : Message}
    (hnew : Message.Constructed lib sent nanoid from_ to_ message_type content_type content writer.signing_key m)
    (hfrom : Names lib from_ writer.document) (hto : Names lib to_ reader.document)
    (hcontent : content ≠ [])
    {self : IrohEndpoint} (hother : reader.endpoint_id ≠ self.id) (wire : OutboxWire IrohEndpoint)
    (entropy : Entropy) :
    outbox_target to_value resolver did protocol = .ok (reader.document, reader.endpoint_id) ∧
    ∃ outbox, self.connect_outbox lib reader.document reader.endpoint_id did protocol (.ok wire) = .ok outbox ∧
      (∀ e, outbox.payload lib sent entropy m = Err e → e = .Crypto) ∧
      ∀ payload, outbox.payload lib sent entropy m = .ok payload →
        (∀ world, outbox.send lib sent entropy m world = wire.send_payload sent payload world) ∧
        ∀ (events : List Event) (s : System) (now : UInt64), reader.Awaits protocol m.id events s now →
          payload.length ≤ DEFAULT_MAX_INBOUND_MESSAGE_SIZE → Fresh lib now m.created_at m.exp →
          m.payload = content ∧ ∃ inbox, s.endpoint.inboxes.get (iroh.normalize_protocol protocol) = some inbox ∧
            s.Receives lib ⟨iroh.normalize_protocol protocol, inbox⟩ payload (some now) resolver m := by
  have hwritten := writer.published hed25519 hbase58 hdagcbor hformat
  have hread := reader.published hed25519 hbase58 hdagcbor hformat
  obtain ⟨⟨rfl, rfl, rfl⟩, hsent, hverifies⟩ := verifies hed25519 hbase58 hwritten.signs hwritten.valid hfrom hnew
  have htarget : outbox_target to_value resolver did protocol = .ok (reader.document, reader.endpoint_id) := by
    rw [outbox_target, hreader did hdid _ hread.parses, ok_bind,
      reader.resolves hwrites hread.extension hregistered]
    rfl
  refine ⟨htarget, Outbox.from_transport wire reader.document false did protocol, ?_, ?_, ?_⟩
  · rw [IrohEndpoint.connect_outbox, if_neg hother]
    rfl
  · exact fun e herr => Outbox.payload_err hsent (fun _ => hread.agreement) herr
  intro payload hpayload
  refine ⟨Outbox.send_eq lib sent entropy hpayload rfl, ?_⟩
  intro events s now hawaits hsize hfresh
  have hserved := System.run_served hawaits.run
  have hunseen := System.run_not_holds hawaits.run hawaits.clock hawaits.past hawaits.lately
  have hkey : s.endpoint.inbound_security.recipient_key = reader.encryption_key := by
    obtain ⟨calls, hcalls⟩ := System.run_decoded hawaits.run
    exact InboundSecurity.run_recipient_key hcalls.run
  have hverified : InboundSecurity.Verified lib (some now) resolver m :=
    ⟨writer.document, hwriter m.from hfrom _ hwritten.parses, hverifies now hfresh⟩
  have hreceived := (Message.verify_with_document_eq_ok_iff.mp (hverifies now hfresh)).2.1
  have haddressed : AddressedTo lib reader.document m s.endpoint.inbound_security.recipient_key := by
    rw [hkey]
    exact ⟨hto, hread.names, hread.agreement⟩
  obtain ⟨inbox, hinbox⟩ : ∃ inbox, s.endpoint.inboxes.get (iroh.normalize_protocol protocol) = some inbox := by
    rw [← Option.isSome_iff_exists, hserved.services.inboxes]
    exact hawaits.registered
  have hdecode := @decode_payload lib m sent (some now) entropy resolver s.endpoint.inbound_security
    (iroh.normalize_protocol protocol) IrohEndpoint (Outbox.from_transport wire reader.document false did protocol)
    payload hcbor hagree haead rfl (fun _ => haddressed) hsent hverified hreceived
    (by rintro _ ⟨⟩; exact hunseen) hpayload
  exact ⟨(Message.payload_eq_iff hnew.content_eq).mpr hcontent, inbox, hinbox, hserved.receives hinbox hsize hdecode⟩

end

end Participant

/-! A greeting from one participant to another. -/

section
open ma_core.reference ma_core.identity

/-- The bundle of a seed. -/
def seed_bundle (seed : UInt8) : SecretBundle where
  iroh_secret_key := secret seed
  ipns_secret_key := secret seed
  did_signing_key := secret seed
  did_encryption_key := secret seed
  created_at := "2026-08-08T12:34:56Z"
  extra_keys := []

def seed_key (seed : UInt8) : EncryptionKey :=
  EncryptionKey.from_private_key_bytes dagLibrary ⟨ipns seed, some "enc"⟩ (secret seed)

def inbox_calls : List Registration := [.service "ma/inbox/0.0.1"]

theorem seed_ipns (seed : UInt8) : ipns_from_secret dagLibrary (secret seed) = .ok (ipns seed) := by
  rw [ipns_from_secret_dagLibrary]
  exact ipns_from_secret_eq seed

theorem seed_url (seed : UInt8) (fragment : String) (hfragment : validate_fragment fragment = .ok ()) :
    Did.new_url dagLibrary (ipns seed) (some fragment) fragment = .ok ⟨ipns seed, some fragment⟩ := by
  rw [Did.new_url, Option.getD_some, validate_identifier_dagLibrary, validate_identifier_ipns, ok_bind, hfragment,
    ok_bind]
  rfl

theorem seed_encryption (seed : UInt8) : (seed_bundle seed).encryption_key dagLibrary = .ok (seed_key seed) := by
  simp only [SecretBundle.encryption_key, bind_eq_ok_iff, secrets_eq_ok_iff]
  exact ⟨_, seed_ipns seed, _, seed_url seed "enc" (by decide), rfl⟩

theorem seed_extension (seed : UInt8) : (Registration.run endpoint_id (seed_key seed) inbox_calls).ma_extension.map =
    [("services", strings [transport_string endpoint_id "/ma/inbox/0.0.1"])] := rfl

theorem seed_representable (seed : UInt8) :
    (Ipld.Map (Registration.run endpoint_id (seed_key seed) inbox_calls).ma_extension.map).representable = true := by
  rw [seed_extension]
  decide +kernel

theorem seed_document (seed : UInt8) : ∃ document,
    (seed_bundle seed).build_document dagLibrary (doc.now_iso_utc formats_one_second 1786192496)
      (doc.now_iso_utc formats_one_second 1786192496)
      (Registration.run endpoint_id (seed_key seed) inbox_calls).ma_extension = .ok document := by
  have hlength : (utf8 (ipns seed)).length < 2 ^ 32 := by
    have hdid := did_length seed
    rw [Did.base_id, utf8_append_length] at hdid
    exact Nat.lt_of_le_of_lt (Nat.le_trans (Nat.le_add_left _ _) hdid) (by decide)
  have hidentifier : validate_identifier dagLibrary (ipns seed) = .ok () := by
    rw [validate_identifier_dagLibrary]
    exact validate_identifier_ipns seed
  have hcreated : (Ipld.String "2026-08-08T12:34:56Z").representable = true := by decide +kernel
  exact @SecretBundle.build_document_ok _ (seed_bundle seed) base58RoundTrips dagCborEncodes _ (seed_ipns seed)
    hidentifier (ipns_no_hash seed) hlength hcreated _ _ (agent_now 1786192496) (agent_now 1786192496) _
    (seed_representable seed)

/-- The participant of a seed, with an inbox. -/
theorem seed_participant (seed : UInt8) : ∃ participant : Participant dagLibrary formats_one_second,
    participant.endpoint_id = endpoint_id ∧ participant.calls = inbox_calls ∧
      participant.encryption_key = seed_key seed ∧
      participant.document.id = (ma_core.reference.did seed).base_id := by
  obtain ⟨document, hbuild⟩ := seed_document seed
  obtain ⟨unsigned, assertion, agreement, signing_key, encryption_key, hsign, hholds, hmatches, _⟩ :=
    SecretBundle.build_document_eq_ok base58RoundTrips hbuild
  have hassertion_mem : assertion.id ∈ unsigned.assertion_method := by simp [hholds.assertion_method]
  obtain ⟨bytes, hbytes⟩ := Document.encode_of_sign dagCborEncodes base58RoundTrips hassertion_mem hsign
  have hid := SecretBundle.build_document_id hbuild (seed_ipns seed)
  have hprotocols : ∀ call ∈ inbox_calls, trim call.protocol ≠ "" := by decide
  exact ⟨⟨seed_bundle seed, endpoint_id, inbox_calls, signing_key, seed_key seed, _, _, document, bytes,
    agent_created_at, endpoint_id_valid,
    hprotocols, hmatches.signing, seed_encryption seed, hbuild, hbytes⟩, rfl, rfl, rfl, hid⟩

/-- A resolver that knows two participants. -/
def resolve_either (writer reader : Participant dagLibrary formats_one_second) (did : String) :
    ServiceResult Document :=
  match Did.try_from dagLibrary did with
  | .ok parsed =>
    let bytes := if parsed.base_id = writer.document.id then writer.bytes else reader.bytes
    map_err (.Resolution did) (parse_document_bytes dagLibrary bytes)
  | .error _ => Err (.Resolution did "not a DID")

theorem resolve_either_writer (writer reader : Participant dagLibrary formats_one_second) :
    writer.ResolvedBy (resolve_either writer reader) := by
  rintro did ⟨parsed, hparsed, hid⟩ document hdocument
  rw [resolve_either, hparsed]
  simp only [if_pos hid.symm, hdocument]
  rfl

theorem resolve_either_reader {writer reader : Participant dagLibrary formats_one_second}
    (hother : reader.document.id ≠ writer.document.id) : reader.ResolvedBy (resolve_either writer reader) := by
  rintro did ⟨parsed, hparsed, hid⟩ document hdocument
  rw [resolve_either, hparsed]
  simp only [← hid, if_neg hother, hdocument]
  rfl

/-- A message is enclosed for whoever has the key. -/
theorem enclose_for_key {lib : Lib} {clock : Clock} {m : Message} {ephemeral_secret : ByteArr 32}
    {headers_nonce content_nonce : ByteArr 24} {left right : Document}
    (hkey : left.key_agreement_public_key_bytes lib = right.key_agreement_public_key_bytes lib) :
    m.enclose_for lib clock ephemeral_secret headers_nonce content_nonce left =
      m.enclose_for lib clock ephemeral_secret headers_nonce content_nonce right := by
  rw [Message.enclose_for, Message.enclose_for, hkey]

theorem greeting_signed_valid (signing_key : SigningKey) :
    ((greeting_signed signing_key).headers library).Valid library (some 1000) :=
  greeting_draft_valid.resign _ _

theorem greeting_enclosed {signing_key : SigningKey} :
    (greeting_signed signing_key).enclose_for library (some 1000) (secret 5) nonce nonce (document 2) =
        .ok (enclosed 2 (greeting_signed signing_key)) ∧
      (enclosed 2 (greeting_signed signing_key)).encode =
        .ok (wireEnvelope (enclosed 2 (greeting_signed signing_key))) ∧
      (wireEnvelope (enclosed 2 (greeting_signed signing_key))).length ≤ DEFAULT_MAX_INBOUND_MESSAGE_SIZE := by
  have hcontent : (greeting_signed signing_key).content.length ≤ 4096 := by
    show (encode_content (codec_for "application/cbor") (cbor.encode greeting.serialize)).length ≤ 4096
    decide +kernel
  have hheaders : (cbor.encode ((greeting_signed signing_key).headers library).serialize).length ≤ 4096 := by
    have hsize : (cbor.encode ((greeting_signed signing_key).headers library).serialize).length ≤
        (utf8 "m").length + (utf8 default_protocol).length + (utf8 MESSAGE_TYPE_IPFS_REQUEST).length +
          (utf8 (did 1).base_id).length + (utf8 (did 2).base_id).length + (utf8 "application/cbor").length + 0 +
          2 * (greeting_signed signing_key).signature.length + 375 :=
      ((greeting_signed signing_key).headers library).serialize_length_le
    have hnames := greeting_names
    have hsignature : (greeting_signed signing_key).signature.length = 64 := ByteArr.length_val _
    omega
  refine ⟨enclose_for_eq_enclosed (greeting_signed_valid signing_key) hheaders hcontent,
    encode_enclosed hheaders hcontent, ?_⟩
  have hsize := (enclosed 2 (greeting_signed signing_key)).serialize_length_le
  have hkey := (secret 5).length_val
  have hmax : 32768 ≤ DEFAULT_MAX_INBOUND_MESSAGE_SIZE := by decide
  simp only [enclosed, sealed_length, hkey] at hsize
  simp only [wireEnvelope, enclosed]
  omega

theorem greeting_not_broadcast : MESSAGE_TYPE_IPFS_REQUEST ≠ MESSAGE_TYPE_BROADCAST := by decide

/-- The second participant is asked for, registers its inbox and receives a request of the first. -/
theorem conversation_greeting : ∃ (writer reader : Participant dagLibrary formats_one_second) (s : System)
    (inbox : Inbox) (payload : Bytes),
    outbox_target to_value (resolve_either writer reader) (did 2).base_id "ma/inbox/0.0.1" =
      .ok (reader.document, reader.endpoint_id) ∧
    s.endpoint.inboxes.get "/ma/inbox/0.0.1" = some inbox ∧
    s.Receives dagLibrary ⟨"/ma/inbox/0.0.1", inbox⟩ payload (some 1000) (resolve_either writer reader)
      (greeting_signed writer.signing_key) := by
  obtain ⟨writer, _, _, _, hwriter_id⟩ := seed_participant 1
  obtain ⟨reader, hreader_endpoint, hreader_calls, hreader_key, hreader_id⟩ := seed_participant 2
  have hother : reader.document.id ≠ writer.document.id := by
    rw [hreader_id, hwriter_id]
    exact fun heq => absurd (did_injective heq) (by decide)
  have hregistered : Registration.registered reader.calls (transport.normalize_protocol "ma/inbox/0.0.1") = true := by
    rw [hreader_calls]
    decide
  have hnew : Message.Constructed dagLibrary (some 1000) "m" (did 1).base_id (did 2).base_id MESSAGE_TYPE_IPFS_REQUEST
      "application/cbor" (cbor.encode greeting.serialize) writer.signing_key (greeting_signed writer.signing_key) :=
    .new (greeting_new writer.signing_key)
  have hpayload : encode_cbor greeting.serialize = .ok (cbor.encode greeting.serialize) :=
    encode_cbor_eq_ok_iff.mpr ⟨rfl, by decide +kernel⟩
  have hremote : reader.endpoint_id ≠ (IrohEndpoint.new "writer" (seed_key 1)).id := by
    rw [hreader_endpoint]
    decide
  let wire : OutboxWire IrohEndpoint := ⟨fun _ _ world => (.ok (), world)⟩
  obtain ⟨htarget, outbox, hconnect, _, hsend⟩ := @Participant.conversation dagLibrary formats_one_second
    (resolve_either writer reader) (did 2).base_id "ma/inbox/0.0.1" to_value to_value_writesStrings own_cborRoundTrips
    dagCborRoundTrips ed25519Signs base58RoundTrips diffieHellmanAgrees aeadOpens formats_one_second_utc writer reader
    (resolve_either_writer writer reader) (resolve_either_reader hother) ⟨did 2, did_try_from 2, hreader_id⟩
    hregistered
    (some 1000) "m" _ _ _ _ _ _ hnew ⟨did 1, did_try_from 1, hwriter_id⟩ ⟨did 2, did_try_from 2, hreader_id⟩
    (payload_ne_nil hpayload) _ hremote wire entropy_5
  rw [IrohEndpoint.connect_outbox, if_neg hremote] at hconnect
  cases hconnect
  have hagreement : reader.document.key_agreement_public_key_bytes dagLibrary =
      (document 2).key_agreement_public_key_bytes dagLibrary := by
    have hpublished := reader.published ed25519Signs base58RoundTrips dagCborRoundTrips formats_one_second_utc
    rw [hpublished.agreement, hreader_key]
    exact (document_key_agreement 2).symm
  obtain ⟨henclose, hencode, hsize⟩ := @greeting_enclosed writer.signing_key
  have hvalidate : ((greeting_signed writer.signing_key).headers library).validate library (some 1000) = .ok () :=
    Headers.validate_eq_ok_iff.mpr (greeting_signed_valid writer.signing_key)
  have hvalid : ((greeting_signed writer.signing_key).headers dagLibrary).Valid dagLibrary (some 1000) :=
    Headers.validate_eq_ok_iff.mp hvalidate
  have hpayload : (Outbox.from_transport wire reader.document false (did 2).base_id "ma/inbox/0.0.1").payload
      dagLibrary (some 1000) entropy_5 (greeting_signed writer.signing_key) =
        .ok (wireEnvelope (enclosed 2 (greeting_signed writer.signing_key))) := by
    rw [Outbox.payload_eq_enclose_for hvalid rfl greeting_not_broadcast, bind_eq_ok_iff]
    exact ⟨_, (enclose_for_key hagreement).trans henclose, hencode⟩
  obtain ⟨_, hreceive⟩ := hsend _ hpayload
  have hservice : System.Step dagLibrary (System.start reader.endpoint_id reader.encryption_key)
      (.service "ma/inbox/0.0.1") _ := .service _ _
  have hawaits : reader.Awaits "ma/inbox/0.0.1" "m" [.service "ma/inbox/0.0.1"] _ 1000 :=
    ⟨.single hservice, by decide, List.pairwise_singleton _ _, by simp [System.stream_clock],
      fun _ hentry => absurd hentry List.not_mem_nil⟩
  have hfresh : Fresh dagLibrary 1000 1000 4600 :=
    ⟨⟨1030, rfl, by decide⟩, .inr ⟨4630, rfl, by decide⟩⟩
  obtain ⟨_, inbox, hinbox, hreceives⟩ := hreceive _ _ 1000 hawaits hsize hfresh
  exact ⟨writer, reader, _, inbox, _, htarget, hinbox, hreceives⟩

end

end ma_core.iroh
