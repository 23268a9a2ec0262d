import MaCore.Ipfs.Reference

open rust
open ma_core.did ma_core.doc ma_core.msg ma_core.identity ma_core.kubo ma_core.reference

namespace ma_core.ipfs

/-- The key is the Ed25519 secret of this IPNS identifier. -/
def Derives (lib : Lib) (ipns_secret_key : Bytes) (ipns : String) : Prop :=
  ∃ secret : ByteArr 32, secret.val = ipns_secret_key ∧ ipns_from_secret lib secret = .ok ipns

/-- A run of the handler from this keystore that publishes. -/
def Publishes (lib : Lib) (clock : Clock) (kubo_url : String) (message_cbor : Bytes)
    (keys : Keystore) (response : IpfsPublishDidResponse) (keys' : Keystore) : Prop :=
  (handle_ipfs_publish lib clock kubo_url message_cbor).run.Exec (Keystore.env lib) keys
    (.ok response) keys'

/-- The request carries the key of the identity the response names. -/
def CarriesKey (lib : Lib) (clock : Clock) (message_cbor : Bytes) (response : IpfsPublishDidResponse) :
    Prop :=
  ∃ validated, validate_identity_publish_request lib clock message_cbor = .ok validated ∧
    response.did = some validated.document_did.id ∧
    Derives lib validated.ipns_secret_key validated.document_did.ipns

/-- The keystore has a key under the name of the document's, with its identifier. -/
def KeyPresent (lib : Lib) (keys : List KuboKey) (document : Document) (ipns : String) : Prop :=
  ∃ existing, keys.find? (fun k => k.name == ipns_key_name_for_document lib document) = some existing ∧
    trim existing.id = ipns

section
variable {lib : Lib} {clock : Clock} {kubo_url : String} {message_cbor : Bytes}
variable {keys keys' : Keystore} {α : Type}

theorem exec_await_ok {x : Publisher (Except String α)} {a : α} :
    (await x).run.Exec (Keystore.env lib) keys (.ok a) keys' ↔
      x.Exec (Keystore.env lib) keys (.ok a) keys' := by
  have hawait : (await x).run = x >>= fun reply => .ret (of_library id reply) := rfl
  rw [hawait, Prog.exec_bind]
  constructor
  · rintro ⟨reply, keys₁, hreply, hvalue, rfl⟩
    rw [eq_comm, of_library_eq_ok_iff] at hvalue
    rwa [hvalue] at hreply
  · intro hreply
    exact ⟨_, _, hreply, rfl, rfl⟩

theorem import_key_id {key_name : String} {key_bytes : Bytes} {imported : KuboKey}
    {keypair : Keypair} (hbytes : lib.keypair_to_protobuf_encoding keypair = .ok key_bytes)
    (hrun : (import_key kubo_url key_name key_bytes).Exec (Keystore.env lib) keys (.ok imported) keys') :
    imported.id = ipns_id lib keypair := by
  obtain ⟨_, _, hreply, ⟨⟩, rfl⟩ := hrun
  cases hreply with
  | imported _ _ _ _ _ _ _ _ hid => exact hid keypair hbytes
  | other _ _ hcall => cases hcall

/-- A key that is not in the keystore is imported only if it has the identifier. -/
theorem require_key_none_derives (hbase36 : lib.Base36Trims) {key_name ipns : String}
    {ipns_private_key : Bytes}
    (hrun : (require_key lib kubo_url key_name ipns ipns_private_key none).run.Exec
      (Keystore.env lib) keys (.ok ()) keys') : Derives lib ipns_private_key ipns := by
  unfold require_key at hrun
  simp only [Prog.exec_bind_ok, Prog.exec_lift_ok, exec_await_ok, ok_or_eq_ok_iff,
    of_library_eq_ok_iff, reject_if_eq_ok_iff] at hrun
  obtain ⟨_, _, _, raw_key, _, ⟨hraw, _⟩, keypair, _, ⟨hkeypair, _⟩, protobuf_key, _, ⟨hbytes, _⟩,
    imported, _, himported, hid, _⟩ := hrun
  have htrim : trim imported.id = imported.id := by
    rw [import_key_id hbytes himported]
    exact hbase36 _
  have hipns : imported.id = ipns := by simpa [htrim] using hid
  refine ⟨raw_key, (ByteArr.try_from_eq_some_iff.mp hraw).symm, ipns_from_secret_eq_ok_iff.mpr ?_⟩
  exact ⟨keypair, hkeypair, by rw [← hipns, import_key_id hbytes himported]⟩

/-- A key in the keystore is used if its identifier is the one of the document. -/
theorem require_key_some_iff {key_name ipns : String} {ipns_private_key : Bytes} {existing : KuboKey} :
    (require_key lib kubo_url key_name ipns ipns_private_key (some existing)).run.Exec
        (Keystore.env lib) keys (.ok ()) keys' ↔ trim existing.id = ipns ∧ keys' = keys := by
  unfold require_key
  rw [Prog.exec_lift_ok, reject_if_eq_ok_iff, bne_eq_false_iff_eq]

theorem exec_list_keys {listed : List KuboKey} :
    (list_keys kubo_url).Exec (Keystore.env lib) keys (.ok listed) keys' ↔
      listed = keys kubo_url ∧ keys' = keys := by
  constructor
  · rintro ⟨_, _, hreply, ⟨⟩, rfl⟩
    cases hreply with
    | listed _ => exact ⟨rfl, rfl⟩
    | other _ _ hcall => cases hcall
  · rintro ⟨rfl, rfl⟩
    exact ⟨_, _, .listed kubo_url, rfl, rfl⟩

/-- Kubo answers a call that is not about keys with any reply. -/
theorem exec_other {call : Call} {reply : call.Reply} (hcall : call.on_keys = false) :
    Prog.Exec (Keystore.env lib) (.issue call) keys reply keys :=
  ⟨reply, keys, .other call reply hcall, rfl, rfl⟩

section
variable {did_document ipns_private_key : Bytes} {document : Document} {document_did : Did}
variable {options : DidDocumentPublishOptions}

theorem ipns_key_name_for_document_eq (hdid : Did.try_from lib document.id = .ok document_did) :
    ipns_key_name_for_document lib document =
      ipns_key_name_for_parts lib [document_ma_type document] document_did.ipns := by
  unfold ipns_key_name_for_document
  rw [hdid]

/-- The key a document needs, with the keys that are there. -/
abbrev requireKey (lib : Lib) (kubo_url : String) (keys : List KuboKey) (document : Document)
    (ipns : String) (ipns_private_key : Bytes) : Attempt Unit :=
  require_key lib kubo_url (ipns_key_name_for_document lib document) ipns ipns_private_key
    (keys.find? fun k => k.name == ipns_key_name_for_document lib document)

/-- A document is published only with the key of its name in the keystore. -/
theorem publish_requires_key (hdocument : Document.decode lib did_document = .ok document)
    (hdid : Did.try_from lib document.id = .ok document_did) {published : PublishedDidDocument}
    (hrun : (publish_did_document_to_kubo lib kubo_url did_document ipns_private_key options).run.Exec
      (Keystore.env lib) keys (.ok published) keys') {key_name : String}
    (hname : key_name = ipns_key_name_for_parts lib
      (if options.key_parts.isEmpty then [document_ma_type document] else options.key_parts) document_did.ipns) :
    ∃ keys₁, (require_key lib kubo_url key_name document_did.ipns ipns_private_key
      ((keys kubo_url).find? fun k => k.name == key_name)).run.Exec (Keystore.env lib) keys (.ok ()) keys₁ := by
  subst hname
  unfold publish_did_document_to_kubo at hrun
  simp only [Prog.exec_bind_ok, Prog.exec_lift_ok, exec_await_ok, context, map_err_eq_ok_iff, exec_list_keys]
    at hrun
  obtain ⟨_, _, ⟨hdocument', rfl⟩, _, _, ⟨hdid', rfl⟩, _, _, ⟨rfl, rfl⟩, ⟨⟩, keys₁, hkey, _⟩ := hrun
  cases hdocument.symm.trans hdocument'
  cases hdid.symm.trans hdid'
  exact ⟨keys₁, hkey⟩

theorem name_publish_completes {key_name ipns cid : String} {ipns_options : IpnsPublishOptions}
    {left : Nat} {initial_backoff : Duration} :
    (name_publish_with_retry kubo_url key_name ipns cid ipns_options (left + 1) initial_backoff).Exec
      (Keystore.env lib) keys (.ok "") keys := by
  unfold name_publish_with_retry name_publish_attempts
  rw [Prog.exec_bind]
  exact ⟨.ok "", keys, exec_other rfl, rfl, rfl⟩

theorem confirm_pins_completes {pin_name cid : String} (hremote : options.remote_pin = none)
    (hoverwrite : options.overwrite = true) :
    (confirm_pins_and_schedule_cleanup kubo_url pin_name cid options).Exec (Keystore.env lib) keys
      (true, none) keys := by
  have hreplicate : replicate kubo_url cid options = .ret (none, none) := by
    simp only [replicate, hremote, Prog.pure_eq]
  unfold confirm_pins_and_schedule_cleanup
  rw [hreplicate, Prog.ret_bind]
  simp only [hoverwrite, if_true]
  rw [Prog.exec_bind]
  exact ⟨true, keys, exec_other rfl, rfl, rfl⟩

/-- With the key there, nothing the code checks keeps the document from being
    published. -/
theorem publish_completes (hdocument : Document.decode lib did_document = .ok document)
    (hdid : Did.try_from lib document.id = .ok document_did)
    (hkey : (requireKey lib kubo_url (keys kubo_url) document document_did.ipns
      ipns_private_key).run.Exec (Keystore.env lib) keys (.ok ()) keys') :
    ∃ published, (publish_did_document_to_kubo lib kubo_url did_document ipns_private_key
      DidDocumentPublishOptions.default).run.Exec (Keystore.env lib) keys (.ok published) keys' := by
  rw [requireKey, ipns_key_name_for_document_eq hdid] at hkey
  refine ⟨{
    cid := ""
    key_name := ipns_key_name_for_parts lib [document_ma_type document] document_did.ipns
    ipns_id := document_did.ipns
    local_pinned := true
    cleanup_scheduled := true
    remote_pin := none }, ?_⟩
  unfold publish_did_document_to_kubo
  simp only [Prog.exec_bind_ok, Prog.exec_lift_ok, Prog.exec_monadLift_ok, exec_await_ok, context,
    map_err_eq_ok_iff, exec_list_keys]
  exact ⟨document, keys, ⟨hdocument, rfl⟩, document_did, keys, ⟨hdid, rfl⟩, keys kubo_url, keys, ⟨rfl, rfl⟩,
    (), keys', hkey, "", keys', exec_other rfl, (), keys', exec_other rfl, "", keys',
    name_publish_completes, (true, none), keys', confirm_pins_completes rfl rfl, rfl, rfl⟩

/-- A request that publishes is valid, and its document names the identity. -/
theorem publishes_validated {response : IpfsPublishDidResponse}
    (hrun : Publishes lib clock kubo_url message_cbor keys response keys') :
    ∃ validated published,
      validate_identity_publish_request lib clock message_cbor = .ok validated ∧
      response.did = some validated.document_did.id ∧
      (publish_did_document_to_kubo lib kubo_url validated.document_bytes validated.ipns_secret_key
        DidDocumentPublishOptions.default).run.Exec (Keystore.env lib) keys (.ok published) keys' := by
  unfold Publishes handle_ipfs_publish at hrun
  simp only [Prog.exec_bind_ok, Prog.exec_lift_ok] at hrun
  obtain ⟨validated, _, ⟨hvalid, rfl⟩, published, _, hpublished, hresponse, rfl⟩ := hrun
  cases hresponse
  exact ⟨validated, published, hvalid, rfl, hpublished⟩

theorem publishes_of_published {validated : ValidatedIdentityPublish}
    {published : PublishedDidDocument}
    (hvalid : validate_identity_publish_request lib clock message_cbor = .ok validated)
    (hrun : (publish_did_document_to_kubo lib kubo_url validated.document_bytes
      validated.ipns_secret_key DidDocumentPublishOptions.default).run.Exec (Keystore.env lib) keys
      (.ok published) keys') :
    ∃ response, Publishes lib clock kubo_url message_cbor keys response keys' := by
  refine ⟨{
    ok := true
    message := "did document published via ma/ipfs/0.0.1"
    did := some validated.document_did.id
    cid := some published.cid }, ?_⟩
  unfold Publishes handle_ipfs_publish
  simp only [Prog.exec_bind_ok, Prog.exec_lift_ok]
  exact ⟨validated, keys, ⟨hvalid, rfl⟩, published, keys', hrun, rfl, rfl⟩

end

/-- A valid request is published where the keystore has its key. -/
theorem publishes_of_present {validated : ValidatedIdentityPublish}
    (hvalid : validate_identity_publish_request lib clock message_cbor = .ok validated)
    (hpresent : KeyPresent lib (keys kubo_url) validated.document validated.document_did.ipns) :
    ∃ response, Publishes lib clock kubo_url message_cbor keys response keys := by
  obtain ⟨existing, hfind, hid⟩ := hpresent
  obtain ⟨message, _, hmessage⟩ := bind_eq_ok_iff.mp hvalid
  have hmessage := validate_identity_publish_message_eq_ok_iff.mp hmessage
  have hkey : (requireKey lib kubo_url (keys kubo_url) validated.document validated.document_did.ipns
      validated.ipns_secret_key).run.Exec (Keystore.env lib) keys (.ok ()) keys := by
    rw [requireKey, hfind]
    exact require_key_some_iff.mpr ⟨hid, rfl⟩
  obtain ⟨published, hpublished⟩ := publish_completes hmessage.document hmessage.document_did hkey
  exact publishes_of_published hvalid hpublished

/-- There it is published with any key. -/
theorem publishes_foreign_key {validated : ValidatedIdentityPublish}
    (hvalid : validate_identity_publish_request lib clock message_cbor = .ok validated)
    (hpresent : KeyPresent lib (keys kubo_url) validated.document validated.document_did.ipns)
    (hforeign : ¬ Derives lib validated.ipns_secret_key validated.document_did.ipns) :
    ∃ response keys', Publishes lib clock kubo_url message_cbor keys response keys' ∧
      ¬ CarriesKey lib clock message_cbor response := by
  obtain ⟨response, hrun⟩ := publishes_of_present hvalid hpresent
  refine ⟨response, keys, hrun, ?_⟩
  rintro ⟨validated', hvalid', _, hderives⟩
  cases hvalid.symm.trans hvalid'
  exact hforeign hderives

/-- Every run that publishes a request carries the key of the identity it names
    exactly if it does so where the keystore has that key already: only a key
    that is imported is checked. -/
theorem published_key_carried_iff (hbase36 : lib.Base36Trims) :
    (∀ response keys', Publishes lib clock kubo_url message_cbor keys response keys' →
      CarriesKey lib clock message_cbor response) ↔
    ∀ validated, validate_identity_publish_request lib clock message_cbor = .ok validated →
      KeyPresent lib (keys kubo_url) validated.document validated.document_did.ipns →
      Derives lib validated.ipns_secret_key validated.document_did.ipns := by
  constructor
  · intro hcarries validated hvalid hpresent
    by_contra hforeign
    obtain ⟨response, keys', hrun, hnot⟩ := publishes_foreign_key hvalid hpresent hforeign
    exact hnot (hcarries response keys' hrun)
  · intro hpresent response keys' hrun
    obtain ⟨validated, published, hvalid, hdid, hpublished⟩ := publishes_validated hrun
    obtain ⟨message, _, hmessage⟩ := bind_eq_ok_iff.mp hvalid
    have hmessage := validate_identity_publish_message_eq_ok_iff.mp hmessage
    refine ⟨validated, hvalid, hdid, ?_⟩
    obtain ⟨keys₁, hkey⟩ := publish_requires_key hmessage.document hmessage.document_did hpublished
      (ipns_key_name_for_document_eq hmessage.document_did)
    cases hfind : (keys kubo_url).find? fun k =>
        k.name == ipns_key_name_for_document lib validated.document with
    | none =>
      rw [hfind] at hkey
      exact require_key_none_derives hbase36 hkey
    | some existing =>
      rw [hfind] at hkey
      exact hpresent validated hvalid ⟨existing, hfind, (require_key_some_iff.mp hkey).1⟩

end

/-- The keystore once the first identity has published a document. -/
def published : Keystore := fun _ => [⟨ipns_key_name_for_parts library ["unknown"] (ipns 1), ipns 1⟩]

theorem published_present (signer : UInt8) :
    KeyPresent library (published "http://kubo") (claimed 1 signer) (ipns 1) := by
  have hdid : Did.try_from library (claimed 1 signer).id = .ok ⟨ipns 1, none⟩ := did_try_from 1
  have htype : document_ma_type (claimed 1 signer) = "unknown" := rfl
  have hname : ipns_key_name_for_document library (claimed 1 signer) =
      ipns_key_name_for_parts library ["unknown"] (ipns 1) := by
    rw [ipns_key_name_for_document_eq hdid, htype]
  exact ⟨_, List.find?_cons_of_pos (beq_iff_eq.mpr hname.symm), ipns_trim 1⟩

/-- There its next request is published for the key it carries; in a keystore
    without the key nothing is published for the key of another. -/
theorem published_key_carried_iff_owner :
    (∃ response, Publishes library (some 1000) "http://kubo" (wire (publishing 1 own_request)) published response
        published ∧ CarriesKey library (some 1000) (wire (publishing 1 own_request)) response) ∧
      ∀ response keys', Publishes library (some 1000) "http://kubo" (wire forged) (fun _ => []) response
        keys' → CarriesKey library (some 1000) (wire forged) response := by
  have hvalid := @publishing_valid 1 own_request rfl own_request_size
  have hderives : Derives library own_request.ipns_secret_key (ipns 1) := ⟨secret 1, rfl, ipns_from_secret_eq 1⟩
  generalize wire (publishing 1 own_request) = request_cbor at hvalid ⊢
  have hcarries := (@published_key_carried_iff library (some 1000) "http://kubo" request_cbor published
    base36Trims).mpr fun validated hvalidated _ => by
      rw [← Except.ok.inj (hvalid.symm.trans hvalidated)]
      exact hderives
  have habsent (document : Document) (ipns : String) : ¬ KeyPresent library [] document ipns := by
    rintro ⟨_, hfind, _⟩
    cases hfind
  obtain ⟨response, hrun⟩ := publishes_of_present hvalid (published_present 1)
  refine ⟨⟨response, hrun, hcarries response _ hrun⟩, ?_⟩
  exact (published_key_carried_iff base36Trims).mpr fun _ _ hpresent => absurd hpresent (habsent _ _)

/-- The second identity then publishes a document under the name of the first,
    with its own key. -/
theorem foreign_key_published :
    ∃ response keys', Publishes library (some 1000) "http://kubo" (wire forged) published response keys' ∧
      ¬ CarriesKey library (some 1000) (wire forged) response := by
  have hforeign : ¬ Derives library forgedValidated.ipns_secret_key forgedValidated.document_did.ipns := by
    rintro ⟨key, hsecret, hipns⟩
    have hkey : key = secret 2 := Subtype.ext hsecret
    rw [hkey, ipns_from_secret_eq] at hipns
    exact absurd (ipns_injective (Except.ok.inj hipns)) (by decide)
  exact publishes_foreign_key forged_valid (published_present 2) hforeign

end ma_core.ipfs
