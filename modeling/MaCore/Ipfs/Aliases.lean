import MaCore.Base.Trace
import MaCore.Base.Transition
import MaCore.Ipfs.KeyNames
import MaCore.Ipfs.Ownership

open rust transition
open ma_core.did ma_core.doc ma_core.identity ma_core.kubo ma_core.reference

namespace ma_core.ipfs

/-- A call of `publish_did_document_to_kubo`. -/
structure PublishCall where
  did_document : Bytes
  ipns_private_key : Bytes
  options : DidDocumentPublishOptions

/-- The call is for this document and the IPNS identifier it names. -/
structure PublishCall.About (lib : Lib) (call : PublishCall) (document : Document) (ipns : String) : Prop where
  decode : Document.decode lib call.did_document = .ok document
  did : ∃ did, Did.try_from lib document.id = .ok did ∧ did.ipns = ipns

/-- The name the call gives the key of its document. -/
def PublishCall.alias (lib : Lib) (call : PublishCall) (document : Document) (ipns : String) : String :=
  ipns_key_name_for_parts lib
    (if call.options.key_parts.isEmpty then [document_ma_type document] else call.options.key_parts) ipns

/-- The key the call finds under that name. -/
def PublishCall.existing (lib : Lib) (call : PublishCall) (keys : List KuboKey) (document : Document)
    (ipns : String) : Option KuboKey :=
  keys.find? fun k => k.name == call.alias lib document ipns

/-- Calls on one Kubo, one after the other, each with the result it has. -/
structure Step (lib : Lib) (kubo_url : String) (keys : Keystore)
    (event : PublishCall × Result String PublishedDidDocument) (keys' : Keystore) : Prop where
  exec : (publish_did_document_to_kubo lib kubo_url event.1.did_document event.1.ipns_private_key
    event.1.options).run.Exec (Keystore.env lib) keys event.2 keys'

/-- Under a name made for one of these identifiers there is only a key that has it. -/
def Sound (lib : Lib) (ids : Set String) (keys : List KuboKey) : Prop :=
  ∀ key ∈ keys, ∀ parts, ∀ ipns ∈ ids, key.name = ipns_key_name_for_parts lib parts ipns → trim key.id = ipns

/-- The names made for these identifiers tell them apart. -/
def DistinctAliases (lib : Lib) (ids : Set String) : Prop :=
  ∀ parts parts', ∀ ipns ∈ ids, ∀ ipns' ∈ ids,
    ipns_key_name_for_parts lib parts ipns = ipns_key_name_for_parts lib parts' ipns' → ipns = ipns'

/-- The call finds the key it needs, or its private key is no key of another identifier. -/
def PublishCall.Fits (lib : Lib) (keys : List KuboKey) (call : PublishCall) : Prop :=
  ∀ document ipns, call.About lib document ipns → call.existing lib keys document ipns = none →
    ∀ secret id, secret.val = call.ipns_private_key → ipns_from_secret lib secret = .ok id → id = ipns

/-- The two checks that reject a call for the identifier of a key. -/
inductive PublishCall.Mismatch (lib : Lib) (kubo_url : String) (keys : Keystore) (call : PublishCall)
    (document : Document) (ipns : String) : Prop
  | existing (key : KuboKey) (hexisting : call.existing lib (keys kubo_url) document ipns = some key)
    (hid : trim key.id ≠ ipns)
  | imported (secret : ByteArr 32) (keypair : Keypair) (protobuf_key : Bytes) (key : KuboKey) (keys' : Keystore)
    (hexisting : call.existing lib (keys kubo_url) document ipns = none)
    (hsecret : secret.val = call.ipns_private_key)
    (hkeypair : lib.keypair_ed25519_from_bytes secret = .ok keypair)
    (hbytes : lib.keypair_to_protobuf_encoding keypair = .ok protobuf_key)
    (himport : (import_key kubo_url (call.alias lib document ipns) protobuf_key).Exec (Keystore.env lib) keys
      (.ok key) keys')
    (hid : trim key.id ≠ ipns)

section
variable {lib : Lib} {kubo_url : String} {keys keys' : Keystore} {ids : Set String} {call : PublishCall}
  {document : Document} {ipns : String} {I : Keystore → Prop}

/-! Everything after the key leaves the keystore alone. -/

theorem other_preserves {α : Type} {other : Call} {k : other.Reply → Publisher α} (hother : other.on_keys = false)
    (hk : ∀ reply, (k reply).Preserves (Keystore.env lib) I) :
    Prog.Preserves (Keystore.env lib) I (.call other k) := by
  apply Prog.Preserves.call (fun _ _ => trivial) _ hk
  intro keys reply keys' hkeys hreply
  cases hreply with
  | other _ _ _ => exact hkeys
  | listed | list_failed | imported | import_failed | import_failed_late => cases hother

theorem publisher_preserves {α : Type} (p : Io α) : Prog.Preserves (Keystore.env lib) I p.publisher := by
  induction p with
  | ret a => exact .ret a
  | call rpc k ih => exact other_preserves rfl ih

theorem await_preserves {α : Type} {x : Publisher (Except String α)}
    (hx : x.Preserves (Keystore.env lib) I) : (await x).run.Preserves (Keystore.env lib) I :=
  hx.bind fun _ => .ret _

theorem issue_preserves {other : Call} (hother : other.on_keys = false) :
    Prog.Preserves (Keystore.env lib) I (.issue other) :=
  other_preserves hother fun _ => .ret _

theorem verify_name_target_preserves {cid : String} :
    (verify_name_target_after_error kubo_url ipns cid).Preserves (Keystore.env lib) I := by
  apply Prog.Preserves.bind (issue_preserves rfl)
  intro reply
  cases reply with
  | error e => exact .ret _
  | ok resolved =>
    dsimp only
    split <;> exact .ret _

theorem name_publish_preserves {key_name cid : String} {options : IpnsPublishOptions} {attempts : Nat}
    {initial_backoff : Duration} :
    (name_publish_with_retry kubo_url key_name ipns cid options attempts initial_backoff).Preserves
      (Keystore.env lib) I := by
  have hattempts (left : Nat) (fib_prev fib_curr : Duration) :
      (name_publish_attempts kubo_url key_name ipns cid options attempts left fib_prev fib_curr).Preserves
        (Keystore.env lib) I := by
    induction left generalizing fib_prev fib_curr with
    | zero =>
      unfold name_publish_attempts
      apply Prog.Preserves.bind (issue_preserves rfl)
      intro reply
      cases reply with
      | ok value => exact .ret _
      | error err =>
        apply verify_name_target_preserves.bind
        intro target
        cases target <;> exact .ret _
    | succ left ih =>
      unfold name_publish_attempts
      apply Prog.Preserves.bind (issue_preserves rfl)
      intro reply
      cases reply with
      | ok value => exact .ret _
      | error err =>
        apply verify_name_target_preserves.bind
        intro target
        cases target with
        | ok value => exact .ret _
        | error _ => exact (issue_preserves rfl).bind fun _ => ih _ _
  cases attempts with
  | zero => exact .ret _
  | succ left => exact hattempts left _ _

theorem confirm_pins_preserves {pin_name cid : String} {options : DidDocumentPublishOptions} :
    (confirm_pins_and_schedule_cleanup kubo_url pin_name cid options).Preserves (Keystore.env lib) I := by
  have hattempts (remote : RemotePinOptions) (left : Nat) (previous_delay delay : Duration) :
      (remote_pin_attempts kubo_url remote cid left previous_delay delay).Preserves (Keystore.env lib) I := by
    induction left generalizing previous_delay delay with
    | zero =>
      unfold remote_pin_attempts
      apply (publisher_preserves _).bind
      intro reply
      cases reply <;> exact .ret _
    | succ left ih =>
      unfold remote_pin_attempts
      apply (publisher_preserves _).bind
      intro reply
      cases reply with
      | ok _ => exact .ret _
      | error error => exact (issue_preserves rfl).bind fun _ => ih _ _
  have hreplicate : (replicate kubo_url cid options).Preserves (Keystore.env lib) I := by
    unfold replicate remote_pin_with_retry
    cases options.remote_pin with
    | none => exact .ret _
    | some remote =>
      apply Prog.Preserves.bind
      · cases options.attempts with
        | zero => exact .ret _
        | succ left => exact hattempts remote left _ _
      · intro result
        cases result <;> exact .ret _
  apply hreplicate.bind
  rintro ⟨remote_pin, remote_service⟩
  apply Prog.Preserves.bind _ fun _ => .ret _
  split
  · exact issue_preserves rfl
  · exact .ret _

/-! The key itself. -/

/-- What an import leaves, whatever it replies: at most one key more, with the
    identifier of its key pair. -/
theorem import_sound {key_name : String} {keypair : Keypair} {protobuf_key : Bytes}
    {reply : Except String KuboKey} (hsound : Sound lib ids (keys kubo_url))
    (hbytes : lib.keypair_to_protobuf_encoding keypair = .ok protobuf_key)
    (hfits : ∀ parts, ∀ ipns ∈ ids, key_name = ipns_key_name_for_parts lib parts ipns →
      trim (ipns_id lib keypair) = ipns)
    (hreply : Keystore.Replies lib keys (.import_key kubo_url key_name protobuf_key) reply keys') :
    Sound lib ids (keys' kubo_url) := by
  have himported {key : KuboKey} (hdone : Keystore.Replies lib keys (.import_key kubo_url key_name protobuf_key)
      (.ok key) keys') : Sound lib ids (keys' kubo_url) := by
    cases hdone with
    | other _ _ hcall => cases hcall
    | imported _ _ _ _ before after hkeys hname hid =>
      intro other hmem parts ipns hipns hother
      rw [Keystore.set, if_pos rfl] at hmem
      obtain hbefore | hmem := List.mem_append.mp hmem
      · exact hsound other (hkeys ▸ List.mem_append_left _ hbefore) parts ipns hipns hother
      · obtain rfl | hafter := List.mem_cons.mp hmem
        · rw [hid keypair hbytes]
          exact hfits parts ipns hipns (hname.symm.trans hother)
        · exact hsound other (hkeys ▸ List.mem_append_right _ hafter) parts ipns hipns hother
  cases hreply with
  | imported _ _ _ key before after hkeys hname hid =>
    exact himported (.imported _ _ _ key before after hkeys hname hid)
  | import_failed _ _ _ _ => exact hsound
  | import_failed_late _ _ _ _ key _ hdone => exact himported hdone
  | other _ _ hcall => cases hcall

/-- The import comes before the check of what was imported, so it is the key
    alone that decides whether the keystore stays sound. -/
theorem require_key_sound {key_name : String} {ipns_private_key : Bytes} {existing : Option KuboKey}
    (hsound : Sound lib ids (keys kubo_url))
    (hfits : existing = none → ∀ secret keypair, secret.val = ipns_private_key →
      lib.keypair_ed25519_from_bytes secret = .ok keypair → ∀ parts, ∀ ipns ∈ ids,
        key_name = ipns_key_name_for_parts lib parts ipns → trim (ipns_id lib keypair) = ipns) :
    (require_key lib kubo_url key_name ipns ipns_private_key existing).run.wp (Keystore.env lib)
      (fun keys' _ => Sound lib ids (keys' kubo_url)) keys := by
  cases existing with
  | some existing => exact hsound
  | none =>
    apply Prog.wp_lift_bind _ fun _ _ => hsound
    intro _ _
    apply Prog.wp_lift_bind _ fun _ _ => hsound
    intro secret hsecret
    apply Prog.wp_lift_bind _ fun _ _ => hsound
    intro keypair hkeypair
    apply Prog.wp_lift_bind _ fun _ _ => hsound
    intro protobuf_key hbytes
    rw [ok_or_eq_ok_iff, ByteArr.try_from_eq_some_iff] at hsecret
    rw [of_library_eq_ok_iff] at hkeypair hbytes
    have hkey := hfits rfl secret keypair hsecret.symm hkeypair
    rw [Prog.wp_bind_ok]
    refine ⟨trivial, fun reply keys' hreply => ?_⟩
    have himport := import_sound hsound hbytes hkey hreply
    cases reply with
    | ok imported => exact himport
    | error text => exact himport

theorem list_keys_wp {Q : Keystore → Result String (List KuboKey) → Prop} (hok : Q keys (.ok (keys kubo_url)))
    (herror : ∀ e, Q keys (.error e)) : (await (list_keys kubo_url)).run.wp (Keystore.env lib) Q keys := by
  refine ⟨trivial, fun reply keys' hreply => ?_⟩
  cases hreply with
  | listed _ => exact hok
  | list_failed _ _ => exact herror _
  | other _ _ hcall => cases hcall

/-- One call: the keystore stays sound if the call brings no key of another identifier. -/
theorem step_sound (hbase36 : lib.Base36Trims) (hdistinct : DistinctAliases lib ids)
    {event : PublishCall × Result String PublishedDidDocument}
    (hids : ∀ document ipns, event.1.About lib document ipns → ipns ∈ ids)
    (hsound : Sound lib ids (keys kubo_url)) (hstep : Step lib kubo_url keys event keys')
    (hfits : event.1.Fits lib (keys kubo_url)) : Sound lib ids (keys' kubo_url) := by
  apply hstep.exec.post (Q := fun keys' _ => Sound lib ids (keys' kubo_url))
  apply Prog.wp_lift_bind _ fun _ _ => hsound
  intro document hdocument
  apply Prog.wp_lift_bind _ fun _ _ => hsound
  intro document_did hdid
  rw [context, map_err_eq_ok_iff] at hdocument hdid
  have habout : event.1.About lib document document_did.ipns := ⟨hdocument, document_did, hdid, rfl⟩
  rw [Prog.wp_bind_ok]
  apply list_keys_wp _ fun _ => hsound
  dsimp only
  rw [Prog.wp_bind_ok]
  refine Prog.wp_mono (require_key_sound hsound ?_) ?_
  · intro habsent secret keypair hsecret hkeypair parts ipns hipns halias
    have hid := hfits document document_did.ipns habout habsent secret (ipns_id lib keypair) hsecret
      (ipns_from_secret_eq_ok_iff.mpr ⟨keypair, hkeypair, rfl⟩)
    have hsame := hdistinct _ _ _ (hids _ _ habout) _ hipns halias
    have htrim : trim (ipns_id lib keypair) = ipns_id lib keypair := hbase36 _
    rw [htrim, hid, hsame]
  · intro keys₁ result hsound₁
    cases result with
    | error e => exact hsound₁
    | ok _ =>
      apply Prog.Preserves.bind_ok (I := fun keys => Sound lib ids (keys kubo_url))
        (await_preserves (issue_preserves rfl)) _ keys₁ hsound₁
      intro published_cid
      apply Prog.Preserves.bind_ok (await_preserves (publisher_preserves _))
      intro _
      apply Prog.Preserves.bind_ok (await_preserves name_publish_preserves)
      intro _
      apply Prog.Preserves.bind_ok (confirm_pins_preserves.bind fun _ => .ret _)
      intro _
      exact .ret _

/-- In a sound keystore the key of the document is never the wrong one. -/
theorem no_mismatch (hbase36 : lib.Base36Trims) (hsound : Sound lib ids (keys kubo_url)) (hipns : ipns ∈ ids)
    (hderives : Derives lib call.ipns_private_key ipns) : ¬ call.Mismatch lib kubo_url keys document ipns := by
  intro hmismatch
  cases hmismatch with
  | existing key hexisting hid =>
    have hname := List.find?_some hexisting
    exact hid (hsound key (List.mem_of_find?_eq_some hexisting) _ ipns hipns (beq_iff_eq.mp hname))
  | imported secret keypair protobuf_key key keys' hexisting hsecret hkeypair hbytes himport hid =>
    obtain ⟨secret', hsecret', hipns'⟩ := hderives
    obtain rfl : secret' = secret := Subtype.ext (hsecret'.trans hsecret.symm)
    obtain ⟨keypair', hkeypair', rfl⟩ := ipns_from_secret_eq_ok_iff.mp hipns'
    cases hkeypair.symm.trans hkeypair'
    have htrim : trim (ipns_id lib keypair) = ipns_id lib keypair := hbase36 _
    rw [import_key_id hbytes himport, htrim] at hid
    exact hid rfl

/-- One of the two errors of `require_key` about the identifier of a key. -/
def IdError (key_name document_ipns_id text : String) : Prop :=
  ∃ id, text = "existing key '" ++ key_name ++ "' has IPNS id '" ++ id ++ "' but document DID IPNS is '" ++
      document_ipns_id ++ "'" ∨
    text = "imported key IPNS id '" ++ id ++ "' does not match document DID IPNS '" ++ document_ipns_id ++ "'"

/-- Kubo itself fails none of the imports. -/
def NoImportFailed (events : List (Σ call, Call.Reply call)) : Prop :=
  ∀ kubo_url key_name key_bytes text, ⟨.import_key kubo_url key_name key_bytes, .error text⟩ ∉ events

/-- The other errors of `require_key` read differently. -/
theorem IdError.start {key_name text : String} (herror : IdError key_name ipns text) :
    text.toList.take 2 = ['e', 'x'] ∨ text.toList.take 2 = ['i', 'm'] := by
  obtain ⟨id, rfl | rfl⟩ := herror
  · exact .inl (by simp)
  · exact .inr (by simp)

theorem trace_import_iff {key_name : String} {key_bytes : Bytes} {events : List (Σ call, Call.Reply call)}
    {result : Result String KuboKey} :
    Prog.Trace (await (import_key kubo_url key_name key_bytes)).run events result ↔
      ∃ reply, events = [⟨.import_key kubo_url key_name key_bytes, reply⟩] ∧ result = of_library id reply := by
  refine Prog.trace_issue_bind_iff.trans (exists_congr fun reply => ?_)
  constructor
  · rintro ⟨rest, rfl, hrest⟩
    obtain ⟨rfl, rfl⟩ := Prog.trace_ret_iff.mp hrest
    exact ⟨rfl, rfl⟩
  · rintro ⟨rfl, rfl⟩
    exact ⟨[], rfl, .ret _⟩

/-- A key that is there is refused for its identifier alone. -/
theorem existing_refused_iff {key : KuboKey} {key_name : String} {ipns_private_key : Bytes}
    {events : List (Σ call, Call.Reply call)} {text : String} :
    Prog.Trace (require_key lib kubo_url key_name ipns ipns_private_key (some key)).run events (Err text) ↔
      events = [] ∧ trim key.id ≠ ipns ∧ "existing key '" ++ key_name ++ "' has IPNS id '" ++ key.id ++
        "' but document DID IPNS is '" ++ ipns ++ "'" = text := by
  refine Prog.trace_lift_iff.trans (and_congr_right fun _ => ?_)
  rw [eq_comm, reject_if_eq_err_iff, bne_iff_ne]

/-- A key that is imported is refused for the identifier Kubo replies. -/
theorem imported_refused {key_name : String} {ipns_private_key : Bytes}
    {events : List (Σ call, Call.Reply call)} {text : String}
    (htrace : Prog.Trace (require_key lib kubo_url key_name ipns ipns_private_key none).run events (Err text))
    (hanswered : NoImportFailed events) (herror : IdError key_name ipns text) :
    ∃ secret : ByteArr 32, ∃ keypair protobuf_key key, secret.val = ipns_private_key ∧
      lib.keypair_ed25519_from_bytes secret = .ok keypair ∧
      lib.keypair_to_protobuf_encoding keypair = .ok protobuf_key ∧
      events = [⟨.import_key kubo_url key_name protobuf_key, .ok key⟩] ∧ trim key.id ≠ ipns := by
  have hother {start : List Char} (hstart : text.toList.take 2 = start) :
      start = ['e', 'x'] ∨ start = ['i', 'm'] := hstart ▸ herror.start
  unfold require_key at htrace
  obtain ⟨_, _, htrace⟩ | ⟨_, hempty, _, ⟨⟩⟩ := Prog.trace_lift_bind_iff.mp htrace
  swap
  · obtain ⟨-, rfl⟩ := reject_if_eq_err_iff.mp hempty
    exact absurd (@hother ['i', 'p'] (by simp)) (by decide)
  obtain ⟨secret, hsecret, htrace⟩ | ⟨_, hlength, _, ⟨⟩⟩ := Prog.trace_lift_bind_iff.mp htrace
  swap
  · obtain ⟨-, rfl⟩ := ok_or_eq_err_iff.mp hlength
    exact absurd (@hother ['i', 'p'] (by simp)) (by decide)
  obtain ⟨keypair, hkeypair, htrace⟩ | ⟨_, hinvalid, _, ⟨⟩⟩ := Prog.trace_lift_bind_iff.mp htrace
  swap
  · obtain ⟨_, -, rfl⟩ := of_library_eq_err_iff.mp hinvalid
    exact absurd (@hother ['i', 'n'] (by simp)) (by decide)
  obtain ⟨protobuf_key, hbytes, htrace⟩ | ⟨_, hinvalid, _, ⟨⟩⟩ := Prog.trace_lift_bind_iff.mp htrace
  swap
  · obtain ⟨_, -, rfl⟩ := of_library_eq_err_iff.mp hinvalid
    exact absurd (@hother ['f', 'a'] (by simp)) (by decide)
  rw [ok_or_eq_ok_iff, ByteArr.try_from_eq_some_iff] at hsecret
  rw [of_library_eq_ok_iff] at hkeypair hbytes
  obtain ⟨before, after, key, rfl, himport, hcheck⟩ | ⟨_, hfailed, ⟨⟩⟩ := Prog.trace_run_bind_iff.mp htrace
  · obtain ⟨rfl, hresult⟩ := Prog.trace_lift_iff.mp hcheck
    obtain ⟨hid, -⟩ := reject_if_eq_err_iff.mp hresult.symm
    refine ⟨secret, keypair, protobuf_key, key, hsecret.symm, hkeypair, hbytes, ?_, bne_iff_ne.mp hid⟩
    obtain ⟨reply, rfl, hreply⟩ := trace_import_iff.mp himport
    rw [eq_comm, of_library_eq_ok_iff] at hreply
    rw [hreply, List.append_nil]
  · obtain ⟨reply, rfl, hreply⟩ := trace_import_iff.mp hfailed
    obtain ⟨cause, hcause, -⟩ := of_library_eq_err_iff.mp hreply.symm
    rw [hcause] at hanswered
    exact absurd (List.mem_singleton.mpr rfl) (hanswered _ _ _ _)

/-- The key is imported, and what Kubo replies is only then checked. -/
theorem import_then_check {secret : ByteArr 32} {keypair : Keypair} {protobuf_key : Bytes} {key_name : String}
    {ipns_private_key : Bytes} (hsecret : secret.val = ipns_private_key)
    (hkeypair : lib.keypair_ed25519_from_bytes secret = .ok keypair)
    (hbytes : lib.keypair_to_protobuf_encoding keypair = .ok protobuf_key) (reply : Except String KuboKey) :
    Prog.Trace (require_key lib kubo_url key_name ipns ipns_private_key none).run
      [⟨.import_key kubo_url key_name protobuf_key, reply⟩]
      (of_library id reply >>= fun key => reject_if (trim key.id != ipns)
        ("imported key IPNS id '" ++ key.id ++ "' does not match document DID IPNS '" ++ ipns ++ "'")) := by
  have hsome : ipns_private_key.isEmpty = false := by
    rw [← hsecret]
    exact List.isEmpty_eq_false_iff.mpr (List.ne_nil_of_length_eq_add_one secret.length_val)
  unfold require_key
  refine Prog.trace_lift_bind_iff.mpr (.inl ⟨(), reject_if_eq_ok_iff.mpr hsome, ?_⟩)
  refine Prog.trace_lift_bind_iff.mpr (.inl
    ⟨secret, ok_or_eq_ok_iff.mpr (ByteArr.try_from_eq_some_iff.mpr hsecret.symm), ?_⟩)
  refine Prog.trace_lift_bind_iff.mpr (.inl ⟨keypair, of_library_eq_ok_iff.mpr hkeypair, ?_⟩)
  refine Prog.trace_lift_bind_iff.mpr (.inl ⟨protobuf_key, of_library_eq_ok_iff.mpr hbytes, ?_⟩)
  have himport := (@trace_import_iff kubo_url key_name protobuf_key _ _).mpr ⟨reply, rfl, rfl⟩
  cases reply with
  | ok key =>
    exact Prog.trace_run_bind_iff.mpr (.inl ⟨_, [], key, (List.append_nil _).symm, himport,
      Prog.trace_lift_iff.mpr ⟨rfl, rfl⟩⟩)
  | error text => exact Prog.trace_run_bind_iff.mpr (.inr ⟨_, himport, rfl⟩)

/-- With no import failing at Kubo itself, `require_key` refuses a call with one of
    its errors about an identifier exactly if there is a mismatch. -/
theorem PublishCall.mismatch_iff_refused :
    call.Mismatch lib kubo_url keys document ipns ↔
      ∃ events text keys', Prog.Trace (require_key lib kubo_url (call.alias lib document ipns) ipns
          call.ipns_private_key (call.existing lib (keys kubo_url) document ipns)).run events (Err text) ∧
        (Keystore.env lib).Replied keys events keys' ∧ NoImportFailed events ∧
        IdError (call.alias lib document ipns) ipns text := by
  constructor
  · rintro (⟨key, hexisting, hid⟩ | ⟨secret, keypair, protobuf_key, key, keys', hexisting, hsecret, hkeypair, hbytes,
      himport, hid⟩)
    · rw [hexisting]
      exact ⟨[], _, keys, existing_refused_iff.mpr ⟨rfl, hid, rfl⟩, .nil keys, fun _ _ _ _ => List.not_mem_nil,
        key.id, .inl rfl⟩
    · obtain ⟨_, _, hreply, ⟨⟩, rfl⟩ := himport
      rw [hexisting]
      refine ⟨[⟨.import_key kubo_url (call.alias lib document ipns) protobuf_key, .ok key⟩], _, _, ?_,
        .cons hreply (.nil _), ?_, key.id, .inr rfl⟩
      · have htrace := @import_then_check lib kubo_url ipns _ _ _ (call.alias lib document ipns) _ hsecret hkeypair
          hbytes (.ok key)
        rwa [of_library, ok_bind, reject_if, if_pos (bne_iff_ne.mpr hid)] at htrace
      · intro _ _ _ _ hmem
        cases List.mem_singleton.mp hmem
  · rintro ⟨events, text, keys', htrace, hreplied, hanswered, herror⟩
    cases hexisting : call.existing lib (keys kubo_url) document ipns with
    | some key =>
      rw [hexisting] at htrace
      exact .existing key hexisting (existing_refused_iff.mp htrace).2.1
    | none =>
      rw [hexisting] at htrace
      obtain ⟨secret, keypair, protobuf_key, key, hsecret, hkeypair, hbytes, rfl, hid⟩ :=
        imported_refused htrace hanswered herror
      have himport := Prog.exec_iff_trace.mpr ⟨_, Prog.trace_issue_iff.mpr rfl, hreplied⟩
      exact .imported secret keypair protobuf_key key keys' hexisting hsecret hkeypair hbytes himport hid

/-- A call that finds the wrong key publishes nothing. -/
theorem existing_mismatch_fails (habout : call.About lib document ipns) {key : KuboKey}
    (hexisting : call.existing lib (keys kubo_url) document ipns = some key) (hid : trim key.id ≠ ipns)
    (published : PublishedDidDocument) : ¬ Step lib kubo_url keys (call, .ok published) keys' := by
  intro hstep
  obtain ⟨hdocument, document_did, hdid, rfl⟩ := habout
  obtain ⟨keys₁, hkey⟩ := publish_requires_key hdocument hdid hstep.exec rfl
  rw [PublishCall.existing, PublishCall.alias] at hexisting
  rw [hexisting] at hkey
  exact hid (require_key_some_iff.mp hkey).1

/-- The call finds no key, and its private key is this one, which its encoding
    identifies. -/
structure PublishCall.Imports (lib : Lib) (keys : List KuboKey) (call : PublishCall) (document : Document)
    (ipns : String) (keypair : Keypair) : Prop where
  absent : call.existing lib keys document ipns = none
  secret : ∃ secret : ByteArr 32, secret.val = call.ipns_private_key ∧
    lib.keypair_ed25519_from_bytes secret = .ok keypair
  encoding : ∃ protobuf_key, lib.keypair_to_protobuf_encoding keypair = .ok protobuf_key ∧
    ∀ keypair', lib.keypair_to_protobuf_encoding keypair' = .ok protobuf_key →
      ipns_id lib keypair' = ipns_id lib keypair

/-- The keystore with the key added under the name the call gives it. -/
def PublishCall.imported (lib : Lib) (kubo_url : String) (keys : Keystore) (call : PublishCall)
    (document : Document) (ipns : String) (keypair : Keypair) : Keystore :=
  keys.set kubo_url (⟨call.alias lib document ipns, ipns_id lib keypair⟩ :: keys kubo_url)

/-- Kubo carries the import out, and replies with the key or with an error. -/
theorem require_key_imports {keypair : Keypair}
    (himports : call.Imports lib (keys kubo_url) document ipns keypair) {reply : Except String KuboKey}
    (hreply : ∀ key, reply = .ok key → key = ⟨call.alias lib document ipns, ipns_id lib keypair⟩) :
    (require_key lib kubo_url (call.alias lib document ipns) ipns call.ipns_private_key
      (call.existing lib (keys kubo_url) document ipns)).run.Exec (Keystore.env lib) keys
      (of_library id reply >>= fun key => reject_if (trim key.id != ipns)
        ("imported key IPNS id '" ++ key.id ++ "' does not match document DID IPNS '" ++ ipns ++ "'"))
      (call.imported lib kubo_url keys document ipns keypair) := by
  obtain ⟨habsent, ⟨secret, hsecret, hkeypair⟩, protobuf_key, hbytes, honly⟩ := himports
  have himport : Keystore.Replies lib keys (.import_key kubo_url (call.alias lib document ipns) protobuf_key)
      (.ok ⟨call.alias lib document ipns, ipns_id lib keypair⟩)
      (call.imported lib kubo_url keys document ipns keypair) :=
    .imported kubo_url _ protobuf_key _ [] (keys kubo_url) rfl rfl
      fun keypair' hbytes' => (honly keypair' hbytes').symm
  have hreplies : Keystore.Replies lib keys (.import_key kubo_url (call.alias lib document ipns) protobuf_key)
      reply (call.imported lib kubo_url keys document ipns keypair) := by
    cases reply with
    | ok key => exact hreply key rfl ▸ himport
    | error text => exact .import_failed_late _ _ _ text _ _ himport
  have htrace := @import_then_check lib kubo_url ipns secret keypair protobuf_key (call.alias lib document ipns) _
    hsecret hkeypair hbytes reply
  rw [habsent]
  exact Prog.exec_iff_trace.mpr ⟨_, htrace, .cons hreplies (.nil _)⟩

/-- A call that gets no further than the key. -/
theorem refused_step (habout : call.About lib document ipns) {e : Failure String}
    (hkey : (require_key lib kubo_url (call.alias lib document ipns) ipns call.ipns_private_key
      (call.existing lib (keys kubo_url) document ipns)).run.Exec (Keystore.env lib) keys (.error e) keys') :
    Step lib kubo_url keys (call, .error e) keys' := by
  obtain ⟨hdocument, document_did, hdid, rfl⟩ := habout
  constructor
  apply Prog.exec_bind_of_ok (Prog.exec_lift_ok.mpr ⟨map_err_eq_ok_iff.mpr hdocument, rfl⟩)
  apply Prog.exec_bind_of_ok (Prog.exec_lift_ok.mpr ⟨map_err_eq_ok_iff.mpr hdid, rfl⟩)
  apply Prog.exec_bind_of_ok (exec_await_ok.mpr (exec_list_keys.mpr ⟨rfl, rfl⟩))
  exact Prog.exec_bind_of_error hkey

/-- A call whose import is carried out while Kubo's reply says otherwise. -/
theorem import_fails_late (habout : call.About lib document ipns) {keypair : Keypair}
    (himports : call.Imports lib (keys kubo_url) document ipns keypair) (text : String) :
    Step lib kubo_url keys (call, Err text) (call.imported lib kubo_url keys document ipns keypair) :=
  refused_step habout (@require_key_imports _ _ _ _ _ _ _ himports (.error text) fun _ hok => by cases hok)

/-- A call with the key of another identifier fails and leaves it there. -/
theorem misfit_stays (habout : call.About lib document ipns) {keypair : Keypair}
    (himports : call.Imports lib (keys kubo_url) document ipns keypair)
    (hid : trim (ipns_id lib keypair) ≠ ipns) :
    Step lib kubo_url keys
      (call, Err ("imported key IPNS id '" ++ ipns_id lib keypair ++ "' does not match document DID IPNS '" ++
        ipns ++ "'")) (call.imported lib kubo_url keys document ipns keypair) := by
  have hkey := @require_key_imports _ _ _ _ _ _ _ himports (.ok _) fun key hok => (Except.ok.inj hok).symm
  rw [of_library, ok_bind, reject_if, if_pos (bne_iff_ne.mpr hid)] at hkey
  exact refused_step habout hkey

/-- A call with the key of its own identifier can publish. -/
theorem own_key_publishes (habout : call.About lib document ipns) {keypair : Keypair}
    (hoptions : call.options = DidDocumentPublishOptions.default)
    (himports : call.Imports lib (keys kubo_url) document ipns keypair)
    (hid : trim (ipns_id lib keypair) = ipns) :
    ∃ published, Step lib kubo_url keys (call, .ok published)
      (call.imported lib kubo_url keys document ipns keypair) := by
  have hkey := @require_key_imports _ _ _ _ _ _ _ himports (.ok _) fun key hok => (Except.ok.inj hok).symm
  rw [of_library, ok_bind, reject_if, if_neg (by simp [hid])] at hkey
  obtain ⟨hdocument, document_did, hdid, rfl⟩ := habout
  have halias : call.alias lib document document_did.ipns =
      ipns_key_name_for_parts lib [document_ma_type document] document_did.ipns := by
    rw [PublishCall.alias, hoptions]
    rfl
  rw [PublishCall.existing, halias, ← ipns_key_name_for_document_eq hdid] at hkey
  obtain ⟨published, hpublished⟩ := publish_completes hdocument hdid hkey
  rw [← hoptions] at hpublished
  exact ⟨published, ⟨hpublished⟩⟩

/-- In a run whose calls bring no key of another identifier than their
    document's, no failure keeps the owner of an identifier out. -/
theorem deriving_call_accepted (hbase36 : lib.Base36Trims) (hdistinct : DistinctAliases lib ids) {start : Keystore}
    {events : List (PublishCall × Result String PublishedDidDocument)} (hempty : start kubo_url = [])
    (hids : ∀ event ∈ events, ∀ document ipns, event.1.About lib document ipns → ipns ∈ ids)
    (hrun : Run (fun keys event keys' =>
      Step lib kubo_url keys event keys' ∧ event.1.Fits lib (keys kubo_url)) start events keys) :
    Sound lib ids (keys kubo_url) ∧
      ∀ (call : PublishCall) (document : Document) (ipns : String), call.About lib document ipns → ipns ∈ ids →
        Derives lib call.ipns_private_key ipns → ¬ call.Mismatch lib kubo_url keys document ipns := by
  have hsound : Sound lib ids (keys kubo_url) := by
    induction hrun with
    | nil =>
      intro key hmem
      rw [hempty] at hmem
      cases hmem
    | snoc hinit hlast ih =>
      have hbefore := ih fun event hmem => hids event (List.mem_append_left _ hmem)
      have hevent := hids _ (List.mem_append_right _ (List.mem_singleton.mpr rfl))
      exact step_sound hbase36 hdistinct hevent hbefore hlast.1 hlast.2
  exact ⟨hsound, fun call document ipns _ hipns hderives => no_mismatch hbase36 hsound hipns hderives⟩

end

/-- A call with the document the signer made under the name of the owner, and the key of a seed. -/
def callFor (owner signer seed : UInt8) : PublishCall where
  did_document := cbor.encode (toCbor (claimed owner signer).serialize)
  ipns_private_key := (secret seed).val
  options := DidDocumentPublishOptions.default

section
variable {owner signer seed : UInt8}

theorem callFor_about (owner signer seed : UInt8) :
    (callFor owner signer seed).About library (claimed owner signer) (ipns owner) :=
  ⟨claimed_decode owner signer, did owner, did_try_from owner, rfl⟩

theorem callFor_about_unique {document : Document} {ipns' : String}
    (habout : (callFor owner signer seed).About library document ipns') : ipns' = ipns owner := by
  obtain ⟨hdecode, document_did, hdid, rfl⟩ := habout
  cases hdecode.symm.trans (claimed_decode owner signer)
  cases hdid.symm.trans (did_try_from owner)
  rfl

theorem protobuf_encoding_ipns_id {left right : Keypair}
    (heq : library.keypair_to_protobuf_encoding left = library.keypair_to_protobuf_encoding right) :
    ipns_id library left = ipns_id library right := by
  have hbytes : [8, 1, 18, 64] ++ left.secret.val ++ left.public_key.val =
      [8, 1, 18, 64] ++ right.secret.val ++ right.public_key.val := Except.ok.inj heq
  rw [List.append_assoc, List.append_assoc] at hbytes
  have hkeys := List.append_inj_right (List.append_cancel_left hbytes)
    (left.secret.length_val.trans right.secret.length_val.symm)
  rw [ipns_id, ipns_id, Subtype.ext hkeys]

theorem callFor_imports {keys : List KuboKey}
    (habsent : (callFor owner signer seed).existing library keys (claimed owner signer) (ipns owner) = none) :
    (callFor owner signer seed).Imports library keys (claimed owner signer) (ipns owner) ⟨secret seed, secret seed⟩ :=
  ⟨habsent, ⟨secret seed, rfl, rfl⟩, _, rfl, fun _ hbytes => protobuf_encoding_ipns_id hbytes⟩

theorem owner_fits (keys : List KuboKey) : (callFor owner signer owner).Fits library keys := by
  intro document ipns' habout _ key id hkey hid
  obtain rfl : key = secret owner := Subtype.ext hkey
  cases (ipns_from_secret_eq owner).symm.trans hid
  exact (callFor_about_unique habout).symm

end

theorem ipns_id_trim (seed : UInt8) : trim (ipns_id library ⟨secret seed, secret seed⟩) = ipns seed :=
  ipns_trim seed

/-- A call with the document of the first identity and the key of a seed. -/
def publishCall (seed : UInt8) : PublishCall := callFor 1 2 seed

/-- The keystore after a call with this seed's key. -/
def keystoreOf (seed : UInt8) : Keystore :=
  (publishCall seed).imported library "http://kubo" (fun _ => []) (claimed 1 2) (ipns 1)
    ⟨secret seed, secret seed⟩

/-! Two identities publish on one Kubo. -/

/-- A call of an identity with its own document and key. -/
def ownCall (owner : UInt8) : PublishCall := callFor owner owner owner

/-- What the names end with tells the two apart. -/
theorem two_distinct : DistinctAliases library {ipns 1, ipns 2} := by
  have hdigits (seed : UInt8) : ((to_hex (library.blake3_hash (utf8 (ipns seed))).val).take 16).length = 16 := by
    rw [List.length_take, to_hex_length, ByteArr.length_val]
    rfl
  have hsuffix {parts parts' : List String} {left right : UInt8}
      (hname : ipns_key_name_for_parts library parts (ipns left) =
        ipns_key_name_for_parts library parts' (ipns right)) :
      (to_hex (library.blake3_hash (utf8 (ipns left))).val).take 16 =
        (to_hex (library.blake3_hash (utf8 (ipns right))).val).take 16 := by
    have hchars := congrArg String.toList hname
    simp only [ipns_key_name_for_parts, String.toList_append, String.toList_ofList] at hchars
    exact List.append_inj_right' hchars ((hdigits left).trans (hdigits right).symm)
  have hother : (to_hex (library.blake3_hash (utf8 (ipns 1))).val).take 16 ≠
      (to_hex (library.blake3_hash (utf8 (ipns 2))).val).take 16 := by decide +kernel
  rintro parts parts' _ (rfl | rfl) _ (rfl | rfl) hname
  · rfl
  · exact absurd (hsuffix hname) hother
  · exact absurd (hsuffix hname).symm hother
  · rfl

/-- The keystore after a call of the first identity, -/
def oneOwned : Keystore :=
  (ownCall 1).imported library "http://kubo" (fun _ => []) (claimed 1 1) (ipns 1) ⟨secret 1, secret 1⟩

/-- and after one of the second. -/
def twoOwned : Keystore :=
  (ownCall 2).imported library "http://kubo" oneOwned (claimed 2 2) (ipns 2) ⟨secret 2, secret 2⟩

theorem second_absent : (ownCall 2).existing library (oneOwned "http://kubo") (claimed 2 2) (ipns 2) = none := by
  refine List.find?_eq_none.mpr fun key hmem hname => ?_
  obtain rfl : key = ⟨(ownCall 1).alias library (claimed 1 1) (ipns 1), ipns_id library ⟨secret 1, secret 1⟩⟩ :=
    List.mem_singleton.mp hmem
  have hsame := two_distinct _ _ _ (.inl rfl) _ (.inr rfl) (beq_iff_eq.mp hname)
  exact absurd (ipns_injective hsame) (by decide)

/-- Kubo fails the first call after it has imported the key; the second identity
    publishes, and neither is kept out after that. -/
theorem deriving_call_accepted_two :
    ∃ published, Run (fun keys event keys' => Step library "http://kubo" keys event keys' ∧
        event.1.Fits library (keys "http://kubo")) (fun _ => [])
        [(ownCall 1, Err "timed out"), (ownCall 2, .ok published)] twoOwned ∧
      ¬ (ownCall 1).Mismatch library "http://kubo" twoOwned (claimed 1 1) (ipns 1) ∧
      ¬ (ownCall 2).Mismatch library "http://kubo" twoOwned (claimed 2 2) (ipns 2) := by
  have hfailed : Step library "http://kubo" (fun _ => []) (ownCall 1, Err "timed out") oneOwned :=
    import_fails_late (callFor_about 1 1 1) (callFor_imports rfl) "timed out"
  obtain ⟨published, hpublished⟩ : ∃ published, Step library "http://kubo" oneOwned (ownCall 2, .ok published)
      twoOwned :=
    own_key_publishes (callFor_about 2 2 2) rfl (callFor_imports second_absent) (ipns_id_trim 2)
  have hrun : Run (fun keys event keys' => Step library "http://kubo" keys event keys' ∧
      event.1.Fits library (keys "http://kubo")) (fun _ => [])
      [(ownCall 1, Err "timed out"), (ownCall 2, .ok published)] twoOwned :=
    Run.cons (And.intro hfailed (owner_fits [])) (Run.single (And.intro hpublished (owner_fits _)))
  have hids : ∀ event ∈ [(ownCall 1, Err "timed out"), (ownCall 2, .ok published)],
      ∀ document ipns', event.1.About library document ipns' → ipns' ∈ ({ipns 1, ipns 2} : Set String) := by
    intro event hmem document ipns' habout
    obtain rfl | hmem := List.mem_cons.mp hmem
    · exact .inl (callFor_about_unique habout)
    · rw [List.mem_singleton.mp hmem] at habout
      exact .inr (callFor_about_unique habout)
  obtain ⟨-, haccepted⟩ := @deriving_call_accepted library "http://kubo" twoOwned {ipns 1, ipns 2} base36Trims
    two_distinct (fun _ => []) _ rfl hids hrun
  exact ⟨published, hrun,
    haccepted _ _ _ (callFor_about 1 1 1) (.inl rfl) ⟨secret 1, rfl, ipns_from_secret_eq 1⟩,
    haccepted _ _ _ (callFor_about 2 2 2) (.inr rfl) ⟨secret 2, rfl, ipns_from_secret_eq 2⟩⟩

/-- After a failed call with the wrong key, the owner's call is rejected for it. -/
theorem owner_shut_out :
    ∃ text, Run (Step library "http://kubo") (fun _ => []) [(publishCall 2, Err text)] (keystoreOf 2) ∧
      Derives library (publishCall 1).ipns_private_key (ipns 1) ∧
      (publishCall 1).Mismatch library "http://kubo" (keystoreOf 2) (claimed 1 2) (ipns 1) ∧
      ∀ published keys', ¬ Step library "http://kubo" (keystoreOf 2) (publishCall 1, .ok published) keys' := by
  have hwrong : trim (ipns_id library ⟨secret 2, secret 2⟩) ≠ ipns 1 := by
    rw [ipns_id_trim]
    exact fun heq => absurd (ipns_injective heq) (by decide)
  have hname (seed : UInt8) : (publishCall seed).alias library (claimed 1 2) (ipns 1) =
      ipns_key_name_for_parts library [document_ma_type (claimed 1 2)] (ipns 1) := rfl
  have hexisting : (publishCall 1).existing library (keystoreOf 2 "http://kubo") (claimed 1 2) (ipns 1) =
      some ⟨(publishCall 2).alias library (claimed 1 2) (ipns 1), ipns_id library ⟨secret 2, secret 2⟩⟩ := by
    apply List.find?_cons_of_pos
    rw [hname, hname]
    exact beq_self_eq_true _
  have hfailed := @misfit_stays library "http://kubo" (fun _ => []) (publishCall 2) (claimed 1 2) (ipns 1)
    (callFor_about 1 2 2) _ (callFor_imports rfl) hwrong
  exact ⟨_, Run.single hfailed, ⟨secret 1, rfl, ipns_from_secret_eq 1⟩, .existing _ hexisting hwrong,
    fun published _ => existing_mismatch_fails (callFor_about 1 2 1) hexisting hwrong published⟩

end ma_core.ipfs
