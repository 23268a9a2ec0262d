import MaCore.Ipfs.Daemon
import MaCore.Kubo.Retry

open rust
open ma_core.error ma_core.did ma_core.doc ma_core.msg ma_core.kubo

namespace ma_core.ipfs

namespace Daemon

/-- A path that a name had last at some time since `start`. -/
def Current (start now : Daemon) (kubo_url name path : String) (n : Nat) : Prop :=
  (start.records kubo_url name).length ≤ n + 1 ∧ (now.records kubo_url name)[n]? = some path

/-- The block at the path decodes to the document. -/
def Stores (lib : Lib) (daemon : Daemon) (kubo_url path : String) (document : Document) : Prop :=
  ∃ block, (daemon.blocks kubo_url).get path = some block ∧ Document.decode lib block = .ok document

/-- The key of this name has the identifier. -/
def Owns (daemon : Daemon) (kubo_url key_name ipns_id : String) : Prop :=
  ∃ id, (daemon.keys kubo_url).get key_name = some id ∧ trim id = ipns_id

/-- The key is that of the name, and a document of the name is stored that is one of those given. -/
def Publishable (lib : Lib) (given : Bytes → Prop) (daemon : Daemon)
    (kubo_url key_name cid ipns_id : String) : Prop :=
  daemon.Owns kubo_url key_name ipns_id ∧ ∃ bytes document document_did, given bytes ∧
    Document.decode lib bytes = .ok document ∧ Did.try_from lib document.id = .ok document_did ∧
    document_did.ipns = ipns_id ∧ daemon.Stores lib kubo_url (normalize_ipfs_arg cid) document

/-- Names are published with what is publishable. -/
def Allowed (lib : Lib) (given : Bytes → Prop) (daemon : Daemon) : Lookup → Prop
  | .call (.name_publish_with_options kubo_url key_name cid _) =>
    ∃ ipns_id, daemon.Publishable lib given kubo_url key_name cid ipns_id
  | _ => True

/-- Kubo for a task that keeps to this. -/
def env (lib : Lib) (given : Bytes → Prop) : Prog.Env Lookup Lookup.Reply Daemon where
  allowed := Allowed lib given
  replies daemon lookup reply daemon' := daemon.Replies lib lookup reply daemon'

/-- Kubo as publishers meet it. -/
def call_env (lib : Lib) (given : Bytes → Prop) : Prog.Env Call Call.Reply Daemon where
  allowed daemon call := daemon.Allowed lib given (.call call)
  replies daemon call reply daemon' := daemon.Replies lib (.call call) reply daemon'

section
variable {lib : Lib} {given : Bytes → Prop} {start before after daemon daemon' : Daemon}
variable {kubo_url name path key_name ipns_id : String} {document : Document} {n : Nat}

theorem Current.grows (hcurrent : Current start before kubo_url name path n) (hgrows : before.Grows after) :
    Current start after kubo_url name path n := by
  obtain ⟨rest, hrest⟩ := hgrows.records kubo_url name
  refine ⟨hcurrent.1, ?_⟩
  rw [← hrest, List.getElem?_append_left (List.getElem?_eq_some_iff.mp hcurrent.2).1]
  exact hcurrent.2

theorem Stores.grows (hstores : before.Stores lib kubo_url path document) (hgrows : before.Grows after) :
    after.Stores lib kubo_url path document := by
  obtain ⟨block, hblock, hdecode⟩ := hstores
  exact ⟨block, hgrows.blocks kubo_url path block hblock, hdecode⟩

theorem Owns.grows (howns : before.Owns kubo_url key_name ipns_id) (hgrows : before.Grows after) :
    after.Owns kubo_url key_name ipns_id := by
  obtain ⟨id, hkey, hid⟩ := howns
  exact ⟨id, hgrows.keys kubo_url key_name id hkey, hid⟩

theorem Publishable.grows {cid : String} (hpublishable : before.Publishable lib given kubo_url key_name cid ipns_id)
    (hgrows : before.Grows after) : after.Publishable lib given kubo_url key_name cid ipns_id := by
  obtain ⟨howns, bytes, document, document_did, hgiven, hdecode, hdid, hsame, hstores⟩ := hpublishable
  exact ⟨howns.grows hgrows, bytes, document, document_did, hgiven, hdecode, hdid, hsame, hstores.grows hgrows⟩

/-- The last path of a name is current, -/
theorem current_of_last (hgrows : start.Grows daemon)
    (hlast : (daemon.records kubo_url name).getLast? = some path) :
    ∃ n, Current start daemon kubo_url name path n := by
  have hlength := (hgrows.records kubo_url name).length_le
  rw [List.getLast?_eq_getElem?] at hlast
  exact ⟨(daemon.records kubo_url name).length - 1, by omega, hlast⟩

/-- and one that is published is. -/
theorem current_of_record (hgrows : start.Grows daemon) (kubo_url name cid : String) :
    ∃ n, Current start (daemon.with_record kubo_url name cid) kubo_url name (normalize_ipfs_arg cid) n := by
  have hlength := (hgrows.records kubo_url name).length_le
  refine ⟨(daemon.records kubo_url name).length, by omega, ?_⟩
  rw [records_with_record, List.getElem?_concat_length]

/-- Only an argument that is an IPNS path is resolved. -/
theorem Locates.of_ipns (hlocates : daemon.Locates kubo_url ("/ipns/" ++ name) path) :
    (daemon.records kubo_url name).getLast? = some path := by
  obtain ⟨rfl, cid, hcid⟩ | ⟨other, hother, hlast⟩ := hlocates
  · have hhead := congrArg (·.toList.take 4) hcid
    rw [normalize_ipfs_arg_eq, String.toList_append, String.toList_append] at hhead
    exact absurd hhead (by simp)
  · rw [String.append_right_inj] at hother
    rwa [hother]

/-- A path of a name refers to itself. -/
theorem Locates.of_record {found : String} (hpath : path ∈ daemon.records kubo_url name)
    (hlocates : daemon.Locates kubo_url path found) : found = path := by
  obtain ⟨cid, rfl⟩ := daemon.normalized kubo_url name path hpath
  obtain ⟨rfl, _⟩ | ⟨other, hother, _⟩ := hlocates
  · rfl
  · have hhead := congrArg (·.toList.take 4) hother
    rw [normalize_ipfs_arg_eq, String.toList_append, String.toList_append] at hhead
    exact absurd hhead (by simp)

/-! What a reply that is no error says. -/

theorem Replies.list_ok {keys : List KuboKey}
    (hreply : daemon.Replies lib (.call (.list_keys kubo_url)) (.ok keys) daemon') :
    ∀ key ∈ keys, (daemon'.keys kubo_url).get key.name = some key.id := by
  cases hreply with
  | listed _ _ hkeys => exact fun key hkey => (hkeys key).mp hkey
  | failed _ _ hfailed | failed_late _ _ _ _ hfailed _ => cases hfailed

theorem Replies.import_ok {key_bytes : Bytes} {key : KuboKey}
    (hreply : daemon.Replies lib (.call (.import_key kubo_url key_name key_bytes)) (.ok key) daemon') :
    (daemon'.keys kubo_url).get key_name = some key.id := by
  cases hreply with
  | imported _ _ _ hfree => rw [keys_with_key, Map.get_insert_self]
  | failed _ _ hfailed | failed_late _ _ _ _ hfailed _ => cases hfailed

theorem Replies.put_ok {data : Bytes} {pin : Bool} {cid : String}
    (hreply : daemon.Replies lib (.call (.dag_put_cbor kubo_url data pin)) (.ok cid) daemon')
    (hdecode : Document.decode lib data = .ok document) :
    daemon'.Stores lib kubo_url (normalize_ipfs_arg cid) document := by
  cases hreply with
  | put _ _ _ _ block hblock hsame =>
    refine ⟨block, ?_, hblock.trans hdecode⟩
    rw [blocks_with_block, Map.get_insert_self]
  | failed _ _ hfailed | failed_late _ _ _ _ hfailed _ => cases hfailed

/-- The name of the key has the path. -/
theorem Replies.name_ok {cid value : String} {options : IpnsPublishOptions}
    (howns : daemon.Owns kubo_url key_name ipns_id)
    (hreply : daemon.Replies lib (.call (.name_publish_with_options kubo_url key_name cid options)) (.ok value)
      daemon') : daemon' = daemon.with_record kubo_url ipns_id cid := by
  obtain ⟨id, hid, rfl⟩ := howns
  cases hreply with
  | named _ _ _ _ found _ hkey =>
    rw [hid] at hkey
    cases hkey
    rfl
  | failed _ _ hfailed | failed_late _ _ _ _ hfailed _ => cases hfailed

theorem Replies.resolve_ok {recursive : Bool}
    (hreply : daemon.Replies lib (.call (.name_resolve kubo_url ("/ipns/" ++ name) recursive)) (.ok path) daemon') :
    (daemon.records kubo_url name).getLast? = some path ∧ daemon' = daemon := by
  generalize harg : "/ipns/" ++ name = arg at hreply
  cases hreply with
  | resolved _ other _ _ hpath =>
    rw [String.append_right_inj] at harg
    rw [harg]
    exact ⟨hpath, rfl⟩
  | failed _ _ hfailed | failed_late _ _ _ _ hfailed _ => cases hfailed

theorem Replies.get_ok {arg : String} {block : Bytes}
    (hreply : daemon.Replies lib (.dag_get kubo_url arg) (.ok block) daemon') :
    ∃ path, daemon.Locates kubo_url arg path ∧ (daemon.blocks kubo_url).get path = some block ∧ daemon' = daemon := by
  cases hreply with
  | got _ _ path _ hpath hblock => exact ⟨path, hpath, hblock, rfl⟩
  | failed _ _ hfailed | failed_late _ _ _ _ hfailed _ => cases hfailed

end

/-! Publishers. -/

/-- A call that is not about keys, blocks or names. -/
def Quiet : Call → Prop
  | .pins _ | .sleep _ | .schedule _ => True
  | _ => False

section
variable {lib : Lib} {given : Bytes → Prop} {start daemon daemon' : Daemon}
variable {kubo_url name path key_name ipns_id cid : String} {document : Document}

theorem Quiet.allowed {call : Call} (hquiet : Quiet call) (daemon : Daemon) :
    daemon.Allowed lib given (.call call) := by
  cases call with
  | name_publish_with_options kubo_url key_name cid options => exact hquiet.elim
  | _ => trivial

theorem publisher_issues {α : Type} (p : Io α) : Prog.Issues Quiet p.publisher := by
  induction p with
  | ret a => trivial
  | call rpc k ih => exact ⟨trivial, ih⟩

theorem confirm_pins_issues {pin_name : String} {options : DidDocumentPublishOptions} :
    (confirm_pins_and_schedule_cleanup kubo_url pin_name cid options).Issues Quiet := by
  have hattempts (remote : RemotePinOptions) (left : Nat) (previous_delay delay : Duration) :
      (remote_pin_attempts kubo_url remote cid left previous_delay delay).Issues Quiet := by
    induction left generalizing previous_delay delay with
    | zero =>
      unfold remote_pin_attempts
      refine (publisher_issues _).bind fun reply => ?_
      cases reply with
      | ok u => trivial
      | error e => trivial
    | succ left ih =>
      unfold remote_pin_attempts
      refine (publisher_issues _).bind fun reply => ?_
      cases reply with
      | ok u => trivial
      | error e => exact ⟨trivial, fun _ => ih _ _⟩
  have hreplicate : (replicate kubo_url cid options).Issues Quiet := by
    unfold replicate remote_pin_with_retry
    cases options.remote_pin with
    | none => trivial
    | some remote =>
      refine Prog.Issues.bind ?_ fun result => ?_
      · cases options.attempts with
        | zero => trivial
        | succ left => exact hattempts remote left _ _
      · cases result with
        | ok u => trivial
        | error e => trivial
  refine hreplicate.bind fun replicated => ?_
  refine Prog.Issues.bind ?_ fun _ => trivial
  split
  · exact ⟨trivial, fun _ => trivial⟩
  · trivial

theorem rwp_quiet {α : Type} {p : Publisher α} (hp : p.Issues Quiet) (daemon : Daemon) :
    Prog.rwp (call_env lib given) Grows (fun daemon' _ => daemon.Grows daemon') p daemon := by
  refine Prog.Issues.rwp_moves Grows.transitive ?_ ?_ hp daemon
  · exact fun _ hquiet daemon => hquiet.allowed daemon
  · exact fun hreply => Replies.grows hreply

/-- A key is required: it is there, or it is imported and has the identifier. -/
theorem require_key_held {ipns_private_key : Bytes} {existing_key : Option KuboKey}
    (hexisting : ∀ existing, existing_key = some existing →
      (daemon.keys kubo_url).get key_name = some existing.id) :
    Prog.rwp (call_env lib given) Grows
      (fun daemon' result => daemon.Grows daemon' ∧ (result = .ok () → daemon'.Owns kubo_url key_name ipns_id))
      (require_key lib kubo_url key_name ipns_id ipns_private_key existing_key).run daemon := by
  cases existing_key with
  | some existing =>
    intro daemon' hgrows
    refine ⟨hgrows, fun hok => ?_⟩
    have hid := reject_if_eq_ok_iff.mp hok
    rw [bne_eq_false_iff_eq] at hid
    exact Owns.grows ⟨existing.id, hexisting existing rfl, hid⟩ hgrows
  | none =>
    unfold require_key
    have hfail {e : Failure String} : ∀ daemon', daemon.Grows daemon' → daemon.Grows daemon' ∧
        ((.error e : Result String Unit) = .ok () → daemon'.Owns kubo_url key_name ipns_id) :=
      fun daemon' hgrows => ⟨hgrows, fun hok => by cases hok⟩
    refine Prog.rwp_lift_bind (fun _ _ => ?_) fun e _ => hfail
    refine Prog.rwp_lift_bind (fun raw_key _ => ?_) fun e _ => hfail
    refine Prog.rwp_lift_bind (fun keypair _ => ?_) fun e _ => hfail
    refine Prog.rwp_lift_bind (fun protobuf_key _ => ?_) fun e _ => hfail
    intro daemon₁ hbefore
    refine ⟨trivial, fun reply daemon₂ hreply => ?_⟩
    have hgrows := hbefore.trans hreply.grows
    cases reply with
    | error e => exact fun daemon' hafter => ⟨hgrows.trans hafter, fun hok => by cases hok⟩
    | ok imported =>
      intro daemon' hafter
      refine ⟨hgrows.trans hafter, fun hok => ?_⟩
      have hid := reject_if_eq_ok_iff.mp hok
      rw [bne_eq_false_iff_eq] at hid
      exact Owns.grows ⟨imported.id, hreply.import_ok, hid⟩ hafter

/-- What is said of a value that an attempt may return. -/
def Returned {α : Type} (daemon : Daemon) (good : Daemon → α → Prop) (daemon' : Daemon) (result : Except String α) :
    Prop :=
  daemon.Grows daemon' ∧ ∀ a, result = .ok a → good daemon' a

theorem Returned.error {α : Type} {good : Daemon → α → Prop} {e : String} (hgrows : daemon.Grows daemon') :
    Returned daemon good daemon' (.error e) := ⟨hgrows, fun _ hvalue => by cases hvalue⟩

theorem Returned.of_grows {α : Type} {good : Daemon → α → Prop} {before : Daemon} {result : Except String α}
    (hreturned : Returned daemon good daemon' result) (hgrows : before.Grows daemon) :
    Returned before good daemon' result := ⟨hgrows.trans hreturned.1, hreturned.2⟩

/-- What is said of a name once it is published. -/
def Named (start : Daemon) (kubo_url ipns_id cid : String) (daemon : Daemon) (_ : String) : Prop :=
  ∃ n, Current start daemon kubo_url ipns_id (normalize_ipfs_arg cid) n

theorem Named.grows {value : String} (hnamed : Named start kubo_url ipns_id cid daemon value)
    (hgrows : daemon.Grows daemon') : Named start kubo_url ipns_id cid daemon' value := by
  obtain ⟨n, hcurrent⟩ := hnamed
  exact ⟨n, hcurrent.grows hgrows⟩

/-- A name that resolves to the path of a CID has it. -/
theorem verify_name_target_held (hgrows : start.Grows daemon) :
    Prog.rwp (call_env lib given) Grows
      (Returned daemon (Named start kubo_url ipns_id cid))
      (verify_name_target_after_error kubo_url ipns_id cid) daemon := by
  intro daemon₁ hbefore
  refine ⟨trivial, fun reply daemon₂ hreply => ?_⟩
  have hmoved := hbefore.trans hreply.grows
  cases reply with
  | error e => exact fun daemon' hafter => .error (hmoved.trans hafter)
  | ok resolved =>
    obtain ⟨hlast, rfl⟩ := Replies.resolve_ok hreply
    change Prog.rwp _ _ _ (if trim resolved = normalize_ipfs_arg cid then _ else _) daemon₂
    split
    · rename_i htarget
      intro daemon' hafter
      refine ⟨hbefore.trans hafter, fun _ _ => ?_⟩
      obtain ⟨other, hother⟩ := daemon₂.normalized _ _ _ (List.mem_of_getLast? hlast)
      rw [hother, trim_normalize_ipfs_arg, ← hother] at htarget
      rw [htarget] at hlast
      obtain ⟨n, hcurrent⟩ := current_of_last (hgrows.trans hbefore) hlast
      exact ⟨n, hcurrent.grows hafter⟩
    · exact fun daemon' hafter => .error (hmoved.trans hafter)

/-- One attempt, given what comes after it if it is not acknowledged. -/
theorem name_publish_attempt_held {options : IpnsPublishOptions} {attempts left : Nat} {fib_prev fib_curr : Duration}
    (hgrows : start.Grows daemon) (hpublishable : daemon.Publishable lib given kubo_url key_name cid ipns_id)
    (hfailed : ∀ daemon' text, daemon.Grows daemon' → Prog.rwp (call_env lib given) Grows
      (Returned daemon' (Named start kubo_url ipns_id cid))
      (after_failure kubo_url key_name ipns_id cid options attempts left fib_prev fib_curr text) daemon') :
    Prog.rwp (call_env lib given) Grows (Returned daemon (Named start kubo_url ipns_id cid))
      (name_publish_attempts kubo_url key_name ipns_id cid options attempts left fib_prev fib_curr) daemon := by
  unfold name_publish_attempts
  refine Prog.rwp_issue_bind fun daemon₁ hbefore =>
    ⟨⟨ipns_id, hpublishable.grows hbefore⟩, fun reply daemon₂ hreply => ?_⟩
  have hmoved := hbefore.trans hreply.grows
  cases reply with
  | ok value =>
    intro daemon' hafter
    refine ⟨hmoved.trans hafter, fun _ _ => ?_⟩
    rw [hreply.name_ok (hpublishable.grows hbefore).1] at hafter
    obtain ⟨n, hcurrent⟩ := current_of_record (hgrows.trans hbefore) kubo_url ipns_id cid
    exact ⟨n, hcurrent.grows hafter⟩
  | error err =>
    refine Prog.rwp_bind Grows.refl ?_
    refine Prog.rwp_mono (verify_name_target_held (hgrows.trans hmoved)) fun daemon₃ verified hverified => ?_
    have hmoved := hmoved.trans hverified.1
    cases verified with
    | ok value =>
      intro daemon' hafter
      exact ⟨hmoved.trans hafter, fun _ _ => (hverified.2 value rfl).grows hafter⟩
    | error mismatch =>
      have hrest := hfailed daemon₃
        ("name publish failed after " ++ toString attempts ++ " attempt(s): " ++ err) hmoved
      cases left with
      | zero => exact Prog.rwp_mono hrest fun _ _ hreturned => hreturned.of_grows hmoved
      | succ left => exact Prog.rwp_mono hrest fun _ _ hreturned => hreturned.of_grows hmoved

theorem name_publish_attempts_held {options : IpnsPublishOptions} {attempts left : Nat} {fib_prev fib_curr : Duration}
    (hgrows : start.Grows daemon) (hpublishable : daemon.Publishable lib given kubo_url key_name cid ipns_id) :
    Prog.rwp (call_env lib given) Grows (Returned daemon (Named start kubo_url ipns_id cid))
      (name_publish_attempts kubo_url key_name ipns_id cid options attempts left fib_prev fib_curr) daemon := by
  induction left generalizing fib_prev fib_curr daemon with
  | zero =>
    refine name_publish_attempt_held hgrows hpublishable fun daemon₁ text _ => ?_
    exact fun daemon' hafter => .error hafter
  | succ left ih =>
    refine name_publish_attempt_held hgrows hpublishable fun daemon₁ text hmoved => ?_
    refine Prog.rwp_issue_bind fun daemon₂ hbefore => ⟨trivial, fun _ daemon₃ hreply => ?_⟩
    have hslept := hbefore.trans (Replies.grows hreply)
    refine Prog.rwp_mono (ih ?_ ?_) fun _ _ hreturned => hreturned.of_grows hslept
    · exact hgrows.trans (hmoved.trans hslept)
    · exact hpublishable.grows (hmoved.trans hslept)

theorem name_publish_held {options : IpnsPublishOptions} {attempts : Nat} {initial_backoff : Duration}
    (hgrows : start.Grows daemon) (hpublishable : daemon.Publishable lib given kubo_url key_name cid ipns_id) :
    Prog.rwp (call_env lib given) Grows (Returned daemon (Named start kubo_url ipns_id cid))
      (name_publish_with_retry kubo_url key_name ipns_id cid options attempts initial_backoff) daemon := by
  cases attempts with
  | zero => exact fun daemon' hafter => .error hafter
  | succ left => exact name_publish_attempts_held hgrows hpublishable

/-- A document was published: it is stored at the path of its CID, which the name of its DID has had since `start`. -/
def Published (lib : Lib) (start daemon : Daemon) (kubo_url : String) (did_document : Bytes)
    (published : PublishedDidDocument) : Prop :=
  ∃ document document_did n, Document.decode lib did_document = .ok document ∧
    Did.try_from lib document.id = .ok document_did ∧ document_did.ipns = published.ipns_id ∧
    Current start daemon kubo_url published.ipns_id (normalize_ipfs_arg published.cid) n ∧
    daemon.Stores lib kubo_url (normalize_ipfs_arg published.cid) document

theorem Published.grows {did_document : Bytes} {published : PublishedDidDocument}
    (hpublished : Published lib start daemon kubo_url did_document published) (hgrows : daemon.Grows daemon') :
    Published lib start daemon' kubo_url did_document published := by
  obtain ⟨document, document_did, n, hdocument, hdid, hsame, hcurrent, hstores⟩ := hpublished
  exact ⟨document, document_did, n, hdocument, hdid, hsame, hcurrent.grows hgrows, hstores.grows hgrows⟩

theorem rwp_await {α β : Type} {Q : Daemon → Result String β → Prop} {x : Publisher (Except String α)}
    {f : α → Attempt β} (hfailed : ∀ daemon e, Q daemon (.error e))
    (hx : Prog.rwp (call_env lib given) Grows (fun daemon' reply => ∀ a, reply = .ok a →
      Prog.rwp (call_env lib given) Grows Q (f a).run daemon') x daemon) :
    Prog.rwp (call_env lib given) Grows Q (await x >>= f).run daemon := by
  refine Prog.rwp_run_bind Grows.refl (Prog.rwp_bind Grows.refl (Prog.rwp_mono hx fun daemon' reply hreply => ?_))
  cases reply with
  | error e => exact fun _ _ _ _ => hfailed _ _
  | ok a =>
    intro daemon'' hafter
    change Prog.rwp _ _ _ (f a).run daemon''
    exact Prog.rwp_stable Grows.transitive (hreply a rfl) hafter

/-- Among other tasks a publisher keeps to what is allowed, and what it returns is published. -/
theorem publish_held {did_document ipns_private_key : Bytes} {options : DidDocumentPublishOptions}
    (hgiven : given did_document) :
    Prog.rwp (call_env lib given) Grows
      (fun daemon' result => ∀ published, result = .ok published →
        Published lib daemon daemon' kubo_url did_document published)
      (publish_did_document_to_kubo lib kubo_url did_document ipns_private_key options).run daemon := by
  have hfailed (daemon' : Daemon) (e : Failure String) : ∀ published,
      (.error e : Result String PublishedDidDocument) = .ok published →
        Published lib daemon daemon' kubo_url did_document published := by
    rintro published ⟨⟩
  unfold publish_did_document_to_kubo
  refine Prog.rwp_lift_bind (fun document hdocument => ?_) fun e _ daemon' _ => hfailed daemon' e
  refine Prog.rwp_lift_bind (fun document_did hdid => ?_) fun e _ daemon' _ => hfailed daemon' e
  have hdocument := map_err_eq_ok_iff.mp hdocument
  have hdid := map_err_eq_ok_iff.mp hdid
  dsimp only
  generalize ipns_key_name_for_parts lib _ document_did.ipns = key_name
  -- the key
  refine rwp_await hfailed fun daemon₁ hlisting => ⟨trivial, fun listed daemon₂ hlisted => ?_⟩
  rintro daemon₃ hmoved keys rfl
  have hgrows := (hlisting.trans (Replies.grows hlisted)).trans hmoved
  have hkeys := Replies.list_ok hlisted
  refine Prog.rwp_run_bind Grows.refl (Prog.rwp_mono (require_key_held fun existing hfind => ?_) ?_)
  · have hmem := List.mem_of_find?_eq_some hfind
    have hname := List.find?_some hfind
    rw [beq_iff_eq] at hname
    rw [← hname]
    exact hmoved.keys _ _ _ (hkeys existing hmem)
  rintro daemon₄ (e | _) ⟨hrequired, howns⟩
  · exact fun _ _ => hfailed _ _
  have hgrows := hgrows.trans hrequired
  have howns := howns rfl
  -- the block
  refine rwp_await hfailed fun daemon₅ hputting => ⟨trivial, fun put daemon₆ hput => ?_⟩
  rintro daemon₇ hstored cid rfl
  have hafter := (hputting.trans (Replies.grows hput)).trans hstored
  have hgrows := hgrows.trans hafter
  have hstores := (Replies.put_ok hput hdocument).grows hstored
  refine rwp_await hfailed
    (Prog.rwp_mono (rwp_quiet (publisher_issues _) daemon₇) fun daemon₈ pinned hpinned _ _ => ?_)
  have hgrows := hgrows.trans hpinned
  have hstores := hstores.grows hpinned
  -- the name
  have hpublishable : daemon₈.Publishable lib given kubo_url key_name cid document_did.ipns :=
    ⟨howns.grows (hafter.trans hpinned), did_document, document, document_did, hgiven, hdocument, hdid, rfl, hstores⟩
  refine rwp_await hfailed (Prog.rwp_mono (name_publish_held hgrows hpublishable) fun daemon₉ value hnamed => ?_)
  rintro path rfl
  have hstores := hstores.grows hnamed.1
  obtain ⟨n, hcurrent⟩ := hnamed.2 path rfl
  refine Prog.rwp_run_bind Grows.refl (Prog.rwp_bind Grows.refl ?_)
  refine Prog.rwp_mono (rwp_quiet confirm_pins_issues daemon₉) fun daemon₁₀ confirmed hconfirmed => ?_
  intro daemon₁₁ hlater daemon₁₂ hlast published hpublished
  cases hpublished
  have hend := (hconfirmed.trans hlater).trans hlast
  exact ⟨document, document_did, n, hdocument, hdid, rfl, hcurrent.grows hend, hstores.grows hend⟩

/-- So does the handler of requests, with the document of a valid one. -/
theorem handle_held {clock : Clock} {message_cbor : Bytes}
    (hgiven : ∀ validated, validate_identity_publish_request lib clock message_cbor = .ok validated →
      given validated.document_bytes) :
    Prog.rwp (call_env lib given) Grows
      (fun daemon' result => ∀ response, result = .ok response → ∃ validated published,
        validate_identity_publish_request lib clock message_cbor = .ok validated ∧
        response.did = some validated.document_did.id ∧ response.cid = some published.cid ∧
        Published lib daemon daemon' kubo_url validated.document_bytes published)
      (handle_ipfs_publish lib clock kubo_url message_cbor).run daemon := by
  unfold handle_ipfs_publish
  refine Prog.rwp_lift_bind (fun validated hvalidated => ?_) fun e _ daemon' _ => by rintro response ⟨⟩
  refine Prog.rwp_run_bind Grows.refl (Prog.rwp_mono (publish_held (hgiven validated hvalidated)) ?_)
  rintro daemon₁ (e | published) hpublished
  · rintro daemon' _ response ⟨⟩
  · intro daemon₂ hafter response hresponse
    cases hresponse
    exact ⟨validated, published, hvalidated, rfl, rfl, (hpublished published rfl).grows hafter⟩

end

/-! Resolvers. -/

/-- What is derived for a publisher holds where it is part of a resolver. -/
theorem rwp_resolver {lib : Lib} {given : Bytes → Prop} {daemon : Daemon} {α : Type} {Q : Daemon → α → Prop}
    {p : Publisher α} (hp : Prog.rwp (call_env lib given) Grows Q p daemon) :
    Prog.rwp (env lib given) Grows Q p.resolver daemon := by
  induction p generalizing daemon with
  | ret a => exact hp
  | call c k ih =>
    intro daemon₁ hmove
    obtain ⟨hallowed, hrest⟩ := hp daemon₁ hmove
    exact ⟨hallowed, fun reply daemon₂ hreply => ih reply (hrest reply daemon₂ hreply)⟩

/-- The document is stored at a path that the name has had since `start`. -/
def Found (lib : Lib) (start daemon : Daemon) (kubo_url name : String) (document : Document) : Prop :=
  ∃ n path, Current start daemon kubo_url name path n ∧ daemon.Stores lib kubo_url path document

section
variable {lib : Lib} {given : Bytes → Prop} {start daemon daemon' : Daemon}
variable {kubo_url name arg : String} {document : Document}

theorem Found.grows (hfound : Found lib start daemon kubo_url name document) (hgrows : daemon.Grows daemon') :
    Found lib start daemon' kubo_url name document := by
  obtain ⟨n, path, hcurrent, hstores⟩ := hfound
  exact ⟨n, path, hcurrent.grows hgrows, hstores.grows hgrows⟩

/-- A document is decoded from the block an argument refers to at the time. -/
theorem dag_get_held :
    Prog.rwp (env lib given) Grows
      (Returned daemon fun daemon' document => ∃ at_reply path, daemon.Grows at_reply ∧ at_reply.Grows daemon' ∧
        at_reply.Locates kubo_url arg path ∧ at_reply.Stores lib kubo_url path document)
      (dag_get lib kubo_url arg) daemon := by
  refine Prog.rwp_issue_bind fun daemon₁ hbefore => ⟨trivial, fun reply daemon₂ hreply => ?_⟩
  have hmoved := hbefore.trans (Replies.grows hreply)
  cases reply with
  | error e => exact fun daemon' hafter => .error (hmoved.trans hafter)
  | ok block =>
    obtain ⟨path, hlocates, hblock, rfl⟩ := Replies.get_ok hreply
    dsimp only
    split
    · exact fun daemon' hafter => .error (hmoved.trans hafter)
    · rename_i document hdecode
      intro daemon' hafter
      refine ⟨hmoved.trans hafter, fun found hfound => ?_⟩
      cases hfound
      exact ⟨daemon₂, path, hmoved, hafter, hlocates, block, hblock, decode_eq_ok_iff.mpr hdecode⟩

/-- What is said of what an attempt comes to. -/
def FetchAttempted (lib : Lib) (start : Daemon) (kubo_url name : String) (daemon daemon' : Daemon)
    (fetched : Fetched) : Prop :=
  daemon.Grows daemon' ∧ ∀ document, fetched = .found document → Found lib start daemon' kubo_url name document

theorem FetchAttempted.failed {error : String} {retry : Bool} (hgrows : daemon.Grows daemon') :
    FetchAttempted lib start kubo_url name daemon daemon' (.failed error retry) :=
  ⟨hgrows, fun _ hfound => by cases hfound⟩

theorem fetch_attempt_held (hgrows : start.Grows daemon) :
    Prog.rwp (env lib given) Grows (FetchAttempted lib start kubo_url name daemon)
      (fetch_attempt lib kubo_url ("/ipns/" ++ name)) daemon := by
  unfold fetch_attempt
  refine Prog.rwp_bind Grows.refl (Prog.rwp_mono dag_get_held fun daemon₁ direct hdirect => ?_)
  cases direct with
  | ok doc =>
    obtain ⟨at_reply, path, hbefore, hafter, hlocates, hstores⟩ := hdirect.2 doc rfl
    intro daemon' hlater
    refine ⟨hdirect.1.trans hlater, fun found hfound => ?_⟩
    cases hfound
    obtain ⟨n, hcurrent⟩ := current_of_last (hgrows.trans hbefore) hlocates.of_ipns
    exact Found.grows ⟨n, path, hcurrent, hstores⟩ (hafter.trans hlater)
  | error dag_err =>
    have hmoved := hdirect.1
    refine Prog.rwp_bind Grows.refl (rwp_resolver ?_)
    intro daemon₂ hresolving
    refine ⟨trivial, fun reply daemon₃ hreply => ?_⟩
    have hmoved := hmoved.trans (hresolving.trans (Replies.grows hreply))
    cases reply with
    | error resolve_err => exact fun daemon₄ hlater daemon' hlast => .failed (hmoved.trans (hlater.trans hlast))
    | ok resolved_path =>
      obtain ⟨hlast, rfl⟩ := Replies.resolve_ok hreply
      intro daemon₄ hlater
      refine Prog.rwp_bind Grows.refl (Prog.rwp_mono dag_get_held fun daemon₅ fallback hfallback => ?_)
      have hmoved := hmoved.trans (hlater.trans hfallback.1)
      cases fallback with
      | error err => exact fun daemon' hend => .failed (hmoved.trans hend)
      | ok doc =>
        obtain ⟨at_reply, path, hbefore, hafter, hlocates, hstores⟩ := hfallback.2 doc rfl
        intro daemon' hend
        refine ⟨hmoved.trans hend, fun found hfound => ?_⟩
        cases hfound
        have hrecorded : resolved_path ∈ at_reply.records kubo_url name :=
          ((hlater.trans hbefore).records kubo_url name).subset (List.mem_of_getLast? hlast)
        rw [hlocates.of_record hrecorded] at hstores
        obtain ⟨n, hcurrent⟩ := current_of_last (hgrows.trans (hdirect.1.trans hresolving)) hlast
        exact ⟨n, resolved_path, hcurrent.grows ((hlater.trans hfallback.1).trans hend),
          hstores.grows (hafter.trans hend)⟩

theorem fetch_attempts_held {left : Nat} {fib_prev fib_curr : Duration} (hgrows : start.Grows daemon) :
    Prog.rwp (env lib given) Grows
      (fun daemon' result => ∀ document, result = .ok document → Found lib start daemon' kubo_url name document)
      (fetch_attempts lib kubo_url ("/ipns/" ++ name) left fib_prev fib_curr) daemon := by
  have hfailed (daemon : Daemon) (error : String) : ∀ daemon', daemon.Grows daemon' → ∀ document,
      (.error error : Except String Document) = .ok document → Found lib start daemon' kubo_url name document := by
    rintro daemon' _ document ⟨⟩
  have hended {daemon₁ : Daemon} {document : Document} (hfound : Found lib start daemon₁ kubo_url name document) :
      ∀ daemon', daemon₁.Grows daemon' → ∀ found, (.ok document : Except String Document) = .ok found →
        Found lib start daemon' kubo_url name found := by
    rintro daemon' hafter _ ⟨⟩
    exact hfound.grows hafter
  induction left generalizing fib_prev fib_curr daemon with
  | zero =>
    unfold fetch_attempts
    refine Prog.rwp_bind Grows.refl (Prog.rwp_mono (fetch_attempt_held hgrows) fun daemon₁ fetched hfetched => ?_)
    cases fetched with
    | found document => exact hended (hfetched.2 document rfl)
    | failed error retry => cases retry <;> exact hfailed daemon₁ error
  | succ left ih =>
    unfold fetch_attempts
    refine Prog.rwp_bind Grows.refl (Prog.rwp_mono (fetch_attempt_held hgrows) fun daemon₁ fetched hfetched => ?_)
    cases fetched with
    | found document => exact hended (hfetched.2 document rfl)
    | failed error retry =>
      cases retry with
      | false => exact hfailed daemon₁ error
      | true =>
        refine Prog.rwp_bind Grows.refl (rwp_resolver ?_)
        intro daemon₂ hbefore
        refine ⟨trivial, fun _ daemon₃ hreply daemon₄ hafter => ih ?_⟩
        exact hgrows.trans (hfetched.1.trans (hbefore.trans ((Replies.grows hreply).trans hafter)))

/-- What is resolved was stored for the name of the DID at some time since the resolver was started. -/
theorem resolve_held {did : String} :
    Prog.rwp (env lib given) Grows
      (fun daemon' result => ∀ document, result = .ok document → ∃ parsed, Did.try_from lib did = .ok parsed ∧
        Found lib daemon daemon' kubo_url parsed.ipns document)
      (KuboDidResolver.resolve lib ⟨kubo_url⟩ did).run daemon := by
  have hfetch (parsed : Did) : Prog.rwp (env lib given) Grows
      (fun daemon' result => ∀ document, result = .ok document →
        Found lib daemon daemon' kubo_url parsed.ipns document)
      (fetch_did_document lib kubo_url parsed).run daemon := by
    unfold fetch_did_document
    refine Prog.rwp_run_bind Grows.refl (Prog.rwp_bind Grows.refl ?_)
    refine Prog.rwp_mono (fetch_attempts_held (Grows.refl daemon)) fun daemon₁ fetched hfetched => ?_
    cases fetched with
    | error e => rintro daemon₂ _ daemon' _ document ⟨⟩
    | ok document =>
      intro daemon₂ hlater
      have hfailed (e : Failure String) (daemon' : Daemon) :
          ∀ found, (.error e : Result String Document) = .ok found →
          Found lib daemon daemon' kubo_url parsed.ipns found := by
        rintro found ⟨⟩
      refine Prog.rwp_lift_bind (fun _ _ => ?_) fun e _ daemon' _ => hfailed e daemon'
      refine Prog.rwp_lift_bind (fun _ _ => ?_) fun e _ daemon' _ => hfailed e daemon'
      refine Prog.rwp_lift_bind (fun _ _ => ?_) fun e _ daemon' _ => hfailed e daemon'
      refine Prog.rwp_lift_bind (fun _ _ => ?_) fun e _ daemon' _ => hfailed e daemon'
      intro daemon' hend found hfound
      cases hfound
      exact (hfetched document rfl).grows (hlater.trans hend)
  unfold KuboDidResolver.resolve
  refine Prog.rwp_lift_bind (fun parsed hparsed => ?_) fun e _ daemon' _ => by rintro document ⟨⟩
  refine Prog.rwp_bind Grows.refl (Prog.rwp_mono (hfetch parsed) fun daemon₁ fetched hfetched => ?_)
  intro daemon' hafter document hdocument
  have hfound := hfetched document (map_err_eq_ok_iff.mp hdocument)
  exact ⟨parsed, validated_eq_ok_iff.mp hparsed, hfound.grows hafter⟩

end

end Daemon

end ma_core.ipfs
