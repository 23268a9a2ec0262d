import MaCore.Ipfs.Held

open rust transition
open ma_core.error ma_core.did ma_core.doc ma_core.msg ma_core.kubo

namespace ma_core.ipfs

/-- What runs against a Kubo: publishers, handlers of requests, and resolvers. -/
inductive Activity where
  | publish (kubo_url : String) (did_document ipns_private_key : Bytes) (options : DidDocumentPublishOptions)
  | handle (clock : Clock) (kubo_url : String) (message_cbor : Bytes)
  | resolve (kubo_url did : String)

/-- What they come to. -/
inductive Outcome where
  | published (result : Result String PublishedDidDocument)
  | handled (result : Result String IpfsPublishDidResponse)
  | resolved (result : Result Error Document)

namespace Activity

def program (lib : Lib) : Activity → Resolver Outcome
  | publish kubo_url did_document ipns_private_key options => do
    let result ← (publish_did_document_to_kubo lib kubo_url did_document ipns_private_key options).run
    return .published result
  | handle clock kubo_url message_cbor => do
    let result ← (handle_ipfs_publish lib clock kubo_url message_cbor).run
    return .handled result
  | resolve kubo_url did => do
    let result ← (KuboDidResolver.resolve lib ⟨kubo_url⟩ did).run
    return .resolved result

/-- The document it is to publish. -/
def Given (lib : Lib) : Activity → Bytes → Prop
  | publish _ did_document _ _, bytes => bytes = did_document
  | handle clock _ message_cbor, bytes => ∃ validated,
    validate_identity_publish_request lib clock message_cbor = .ok validated ∧ validated.document_bytes = bytes
  | resolve .., _ => False

/-- What is true when it returns. -/
def Done (lib : Lib) (start daemon : Daemon) : Activity → Outcome → Prop
  | publish kubo_url did_document _ _, .published result =>
    ∀ published, result = .ok published → Daemon.Published lib start daemon kubo_url did_document published
  | handle clock kubo_url message_cbor, .handled result =>
    ∀ response, result = .ok response → ∃ validated published,
      validate_identity_publish_request lib clock message_cbor = .ok validated ∧
      response.did = some validated.document_did.id ∧ response.cid = some published.cid ∧
      Daemon.Published lib start daemon kubo_url validated.document_bytes published
  | resolve kubo_url did, .resolved result =>
    ∀ document, result = .ok document → ∃ parsed, Did.try_from lib did = .ok parsed ∧
      Daemon.Found lib start daemon kubo_url parsed.ipns document
  | _, _ => False

def kubo_url : Activity → String
  | publish kubo_url .. | handle _ kubo_url _ | resolve kubo_url _ => kubo_url

end Activity

/-- The CID that was published. -/
def Outcome.cid : Outcome → Option String
  | .published (.ok document) => some document.cid
  | .handled (.ok response) => response.cid
  | _ => none

/-- Where a CID is returned, the document that was given is published with it. -/
theorem Activity.Done.published {lib : Lib} {start daemon : Daemon} {activity : Activity}
    {outcome : Outcome} {cid : String}
    (hdone : activity.Done lib start daemon outcome) (hcid : outcome.cid = some cid) :
    ∃ bytes published, activity.Given lib bytes ∧ published.cid = cid ∧
      Daemon.Published lib start daemon activity.kubo_url bytes published := by
  cases activity with
  | publish kubo_url did_document ipns_private_key options =>
    cases outcome with
    | published result =>
      cases result with
      | error e => cases hcid
      | ok published =>
        cases hcid
        exact ⟨did_document, published, rfl, rfl, hdone published rfl⟩
    | handled | resolved => exact hdone.elim
  | handle clock kubo_url message_cbor =>
    cases outcome with
    | handled result =>
      cases result with
      | error e => cases hcid
      | ok response =>
        obtain ⟨validated, published, hvalidated, _, hsame, hpublished⟩ := hdone response rfl
        have hsame : published.cid = cid := Option.some.inj (hsame.symm.trans hcid)
        exact ⟨validated.document_bytes, published, ⟨validated, hvalidated, rfl⟩, hsame, hpublished⟩
    | published | resolved => exact hdone.elim
  | resolve kubo_url did =>
    cases outcome with
    | resolved result => cases hcid
    | published | handled => exact hdone.elim

namespace Daemon

/-- An activity, and what the Kubos held when it was started. -/
structure Started where
  activity : Activity
  start : Daemon

abbrev Request := Lookup ⊕ Outcome

abbrev Request.Reply : Request → Type := Prog.Reported Lookup.Reply Outcome

/-- Activities side by side. Others may import keys and put blocks by themselves. -/
def rules (lib : Lib) : Prog.Rules Request Request.Reply Started Unit Daemon where
  program tag := (tag.activity.program lib).report
  starts daemon tag daemon' := tag.start = daemon ∧ daemon' = daemon
  replies _ daemon request reply daemon' :=
    match request, reply with
    | .inl lookup, reply => daemon.Replies lib lookup reply daemon'
    | .inr _, _ => daemon' = daemon
  during _ _ _ _ := False
  moves daemon _ daemon' := daemon.Grows daemon' ∧ daemon'.records = daemon.records
  permits _ _ := True
  release _ daemon := daemon

def Pre (lib : Lib) (tag : Started) (daemon : Daemon) : Request → Prop
  | .inl lookup => daemon.Allowed lib (tag.activity.Given lib) lookup
  | .inr outcome => tag.activity.Done lib tag.start daemon outcome

section
variable {lib : Lib} {start : Daemon} {s t : Prog.Pool Request Request.Reply Started Daemon}
  {event : Prog.PoolEvent Started Unit} {events : List (Prog.PoolEvent Started Unit)}

theorem program_held (activity : Activity) (daemon : Daemon) :
    Prog.rwp (env lib (activity.Given lib)) Grows (fun daemon' outcome => activity.Done lib daemon daemon' outcome)
      (activity.program lib) daemon := by
  cases activity with
  | publish kubo_url did_document ipns_private_key options =>
    refine Prog.rwp_bind Grows.refl (rwp_resolver (Prog.rwp_mono (publish_held rfl) ?_))
    exact fun _ _ hdone _ hafter published hpublished => (hdone published hpublished).grows hafter
  | handle clock kubo_url message_cbor =>
    refine Prog.rwp_bind Grows.refl (rwp_resolver (Prog.rwp_mono (handle_held ?_) ?_))
    · exact fun validated hvalidated => ⟨validated, hvalidated, rfl⟩
    · intro _ _ hdone _ hafter response hresponse
      obtain ⟨validated, published, hvalidated, hdid, hcid, hpublished⟩ := hdone response hresponse
      exact ⟨validated, published, hvalidated, hdid, hcid, hpublished.grows hafter⟩
  | resolve kubo_url did =>
    refine Prog.rwp_bind Grows.refl (Prog.rwp_mono resolve_held ?_)
    intro _ _ hdone _ hafter document hdocument
    obtain ⟨parsed, hparsed, hfound⟩ := hdone document hdocument
    exact ⟨parsed, hparsed, hfound.grows hafter⟩

theorem guarded (lib : Lib) : (rules lib).Guarded (fun _ => Grows) (Pre lib) where
  refl _ := Grows.refl
  trans _ := Grows.transitive
  starts := by
    rintro daemon tag daemon' ⟨_, hsame⟩ _
    rw [hsame]
    exact Grows.refl daemon
  replies := by
    rintro i daemon (lookup | outcome) reply daemon' hreply _
    · exact Replies.grows hreply
    · change daemon' = daemon at hreply
      rw [hreply]
      exact Grows.refl daemon
  during := by
    rintro _ _ _ _ ⟨⟩
  moves hmove _ _ := hmove.1
  release _ daemon _ := Grows.refl daemon
  programs := by
    rintro daemon ⟨activity, _⟩ _ ⟨rfl, rfl⟩ i
    exact (program_held activity _).report (fun h => h) (fun h => h) (fun h => h)

/-- In every run, what an activity is about to return is as it should be. -/
theorem done (hrun : Run (rules lib).Step ⟨start, []⟩ events s) {i : Nat} {tag : Started} {outcome : Outcome}
    (htask : s.tasks[i]? = some ⟨tag, Prog.reporting outcome⟩) :
    tag.activity.Done lib tag.start s.world outcome := (guarded lib).allowed hrun htask

/-- The document at the path is of the name, and one of those given. -/
def Sourced (lib : Lib) (given : Bytes → Prop) (daemon : Daemon) (kubo_url name path : String) : Prop :=
  ∃ bytes document document_did, given bytes ∧ Document.decode lib bytes = .ok document ∧
    Did.try_from lib document.id = .ok document_did ∧ document_did.ipns = name ∧
    daemon.Stores lib kubo_url path document

theorem Sourced.mono {given given' : Bytes → Prop} {daemon daemon' : Daemon} {kubo_url name path : String}
    (hsourced : Sourced lib given daemon kubo_url name path) (hgiven : ∀ bytes, given bytes → given' bytes)
    (hgrows : daemon.Grows daemon') : Sourced lib given' daemon' kubo_url name path := by
  obtain ⟨bytes, document, document_did, hbytes, hdecode, hdid, hsame, hstores⟩ := hsourced
  exact ⟨bytes, document, document_did, hgiven bytes hbytes, hdecode, hdid, hsame, hstores.grows hgrows⟩

/-- A record that a reply adds is of a document that was given. -/
theorem Replies.sourced {given : Bytes → Prop} {daemon daemon' : Daemon} {lookup : Lookup} {reply : lookup.Reply}
    (hreply : daemon.Replies lib lookup reply daemon') (hallowed : daemon.Allowed lib given lookup)
    {kubo_url name path : String} {n : Nat} (hpath : (daemon'.records kubo_url name)[n]? = some path) :
    (daemon.records kubo_url name)[n]? = some path ∨ Sourced lib given daemon' kubo_url name path := by
  have hgrows := hreply.grows
  induction hreply with
  | named url key_name cid options id value hkey =>
    obtain ⟨_, ⟨found, hfound, rfl⟩, bytes, document, document_did, hgiven, hdecode, hdid, hsame, hstores⟩ := hallowed
    rw [hkey] at hfound
    cases hfound
    by_cases hnamed : kubo_url = url ∧ name = trim id
    · obtain ⟨rfl, rfl⟩ := hnamed
      rw [records_with_record, List.getElem?_append] at hpath
      split at hpath
      · exact .inl hpath
      · rw [List.getElem?_singleton] at hpath
        split at hpath
        · cases hpath
          exact .inr ⟨bytes, document, document_did, hgiven, hdecode, hdid, hsame, hstores.grows hgrows⟩
        · cases hpath
    · rw [records_with_record_of_ne hnamed] at hpath
      exact .inl hpath
  | failed_late _ _ _ _ _ _ ih => exact ih hallowed hpath hgrows
  | listed | imported | put | resolved | got | pinned | slept | scheduled | failed => exact .inl hpath

/-- What the activities of a list were given. -/
def GivenAny (lib : Lib) (tags : List Started) (bytes : Bytes) : Prop := ∃ tag ∈ tags, tag.activity.Given lib bytes

/-- Whatever is done side by side, a name gets only documents of its own that a publisher was given. -/
theorem records_sourced (hrun : Run (rules lib).Step ⟨start, []⟩ events s) {kubo_url name path : String} {n : Nat}
    (hpath : (s.world.records kubo_url name)[n]? = some path) :
    (start.records kubo_url name)[n]? = some path ∨
      Sourced lib (GivenAny lib (s.tasks.map Prog.Task.tag)) s.world kubo_url name path := by
  induction hrun with
  | nil => exact .inl hpath
  | @snoc events event s t hrun hstep ih =>
    have hgrows := (guarded lib).moved ⟨.resolve "" "", s.world⟩ (fun _ => trivial) hstep
    have hgiven (bytes : Bytes) (hbytes : GivenAny lib (s.tasks.map Prog.Task.tag) bytes) :
        GivenAny lib (t.tasks.map Prog.Task.tag) bytes := by
      obtain ⟨tag, htag, hbytes⟩ := hbytes
      refine ⟨tag, ?_, hbytes⟩
      obtain ⟨_, _, htags⟩ | htags := hstep.tags
      · rw [htags]
        exact List.mem_append_left _ htag
      · rwa [htags]
    have hold (hsame : (s.world.records kubo_url name)[n]? = some path) :
        (start.records kubo_url name)[n]? = some path ∨
          Sourced lib (GivenAny lib (t.tasks.map Prog.Task.tag)) t.world kubo_url name path :=
      (ih hsame).imp_right fun hsourced => hsourced.mono hgiven hgrows
    cases hstep with
    | start tag world hstart =>
      rw [hstart.2] at hpath
      exact hold hpath
    | issue i tag c k r world htask hreply =>
      cases c with
      | inl lookup =>
        obtain hsame | hsourced := Replies.sourced hreply ((guarded lib).allowed hrun htask) hpath
        · exact hold hsame
        · refine .inr (hsourced.mono (fun bytes hbytes => hgiven bytes ⟨tag, ?_, hbytes⟩) (Grows.refl _))
          exact List.mem_map.mpr ⟨_, List.mem_of_getElem? htask, rfl⟩
      | inr outcome =>
        rw [show world = s.world from hreply] at hpath
        exact hold hpath
    | during _ _ _ _ _ _ _ hduring => exact hduring.elim
    | drop => exact hold hpath
    | move _ world hmove _ =>
      rw [hmove.2] at hpath
      exact hold hpath

theorem Stores.unique {daemon : Daemon} {kubo_url path : String} {first second : Document}
    (hfirst : daemon.Stores lib kubo_url path first) (hsecond : daemon.Stores lib kubo_url path second) :
    first = second := by
  obtain ⟨block, hblock, hdecode⟩ := hfirst
  obtain ⟨other, hother, hdecode'⟩ := hsecond
  cases hblock.symm.trans hother
  exact Except.ok.inj (hdecode.symm.trans hdecode')

/-- Whatever is done side by side, a resolver returns a document that the name had before, or one of the identity that
    a publisher was given. -/
theorem resolved_sourced (hrun : Run (rules lib).Step ⟨start, []⟩ events s) {i : Nat} {kubo_url did : String}
    {begun : Daemon} {document : Document}
    (htask : s.tasks[i]? = some ⟨⟨.resolve kubo_url did, begun⟩, Prog.reporting (.resolved (.ok document))⟩) :
    ∃ parsed, Did.try_from lib did = .ok parsed ∧
      ((∃ path ∈ start.records kubo_url parsed.ipns, s.world.Stores lib kubo_url path document) ∨
        ∃ tag ∈ s.tasks.map Prog.Task.tag, ∃ bytes document_did, tag.activity.Given lib bytes ∧
          Document.decode lib bytes = .ok document ∧ Did.try_from lib document.id = .ok document_did ∧
          document_did.ipns = parsed.ipns) := by
  obtain ⟨parsed, hparsed, n, path, hcurrent, hstores⟩ := done hrun htask document rfl
  refine ⟨parsed, hparsed, ?_⟩
  obtain hbefore | ⟨bytes, found, document_did, ⟨tag, htag, hgiven⟩, hdecode, hdid, hsame, hfound⟩ :=
    records_sourced hrun hcurrent.2
  · exact .inl ⟨path, List.mem_of_getElem? hbefore, hstores⟩
  · obtain rfl := hfound.unique hstores
    exact .inr ⟨tag, htag, bytes, document_did, hgiven, hdecode, hdid, hsame⟩

end

/-! One identity publishes, and is then resolved. -/

section
open ma_core.reference

@[irreducible] def first_alias : String := ipns_key_name_for_parts library ["unknown"] (ipns 1)

/-- A Kubo with the key of the identity. -/
def idle : Daemon where
  keys _ := Map.empty.insert first_alias (ipns 1)
  blocks _ := Map.empty
  records _ _ := []
  normalized := by rintro _ _ _ ⟨⟩

/-- The same with its document published. -/
def serving : Daemon :=
  (idle.with_block "http://kubo" (normalize_ipfs_arg "bafy") forgedRequest.document).with_record "http://kubo"
    (trim (ipns 1)) "bafy"

def publishing_first : Activity := .publish "http://kubo" forgedRequest.document [] DidDocumentPublishOptions.default

def resolving_first : Activity := .resolve "http://kubo" (ma_core.reference.did 1).base_id

def first_published : PublishedDidDocument where
  cid := "bafy"
  key_name := first_alias
  ipns_id := ipns 1
  local_pinned := true
  cleanup_scheduled := true
  remote_pin := none

variable {given : Bytes → Prop}

theorem exec_resolver {lib : Lib} {α : Type} {p : Publisher α} {a : α} {daemon daemon' : Daemon}
    (hexec : p.Exec (call_env lib given) daemon a daemon') : p.resolver.Exec (env lib given) daemon a daemon' := by
  induction p generalizing daemon with
  | ret b => exact hexec
  | call c k ih =>
    obtain ⟨reply, daemon₁, hreply, hrest⟩ := hexec
    exact ⟨reply, daemon₁, hreply, ih reply hrest⟩

theorem exec_issue {lib : Lib} {call : Call} {reply : call.Reply} {daemon daemon' : Daemon}
    (hreply : daemon.Replies lib (.call call) reply daemon') :
    Prog.Exec (call_env lib given) (.issue call) daemon reply daemon' := ⟨reply, daemon', hreply, rfl, rfl⟩

theorem exec_await {lib : Lib} {α : Type} {x : Publisher (Except String α)} {a : α} {daemon daemon' : Daemon}
    (hexec : x.Exec (call_env lib given) daemon (.ok a) daemon') :
    (await x).run.Exec (call_env lib given) daemon (.ok a) daemon' :=
  Prog.exec_bind.mpr ⟨_, _, hexec, rfl, rfl⟩

theorem idle_listed (key : KuboKey) :
    key ∈ [(⟨first_alias, ipns 1⟩ : KuboKey)] ↔ (idle.keys "http://kubo").get key.name = some key.id := by
  have hget : (idle.keys "http://kubo").get key.name = if key.name = first_alias then some (ipns 1) else none :=
    Map.get_insert ..
  rw [hget, List.mem_singleton]
  constructor
  · rintro rfl
    exact if_pos rfl
  · intro hkey
    split at hkey
    · cases key
      cases hkey
      congr
    · cases hkey

theorem first_published_exec (given : Bytes → Prop) :
    (publish_did_document_to_kubo library "http://kubo" forgedRequest.document []
      DidDocumentPublishOptions.default).run.Exec (call_env library given) idle (.ok first_published) serving := by
  unfold publish_did_document_to_kubo
  have hdocument : context "invalid DID document dag-cbor: " (Document.decode library forgedRequest.document) =
      .ok (claimed 1 2) := map_err_eq_ok_iff.mpr (claimed_decode 1 2)
  have hdid : context ("invalid document DID '" ++ (claimed 1 2).id ++ "': ")
      (Did.try_from library (claimed 1 2).id) = .ok (ma_core.reference.did 1) :=
        map_err_eq_ok_iff.mpr (did_try_from 1)
  have hlist : Prog.Exec (call_env library given) (await (list_keys "http://kubo")).run idle
      (.ok [⟨first_alias, ipns 1⟩]) idle :=
    exec_await (exec_issue (.listed _ _ idle_listed))
  have hkey : Prog.Exec (call_env library given) (require_key library "http://kubo" first_alias (ipns 1) []
      ([(⟨first_alias, ipns 1⟩ : KuboKey)].find? fun k => k.name == first_alias)).run idle (.ok ()) idle := by
    have hfind : ([(⟨first_alias, ipns 1⟩ : KuboKey)].find? fun k => k.name == first_alias) =
        some ⟨first_alias, ipns 1⟩ := List.find?_cons_of_pos (beq_self_eq_true first_alias)
    rw [hfind]
    refine Prog.exec_lift_ok.mpr ⟨reject_if_eq_ok_iff.mpr ?_, rfl⟩
    rw [bne_eq_false_iff_eq]
    exact ipns_trim 1
  have hput : Prog.Exec (call_env library given) (await (dag_put_cbor "http://kubo" forgedRequest.document false)).run
      idle (.ok "bafy")
      (idle.with_block "http://kubo" (normalize_ipfs_arg "bafy") forgedRequest.document) :=
    exec_await (exec_issue (.put _ _ _ _ _ rfl fun stored hstored => by cases hstored))
  have hname : ipns_key_name_for_parts library
      (if DidDocumentPublishOptions.default.key_parts.isEmpty = true then [document_ma_type (claimed 1 2)]
        else DidDocumentPublishOptions.default.key_parts) (ma_core.reference.did 1).ipns = first_alias := by
    unfold first_alias
    rfl
  simp only [hdocument, hdid, hname, Prog.lift_ok_bind, Prog.exec_bind_ok]
  refine ⟨_, _, hlist, (), idle, hkey, "bafy", _, hput, (), _, exec_await (exec_issue (.pinned _ _)), "", serving,
    ?_, (true, none), serving, ?_, rfl, rfl⟩
  · refine exec_await ?_
    unfold name_publish_with_retry name_publish_attempts
    refine Prog.exec_bind.mpr ⟨.ok "", serving, exec_issue (.named _ _ _ _ (ipns 1) _ ?_), rfl, rfl⟩
    exact Map.get_insert_self ..
  · refine Prog.exec_monadLift_ok.mpr ?_
    unfold confirm_pins_and_schedule_cleanup
    exact Prog.exec_bind.mpr ⟨(none, none), serving, ⟨rfl, rfl⟩,
      Prog.exec_bind.mpr ⟨true, serving, exec_issue (.scheduled _ true), rfl, rfl⟩⟩

theorem serving_found : (serving.records "http://kubo" (ipns 1)).getLast? = some (normalize_ipfs_arg "bafy") := by
  have hrecords : serving.records "http://kubo" (trim (ipns 1)) = [normalize_ipfs_arg "bafy"] := records_with_record
  rw [ipns_trim 1] at hrecords
  rw [hrecords]
  rfl

theorem got_by_name {lib : Lib} {daemon : Daemon} {kubo_url name path : String} {block : Bytes}
    (hpath : (daemon.records kubo_url name).getLast? = some path)
    (hblock : (daemon.blocks kubo_url).get path = some block) :
    daemon.Replies lib (.dag_get kubo_url ("/ipns/" ++ name)) (.ok block) daemon :=
  .got _ _ path _ (.inr ⟨name, rfl, hpath⟩) hblock

theorem first_resolved_exec (given : Bytes → Prop) :
    (KuboDidResolver.resolve library ⟨"http://kubo"⟩ (ma_core.reference.did 1).base_id).run.Exec (env library given)
      serving (.ok (claimed 1 2)) serving := by
  have hstored : (serving.blocks "http://kubo").get (normalize_ipfs_arg "bafy") = some forgedRequest.document :=
    Map.get_insert_self ..
  have hgot : serving.Replies library (.dag_get "http://kubo" ("/ipns/" ++ ipns 1))
      (.ok forgedRequest.document) serving :=
    got_by_name serving_found hstored
  have hreplied : (env library given).Replied serving retried_events serving := by
    have hrefused : serving.Replies library (.dag_get "http://kubo" ("/ipns/" ++ (ma_core.reference.did 1).ipns))
      (.error "timeout") serving := .failed _ _ trivial
    have hunnamed : serving.Replies library (.call (.name_resolve "http://kubo"
      ("/ipns/" ++ (ma_core.reference.did 1).ipns) true)) (.error "timeout") serving := .failed _ _ trivial
    exact .cons hrefused (.cons hunnamed (.cons (.slept _) (.cons hgot (.nil serving))))
  rw [Prog.exec_iff_trace]
  exact ⟨retried_events, retried_trace, hreplied⟩

/-- An activity that is started and runs alone. -/
theorem activity_run {lib : Lib} {activity : Activity} {outcome : Outcome} {daemon daemon' : Daemon}
    (hexec : (activity.program lib).Exec (env lib given) daemon outcome daemon')
    (tasks : List (Prog.Task Request Request.Reply Started)) :
    ∃ events, Run (rules lib).Step ⟨daemon, tasks⟩ events
      ⟨daemon', tasks ++ [⟨⟨activity, daemon⟩, Prog.reporting outcome⟩]⟩ := by
  have hstart : (rules lib).Step ⟨daemon, tasks⟩ (.start ⟨activity, daemon⟩)
      ⟨daemon, tasks ++ [⟨⟨activity, daemon⟩, (activity.program lib).report⟩]⟩ := .start _ _ _ ⟨rfl, rfl⟩
  obtain ⟨events, hrun⟩ := (rules lib).run_report (fun h => h) List.getElem?_concat_length hexec
  rw [List.set_append_right _ _ le_rfl, Nat.sub_self, List.set_cons_zero] at hrun
  exact ⟨_, hrun.cons hstart⟩

theorem publish_exec {lib : Lib} {kubo_url : String} {did_document ipns_private_key : Bytes}
    {options : DidDocumentPublishOptions} {result : Result String PublishedDidDocument} {daemon daemon' : Daemon}
    (hexec : (publish_did_document_to_kubo lib kubo_url did_document ipns_private_key options).run.Exec
      (call_env lib given) daemon result daemon') :
    ((Activity.publish kubo_url did_document ipns_private_key options).program lib).Exec (env lib given) daemon
      (.published result) daemon' :=
  Prog.exec_bind.mpr ⟨_, _, exec_resolver hexec, rfl, rfl⟩

theorem resolve_exec {lib : Lib} {kubo_url did : String} {result : Result Error Document} {daemon daemon' : Daemon}
    (hexec : (KuboDidResolver.resolve lib ⟨kubo_url⟩ did).run.Exec (env lib given) daemon result daemon') :
    ((Activity.resolve kubo_url did).program lib).Exec (env lib given) daemon (.resolved result) daemon' :=
  Prog.exec_bind.mpr ⟨_, _, hexec, rfl, rfl⟩

-- the programs below are not to be run to learn what the statements about them are
attribute [local irreducible] Prog.Exec

/-- A publisher has returned. -/
def ended : Prog.Pool Request Request.Reply Started Daemon :=
  ⟨serving, [⟨⟨publishing_first, idle⟩, Prog.reporting (.published (.ok first_published))⟩]⟩

/-- Then a resolver was started and has returned. -/
def found : Prog.Pool Request Request.Reply Started Daemon :=
  ⟨serving, [⟨⟨publishing_first, idle⟩, Prog.reporting (.published (.ok first_published))⟩,
    ⟨⟨resolving_first, serving⟩, Prog.reporting (.resolved (.ok (claimed 1 2)))⟩]⟩

theorem first_run :
    ∃ events later, Run (rules library).Step ⟨idle, []⟩ events ended ∧
      Run (rules library).Step ended later found := by
  obtain ⟨events, hpublished⟩ := activity_run (publish_exec (first_published_exec fun _ => True)) []
  obtain ⟨later, hresolved⟩ := activity_run (resolve_exec (first_resolved_exec fun _ => True)) ended.tasks
  rw [List.nil_append] at hpublished
  exact ⟨events, later, hpublished, hresolved⟩

theorem found_resolver :
    found.tasks[1]? = some ⟨⟨resolving_first, serving⟩, Prog.reporting (.resolved (.ok (claimed 1 2)))⟩ := rfl

theorem resolved_sourced_first : ∃ events, Run (rules library).Step ⟨idle, []⟩ events found ∧
    ∃ parsed, Did.try_from library (ma_core.reference.did 1).base_id = .ok parsed ∧
      ((∃ path ∈ idle.records "http://kubo" parsed.ipns,
        found.world.Stores library "http://kubo" path (claimed 1 2)) ∨
        ∃ tag ∈ found.tasks.map Prog.Task.tag, ∃ bytes document_did, tag.activity.Given library bytes ∧
          Document.decode library bytes = .ok (claimed 1 2) ∧
          Did.try_from library (claimed 1 2).id = .ok document_did ∧ document_did.ipns = parsed.ipns) := by
  obtain ⟨events, later, hpublished, hresolved⟩ := first_run
  exact ⟨_, hpublished.append hresolved, resolved_sourced (hpublished.append hresolved) found_resolver⟩

end

end Daemon

end ma_core.ipfs
