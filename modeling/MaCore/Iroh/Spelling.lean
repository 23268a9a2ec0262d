import MaCore.Iroh.Connections

open rust
open ma_core.error ma_core.doc ma_core.msg ma_core.outbox ma_core.transport

namespace ma_core.iroh

/-- An error but for the protocol its text quotes. -/
def unquoted : Failure Error → Failure Error
  | .err (.NoInboxTransport _) => .err (.NoInboxTransport "")
  | e => e

/-- An outbox but for the protocol it was asked for. -/
def Opened.unspelt (self : Opened) : Wire × Document × String := (self.wire, self.recipient_document, self.did)

/-- What a call does and returns, but for the spelling of the protocol. -/
def observed {α β : Type} (f : α → β) (x : Dial α) : Call (Except (Failure Error) β) := do
  return ((← x.run).map f).mapError unquoted

/-- A command that dials uses this ALPN. -/
def Dials (alpn : String) (c : Command) : Prop := ∀ addr used, c = .connect addr used → used = alpn

/-- Two calls do the same, and dial with this ALPN only. -/
structure Agree {α β : Type} (f : α → β) (alpn : String) (x y : Dial α) : Prop where
  same : observed f x = observed f y
  left : x.run.Issues (Dials alpn)
  right : y.run.Issues (Dials alpn)

/-- The identifier is of another endpoint, and can be dialled. -/
def Remote (parse : String → Except String String) (id endpoint_id : String) : Prop :=
  endpoint_id ≠ id ∧ ∃ target, parse (trim endpoint_id) = .ok target

theorem Dialling.dials {cache_key : String × String} {c : Command} (hc : Dialling cache_key c) :
    Dials cache_key.2 c := by
  intro addr used hconnect
  cases hc with
  | connect addr' =>
    cases hconnect
    rfl
  | get | close_reason | open_bi | evict_if_closed | connect_lock | connect_unlock | insert
  | spawn_outbound_accept_loop => cases hconnect

theorem dials_of_ne {alpn : String} {c : Command} (hc : ∀ addr used, c ≠ .connect addr used) : Dials alpn c :=
  fun addr used hconnect => absurd hconnect (hc addr used)

section
variable {p q : String} {parse : String → Except String String} {id endpoint_id : String}

/-- Discovery does not depend on the spelling, -/
theorem resolve_respelled (hsame : iroh.normalize_protocol p = iroh.normalize_protocol q)
    (services : Option serde_json.Value) :
    resolve_endpoint_for_protocol services p = resolve_endpoint_for_protocol services q := by
  rw [normalize_protocol_eq_transport, normalize_protocol_eq_transport] at hsame
  unfold resolve_endpoint_for_protocol
  rw [hsame]

theorem outbox_target_respelled (hsame : iroh.normalize_protocol p = iroh.normalize_protocol q)
    (to_value : Ipld → Option serde_json.Value) (resolver : Resolver) (did : String) :
    (∃ found, outbox_target to_value resolver did p = .ok found ∧ outbox_target to_value resolver did q = .ok found) ∨
    ∃ e e', outbox_target to_value resolver did p = .error e ∧ outbox_target to_value resolver did q = .error e' ∧
      unquoted e = unquoted e' := by
  unfold outbox_target
  cases resolver did with
  | error e => exact .inr ⟨e, e, rfl, rfl, rfl⟩
  | ok doc =>
    rw [ok_bind, ok_bind, resolve_respelled hsame]
    cases resolve_endpoint_for_protocol (advertised to_value doc) q with
    | none => exact .inr ⟨_, _, rfl, rfl, rfl⟩
    | some endpoint_id => exact .inl ⟨_, rfl, rfl⟩

theorem local_inbox_run {α : Type} (protocol : String) (g : Inbox → Dial α) :
    (local_inbox protocol >>= g).run = .call (.inbox (iroh.normalize_protocol protocol)) fun inbox =>
      match inbox with
      | none => .ret (Err (.NoInboxTransport ("no local inbox for " ++ protocol)))
      | some inbox => (g inbox).run := by
  change Prog.call (Command.inbox (iroh.normalize_protocol protocol)) _ = _
  apply congrArg (Prog.call _)
  funext inbox
  cases inbox with
  | none => rfl
  | some inbox => rfl

/-- and neither does the local inbox. -/
theorem local_inbox_agree {α β : Type} {f : α → β} {g g' : Inbox → Dial α}
    (hsame : iroh.normalize_protocol p = iroh.normalize_protocol q) {alpn : String}
    (hagree : ∀ inbox, Agree f alpn (g inbox) (g' inbox)) :
    Agree f alpn (local_inbox p >>= g) (local_inbox q >>= g') := by
  have hinbox : ∀ protocol, ∀ addr used, Command.inbox protocol ≠ .connect addr used := by
    intro protocol addr used h
    cases h
  constructor
  · unfold observed
    rw [local_inbox_run, local_inbox_run, hsame, Prog.call_bind, Prog.call_bind]
    apply congrArg (Prog.call _)
    funext inbox
    cases inbox with
    | none => rfl
    | some inbox => exact (hagree inbox).same
  · rw [local_inbox_run]
    refine ⟨dials_of_ne (hinbox _), fun inbox => ?_⟩
    cases inbox with
    | none => exact trivial
    | some inbox => exact (hagree inbox).left
  · rw [local_inbox_run]
    refine ⟨dials_of_ne (hinbox _), fun inbox => ?_⟩
    cases inbox with
    | none => exact trivial
    | some inbox => exact (hagree inbox).right

theorem resolve_addr_error {α : Type} {e : String} {f : EndpointAddr → Dial α}
    (hparse : parse (trim endpoint_id) = .error e) :
    (resolve_addr parse endpoint_id >>= f).run = .ret (Err (.Transport ("invalid endpoint id: " ++ e))) := by
  unfold resolve_addr
  rw [hparse]
  rfl

theorem resolve_addr_ok {α : Type} {target : String} {f : EndpointAddr → Dial α}
    (hparse : parse (trim endpoint_id) = .ok target) :
    (resolve_addr parse endpoint_id >>= f).run = .call .relay_url fun relay_url => (f ⟨target, relay_url⟩).run := by
  unfold resolve_addr
  rw [hparse]
  rfl

/-- A call that dials an address with the protocol it is given agrees with the
    same call for another spelling only where both spellings are the normal one. -/
theorem dial_agree_iff {α β γ : Type} {f : α → β} {alpn : String} (dial : String → EndpointAddr → Dial γ)
    (g : String → γ → Dial α)
    (hdial : ∀ protocol addr, (dial protocol addr).run.Issues (Dialling (endpoint_id, protocol)))
    (hconnects : ∀ protocol addr P, (dial protocol addr).run.Issues P → P (.connect addr protocol))
    (hg : ∀ protocol c, (g protocol c).run.Issues (Dials alpn)) :
    Agree f alpn (resolve_addr parse endpoint_id >>= fun addr => dial p addr >>= g p)
        (resolve_addr parse endpoint_id >>= fun addr => dial q addr >>= g q) ↔
      ((∃ target, parse (trim endpoint_id) = .ok target) → p = alpn ∧ q = alpn) := by
  cases hparse : parse (trim endpoint_id) with
  | error e =>
    refine iff_of_true ⟨?_, ?_, ?_⟩ ?_
    · unfold observed
      rw [resolve_addr_error hparse, resolve_addr_error hparse]
    · rw [resolve_addr_error hparse]
      exact trivial
    · rw [resolve_addr_error hparse]
      exact trivial
    · rintro ⟨target, htarget⟩
      cases htarget
  | ok target =>
    have hdials : ∀ protocol,
        (resolve_addr parse endpoint_id >>= fun addr => dial protocol addr >>= g protocol).run.Issues (Dials alpn) →
          protocol = alpn := by
      intro protocol hissues
      rw [resolve_addr_ok hparse] at hissues
      exact hconnects protocol ⟨target, none⟩ _ (hissues.2 none).of_bind _ _ rfl
    constructor
    · intro hagree _
      exact ⟨hdials p hagree.left, hdials q hagree.right⟩
    · intro halpn
      obtain ⟨rfl, rfl⟩ := halpn ⟨target, rfl⟩
      have hrelay : Dials q Command.relay_url := dials_of_ne fun addr used h => by cases h
      have hissues : (resolve_addr parse endpoint_id >>= fun addr => dial q addr >>= g q).run.Issues (Dials q) := by
        rw [resolve_addr_ok hparse]
        refine ⟨hrelay, fun relay_url => ?_⟩
        apply Prog.Issues.bind_ok
        · exact (hdial q _).mono fun c => Dialling.dials
        · exact hg q
      exact ⟨rfl, hissues, hissues⟩

theorem connect_outbox_agree_iff (hsame : iroh.normalize_protocol p = iroh.normalize_protocol q)
    (doc : Document) (did : String) :
    Agree Opened.unspelt (iroh.normalize_protocol p) (connect_outbox parse id doc endpoint_id did p)
        (connect_outbox parse id doc endpoint_id did q) ↔
      (Remote parse id endpoint_id → p = iroh.normalize_protocol p ∧ q = iroh.normalize_protocol p) := by
  unfold connect_outbox
  by_cases hlocal : endpoint_id = id
  · rw [if_pos hlocal, if_pos hlocal]
    refine iff_of_true ?_ fun hremote => absurd hlocal hremote.1
    apply local_inbox_agree hsame
    intro inbox
    exact ⟨rfl, trivial, trivial⟩
  · rw [if_neg hlocal, if_neg hlocal]
    have hdial := @dial_agree_iff p q parse endpoint_id _ _ _ Opened.unspelt (iroh.normalize_protocol p)
      (fun protocol addr => get_or_connect endpoint_id addr protocol)
      (fun protocol connection => return ⟨.CachedChannel connection, doc, did, protocol⟩)
      (fun _ addr => get_or_connect_issues addr) (fun _ _ _ => get_or_connect_connects) (fun _ _ => trivial)
    exact hdial.trans (imp_congr_left (and_iff_right hlocal).symm)

/-- `outbox` agrees for two spellings exactly when it does not get to dial, or
    both are the normal one, -/
theorem outbox_agree_iff (hsame : iroh.normalize_protocol p = iroh.normalize_protocol q)
    (to_value : Ipld → Option serde_json.Value) (resolver : Resolver) (did : String) :
    Agree Opened.unspelt (iroh.normalize_protocol p) (outbox parse id to_value resolver did p)
        (outbox parse id to_value resolver did q) ↔
      ∀ doc endpoint_id, outbox_target to_value resolver did p = .ok (doc, endpoint_id) →
        Remote parse id endpoint_id → p = iroh.normalize_protocol p ∧ q = iroh.normalize_protocol p := by
  unfold outbox
  obtain ⟨⟨doc, endpoint_id⟩, hp, hq⟩ | ⟨e, e', hp, hq, hquoted⟩ :=
    outbox_target_respelled hsame to_value resolver did
  · rw [hp, hq]
    refine (connect_outbox_agree_iff hsame doc did).trans ⟨?_, fun hall => hall doc endpoint_id rfl⟩
    intro hdial doc' endpoint_id' hfound
    cases hfound
    exact hdial
  · rw [hp, hq]
    refine iff_of_true ⟨?_, trivial, trivial⟩ ?_
    · change Prog.ret (Except.error (unquoted e)) = Prog.ret (Except.error (unquoted e'))
      rw [hquoted]
    · intro doc endpoint_id hfound
      cases hfound

/-- and so does `send_broadcast_to`. -/
theorem send_broadcast_to_agree_iff (hsame : iroh.normalize_protocol p = iroh.normalize_protocol q)
    (lib : Lib) (clock : Clock) (message : Message) :
    Agree (fun u : Unit => u) (iroh.normalize_protocol p) (send_broadcast_to lib parse id clock endpoint_id p message)
        (send_broadcast_to lib parse id clock endpoint_id q message) ↔
      (IrohEndpoint.check_broadcast lib clock message = .ok () → (∃ cbor, validated message.encode = .ok cbor) →
        Remote parse id endpoint_id → p = iroh.normalize_protocol p ∧ q = iroh.normalize_protocol p) := by
  unfold send_broadcast_to
  cases hcheck : IrohEndpoint.check_broadcast lib clock message with
  | error e =>
    rw [Prog.lift_error_bind, Prog.lift_error_bind]
    refine iff_of_true ⟨rfl, trivial, trivial⟩ ?_
    intro hok
    cases hok
  | ok _ =>
    rw [Prog.lift_ok_bind, Prog.lift_ok_bind]
    by_cases hlocal : endpoint_id = id
    · rw [if_pos hlocal, if_pos hlocal]
      refine iff_of_true ?_ fun _ _ hremote => absurd hlocal hremote.1
      apply local_inbox_agree hsame
      intro inbox
      cases hnow : now_secs (ε := Error) clock with
      | error e => exact ⟨rfl, trivial, trivial⟩
      | ok now =>
        have hpush : Dials (iroh.normalize_protocol p) (Command.push inbox now message) :=
          dials_of_ne fun addr used h => by cases h
        exact ⟨rfl, ⟨hpush, fun _ => trivial⟩, ⟨hpush, fun _ => trivial⟩⟩
    · rw [if_neg hlocal, if_neg hlocal]
      cases hencode : validated message.encode with
      | error e =>
        rw [Prog.lift_error_bind, Prog.lift_error_bind]
        refine iff_of_true ⟨rfl, trivial, trivial⟩ ?_
        intro _ hcbor
        obtain ⟨cbor, hcbor⟩ := hcbor
        cases hcbor
      | ok cbor =>
        rw [Prog.lift_ok_bind, Prog.lift_ok_bind]
        have hwrite (channel : Channel) :
            Dials (iroh.normalize_protocol p) (Command.write_all channel.connection cbor) :=
          dials_of_ne fun addr used h => by cases h
        have hdial := @dial_agree_iff p q parse endpoint_id _ _ _ (fun u : Unit => u) (iroh.normalize_protocol p)
          (fun protocol addr => open_addr_cached endpoint_id addr protocol)
          (fun _ channel => transport_err "channel write failed: "
            (Prog.issue (Command.write_all channel.connection cbor)))
          (fun _ addr => open_addr_cached_issues addr) (fun _ _ _ => open_addr_cached_connects)
          (fun _ channel => transport_err_issues ⟨hwrite channel, fun _ => trivial⟩)
        refine hdial.trans ⟨fun hparse _ _ hremote => hparse hremote.2, fun hall hparse => ?_⟩
        exact hall rfl ⟨cbor, rfl⟩ ⟨hlocal, hparse⟩

/-- The spelling does not matter for these calls: they find the same endpoint,
    and use the same inbox or the same key, and dial with the normal spelling. -/
structure Alike (lib : Lib) (parse : String → Except String String) (id : String)
    (to_value : Ipld → Option serde_json.Value) (resolver : Resolver) (clock : Clock) (did target : String)
    (message : Message) (p q : String) : Prop where
  resolved : ∀ services, resolve_endpoint_for_protocol services p = resolve_endpoint_for_protocol services q
  outbox : Agree Opened.unspelt (iroh.normalize_protocol p) (outbox parse id to_value resolver did p)
    (outbox parse id to_value resolver did q)
  send_broadcast_to : Agree (fun u : Unit => u) (iroh.normalize_protocol p)
    (send_broadcast_to lib parse id clock target p message) (send_broadcast_to lib parse id clock target q message)

end

/-- The spelling does not matter exactly when neither call gets to dial, or
    both spellings are the normal one. -/
theorem respelling_harmless_iff {p q : String} (hsame : iroh.normalize_protocol p = iroh.normalize_protocol q)
    (lib : Lib) (parse : String → Except String String) (id : String) (to_value : Ipld → Option serde_json.Value)
    (resolver : Resolver) (clock : Clock) (did target : String) (message : Message) :
    Alike lib parse id to_value resolver clock did target message p q ↔
      (∀ doc endpoint_id, outbox_target to_value resolver did p = .ok (doc, endpoint_id) →
        Remote parse id endpoint_id → p = iroh.normalize_protocol p ∧ q = iroh.normalize_protocol p) ∧
      (IrohEndpoint.check_broadcast lib clock message = .ok () → (∃ cbor, validated message.encode = .ok cbor) →
        Remote parse id target → p = iroh.normalize_protocol p ∧ q = iroh.normalize_protocol p) := by
  constructor
  · intro halike
    constructor
    · exact (outbox_agree_iff hsame to_value resolver did).mp halike.outbox
    · exact (send_broadcast_to_agree_iff hsame lib clock message).mp halike.send_broadcast_to
  · rintro ⟨houtbox, hbroadcast⟩
    constructor
    · exact resolve_respelled hsame
    · exact (outbox_agree_iff hsame to_value resolver did).mpr houtbox
    · exact (send_broadcast_to_agree_iff hsame lib clock message).mpr hbroadcast

/-- A document with an inbox of this endpoint. -/
def inbox_document (id : String) : Document :=
  (reference.document 2).set_ma_extension (MaExtension.new.services [transport_string id "/ma/inbox/0.0.1"])

theorem outbox_target_inbox {id : String} (hid : EndpointId id) (did : String) :
    outbox_target to_value (fun _ => .ok (inbox_document id)) did "ma/inbox/0.0.1" =
      .ok (inbox_document id, id) := by
  have hservices : advertised to_value (inbox_document id) =
      some (.Array ((["/ma/inbox/0.0.1"].map (transport_string id)).map .String)) := by
    rw [advertised, inbox_document, Document.services_set_ma_extension, Option.bind_some, to_value_writesStrings]
    rfl
  have hfound := @resolve_transport_strings id hid ["/ma/inbox/0.0.1"] (by decide) "ma/inbox/0.0.1"
  rw [if_pos (by decide)] at hfound
  unfold outbox_target
  rw [ok_bind, hservices, hfound]
  rfl

/-- An endpoint that reaches its own inbox. -/
theorem respelling_harmless_loopback :
    Alike reference.library .ok endpoint_id to_value (fun _ => .ok (inbox_document endpoint_id)) (some 0)
      (reference.did 2).base_id endpoint_id (reference.broadcast 1 "note" 0) "ma/inbox/0.0.1" "//ma/inbox/0.0.1" := by
  apply (respelling_harmless_iff (by decide) reference.library .ok endpoint_id to_value
    (fun _ => .ok (inbox_document endpoint_id)) (some 0) (reference.did 2).base_id endpoint_id
    (reference.broadcast 1 "note" 0)).mpr
  constructor
  · intro doc found hfound hremote
    rw [outbox_target_inbox endpoint_id_valid] at hfound
    cases hfound
    exact absurd rfl hremote.1
  · intro _ _ hremote
    exact absurd rfl hremote.1

def dialler_id : String := "fedcba9876543210fedcba9876543210fedcba9876543210fedcba9876543210"

/-- A peer that is dialled without the leading slash. -/
theorem respelling_matters :
    ¬ ∀ (p q : String), iroh.normalize_protocol p = iroh.normalize_protocol q →
      ∀ (lib : Lib) (parse : String → Except String String) (id : String) (to_value : Ipld → Option serde_json.Value)
        (resolver : Resolver) (clock : Clock) (did target : String) (message : Message),
        Alike lib parse id to_value resolver clock did target message p q := by
  intro hclaim
  have halike := hclaim "ma/inbox/0.0.1" "/ma/inbox/0.0.1" (by decide) reference.library .ok dialler_id to_value
    (fun _ => .ok (inbox_document endpoint_id)) (some 0) (reference.did 2).base_id endpoint_id
    (reference.broadcast 1 "note" 0)
  have hnormal := (outbox_agree_iff (by decide) to_value _ _).mp halike.outbox _ _
    (outbox_target_inbox endpoint_id_valid _) ⟨by decide, _, rfl⟩
  exact absurd hnormal.1 (by decide)

end ma_core.iroh
