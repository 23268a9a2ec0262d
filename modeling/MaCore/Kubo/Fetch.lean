import MaCore.Base.Backoff
import MaCore.Base.Trace
import MaCore.Ipfs.Reference

open rust
open ma_core.error ma_core.did ma_core.doc ma_core.ipfs

namespace ma_core.kubo

/-- What a resolver asks for: what a publisher may, and a DAG node. -/
inductive Lookup where
  | call (call : Call)
  | dag_get (kubo_url cid : String)

abbrev Lookup.Reply : Lookup → Type
  | call c => c.Reply
  | dag_get .. => Except String Bytes

/-- Code that resolves. -/
abbrev Resolver := Prog Lookup Lookup.Reply

/-- Code that publishes, as part of it. -/
def Publisher.resolver {α : Type} : Publisher α → Resolver α
  | .ret a => .ret a
  | .call c k => .call (.call c) fun reply => resolver (k reply)

instance : MonadLift Publisher Resolver := ⟨Publisher.resolver⟩

section
variable (lib : Lib)

/-- `dag_get` for a document. -/
def dag_get (kubo_url cid : String) : Resolver (Except String Document) := do
  match ← Prog.issue (Lookup.dag_get kubo_url cid) with
  | .error e => return .error e
  | .ok bytes =>
    match lib.dagcbor_from_slice bytes >>= Document.deserialize with
    | .error e => return .error ("failed parsing dag/get response for " ++ cid ++ ": " ++ e)
    | .ok document => return .ok document

def should_retry_name_resolve_error (err : String) : Bool :=
  let text := String.ofList (err.toList.map to_ascii_lowercase)
  if contains "http status client error" text then false
  else if contains "missing path in name/resolve response" text then false
  else true

/-- What one attempt of the loop in `fetch_did_document` comes to: a document, or an error and
    whether the loop goes on. -/
inductive Fetched where
  | found (document : Document)
  | failed (error : String) (retry : Bool)

def fetch_attempt (kubo_url ipns_path : String) : Resolver Fetched := do
  match ← dag_get lib kubo_url ipns_path with
  | .ok doc => return .found doc
  | .error dag_err =>
    match ← name_resolve kubo_url ipns_path true with
    | .error resolve_err =>
      return .failed ("dag_get and name/resolve both failed for " ++ ipns_path ++ ": dag=" ++ dag_err ++
        " resolve=" ++ resolve_err) (should_retry_name_resolve_error resolve_err)
    | .ok resolved_path =>
      match ← dag_get lib kubo_url resolved_path with
      | .ok doc => return .found doc
      | .error err =>
        return .failed ("dag_get failed for " ++ ipns_path ++ ": direct=" ++ dag_err ++ " resolved=" ++ err) true

/-- The attempts of `fetch_did_document`, with `left` more after this one. -/
def fetch_attempts (kubo_url ipns_path : String) (left : Nat) (fib_prev fib_curr : Duration) :
    Resolver (Except String Document) := do
  match ← fetch_attempt lib kubo_url ipns_path with
  | .found document => return .ok document
  | .failed error false => return .error error
  | .failed error true =>
    match left with
    | 0 => return .error error
    | left + 1 =>
      sleep fib_curr
      let next_ms := fib_prev.as_millis + fib_curr.as_millis
      fetch_attempts kubo_url ipns_path left fib_curr (Duration.from_millis (min next_ms 2000))

def fetch_did_document (kubo_url : String) (did : Did) : ExceptT (Failure String) Resolver Document := do
  let ipns_path := "/ipns/" ++ did.ipns
  let document ← ExceptT.mk do
    let fetched ← fetch_attempts lib kubo_url ipns_path 3 (Duration.from_millis 0) (Duration.from_millis 150)
    return of_library (fun last_err => "failed to fetch DID document for " ++ did.id ++ " via " ++ ipns_path ++
      " after retries: " ++ last_err) fetched
  context "" (document.validate lib)
  context "" (document.verify lib)
  let doc_did ← context ("DID document has invalid id '" ++ document.id ++ "': ") (Did.try_from lib document.id)
  reject_if (doc_did.ipns != did.ipns) ("DID document IPNS mismatch: expected " ++ did.base_id ++
    " but document id is " ++ document.id)
  return document

structure KuboDidResolver where
  kubo_url : String

def KuboDidResolver.resolve (self : KuboDidResolver) (did : String) : ExceptT (Failure Error) Resolver Document := do
  let parsed ← validated (Did.try_from lib did)
  let did_key := parsed.base_id
  ExceptT.mk do
    let fetched ← (fetch_did_document lib self.kubo_url parsed).run
    return map_err (fun error => .Resolution did_key error) fetched

end

/-! The requests of a resolver, whatever is replied. -/

/-- A request with its reply. -/
abbrev Lookup.Event := Σ lookup : Lookup, lookup.Reply

/-- The delay between two attempts. -/
def Lookup.Event.slept : Lookup.Event → Option Duration
  | ⟨.call (.sleep delay), _⟩ => some delay
  | _ => none

def Lookup.Event.sleep (delay : Duration) : Lookup.Event := ⟨.call (.sleep delay), ()⟩

/-- It is a request to Kubo, and not a delay. -/
def Lookup.Event.is_request (event : Lookup.Event) : Bool := event.slept.isNone

def Fetched.retry : Fetched → Bool
  | found _ => false
  | failed _ retry => retry

def Fetched.result : Fetched → Except String Document
  | found document => .ok document
  | failed error _ => .error error

/-- The last reply encodes the document. It was asked for by the IPNS path or by what that was resolved to. -/
def Received (lib : Lib) (kubo_url ipns_path : String) (events : List Lookup.Event) (document : Document) : Prop :=
  ∃ before cid bytes, events = before ++ [⟨.dag_get kubo_url cid, .ok bytes⟩] ∧
    Document.decode lib bytes = .ok document ∧
    (cid = ipns_path ∨ ⟨.call (.name_resolve kubo_url ipns_path true), .ok cid⟩ ∈ before)

/-- The last reply is an error on which no other attempt is made. -/
def Refused (kubo_url ipns_path : String) (events : List Lookup.Event) : Prop :=
  ∃ before text, events = before ++ [⟨.call (.name_resolve kubo_url ipns_path true), .error text⟩] ∧
    should_retry_name_resolve_error text = false

/-- One attempt, whether another is to follow, and what it comes to. -/
def Attempted (lib : Lib) (kubo_url ipns_path : String) (events : List Lookup.Event) (retry : Bool)
    (result : Except String Document) : Prop :=
  ∃ fetched, (fetch_attempt lib kubo_url ipns_path).Trace events fetched ∧ fetched.retry = retry ∧
    fetched.result = result

section
variable {lib : Lib} {kubo_url ipns_path cid : String} {events : List Lookup.Event}

theorem decode_eq_ok_iff {bytes : Bytes} {document : Document} :
    Document.decode lib bytes = .ok document ↔
      (lib.dagcbor_from_slice bytes >>= Document.deserialize) = .ok document := by
  unfold Document.decode
  cases lib.dagcbor_from_slice bytes with
  | error e => simp [of_library]
  | ok value => exact of_library_eq_ok_iff

/-- A request of a publisher and what comes of its reply. -/
theorem trace_resolver_bind_iff (call : Call) {β : Type} {f : call.Reply → Resolver β} {b : β} :
    ((liftM (Prog.issue call : Publisher call.Reply) : Resolver call.Reply) >>= f).Trace events b ↔
      ∃ reply rest, events = ⟨.call call, reply⟩ :: rest ∧ (f reply).Trace rest b := Prog.trace_call_iff

/-- A node is asked for once, and what is returned is decoded from the reply. -/
theorem dag_get_trace {result : Except String Document}
    (htrace : (dag_get lib kubo_url cid).Trace events result) :
    ∃ reply, events = [⟨.dag_get kubo_url cid, reply⟩] ∧
      ∀ document, result = .ok document → ∃ bytes, reply = .ok bytes ∧ Document.decode lib bytes = .ok document := by
  obtain ⟨reply, rest, rfl, hrest⟩ := Prog.trace_issue_bind_iff.mp htrace
  cases reply with
  | error e =>
    obtain ⟨rfl, rfl⟩ := Prog.trace_ret_iff.mp hrest
    exact ⟨.error e, rfl, fun document hresult => by cases hresult⟩
  | ok bytes =>
    dsimp only at hrest
    split at hrest
    · obtain ⟨rfl, rfl⟩ := Prog.trace_ret_iff.mp hrest
      exact ⟨.ok bytes, rfl, fun document hresult => by cases hresult⟩
    · rename_i document hdecode
      obtain ⟨rfl, rfl⟩ := Prog.trace_ret_iff.mp hrest
      refine ⟨.ok bytes, rfl, fun found hresult => ?_⟩
      cases hresult
      exact ⟨bytes, rfl, decode_eq_ok_iff.mpr hdecode⟩

/-- An attempt makes three requests at most. It comes to the document it has received, or to an
    error that ends the loop or not. -/
theorem fetch_attempt_trace {fetched : Fetched}
    (htrace : (fetch_attempt lib kubo_url ipns_path).Trace events fetched) :
    events.length ≤ 3 ∧ (∀ event ∈ events, event.slept = none) ∧
      match fetched with
      | .found document => Received lib kubo_url ipns_path events document
      | .failed _ retry => retry = false → Refused kubo_url ipns_path events := by
  obtain ⟨direct, after, result, rfl, hdirect, hrest⟩ := Prog.trace_bind_iff.mp htrace
  obtain ⟨reply, rfl, hreply⟩ := dag_get_trace hdirect
  cases result with
  | ok doc =>
    obtain ⟨rfl, rfl⟩ := Prog.trace_ret_iff.mp hrest
    obtain ⟨bytes, rfl, hdecode⟩ := hreply doc rfl
    refine ⟨by simp, by simp [Lookup.Event.slept], ⟨[], ipns_path, bytes, rfl, hdecode, .inl rfl⟩⟩
  | error dag_err =>
    obtain ⟨resolved, rest, rfl, hresolved⟩ :=
      (trace_resolver_bind_iff (.name_resolve kubo_url ipns_path true)).mp hrest
    cases resolved with
    | error resolve_err =>
      obtain ⟨rfl, rfl⟩ := Prog.trace_ret_iff.mp hresolved
      refine ⟨by simp, by simp [Lookup.Event.slept], fun hretry => ?_⟩
      exact ⟨[⟨.dag_get kubo_url ipns_path, reply⟩], resolve_err, rfl, hretry⟩
    | ok resolved_path =>
      obtain ⟨fallback, after, result, rfl, hfallback, hlast⟩ := Prog.trace_bind_iff.mp hresolved
      obtain ⟨second, rfl, hsecond⟩ := dag_get_trace hfallback
      cases result with
      | ok doc =>
        obtain ⟨rfl, rfl⟩ := Prog.trace_ret_iff.mp hlast
        obtain ⟨bytes, rfl, hdecode⟩ := hsecond doc rfl
        refine ⟨by simp, by simp [Lookup.Event.slept], ⟨[_, _], resolved_path, bytes, rfl, hdecode, .inr ?_⟩⟩
        exact List.mem_cons_of_mem _ List.mem_cons_self
      | error err =>
        obtain ⟨rfl, rfl⟩ := Prog.trace_ret_iff.mp hlast
        exact ⟨by simp, by simp [Lookup.Event.slept], fun hretry => by cases hretry⟩

/-- The delay after these two. -/
def next_delay (fib_prev fib_curr : Duration) : Duration :=
  Duration.from_millis (min (fib_prev.as_millis + fib_curr.as_millis) 2000)

theorem fetch_attempts_retried {left : Nat} {fib_prev fib_curr : Duration} {result : Except String Document}
    (htrace : (fetch_attempts lib kubo_url ipns_path left fib_prev fib_curr).Trace events result) :
    backoff.Retried (Attempted lib kubo_url ipns_path) Lookup.Event.sleep
      (backoff.pauses next_delay left fib_prev fib_curr) events result := by
  refine backoff.retried_of_loop (fun left fib_prev fib_curr events result =>
    (fetch_attempts lib kubo_url ipns_path left fib_prev fib_curr).Trace events result) ?_ htrace
  intro left fib_prev fib_curr events result hround
  unfold fetch_attempts at hround
  obtain ⟨first, after, fetched, rfl, hfirst, hrest⟩ := Prog.trace_bind_iff.mp hround
  match fetched, left, hrest with
  | .found document, _, hrest | .failed error false, _, hrest =>
    obtain ⟨rfl, rfl⟩ := Prog.trace_ret_iff.mp hrest
    rw [List.append_nil]
    exact .inl ⟨_, hfirst, rfl, rfl⟩
  | .failed error true, 0, hrest =>
    obtain ⟨rfl, rfl⟩ := Prog.trace_ret_iff.mp hrest
    rw [List.append_nil]
    exact .inr (.inl ⟨rfl, _, hfirst, rfl, rfl⟩)
  | .failed error true, before + 1, hrest =>
    obtain ⟨_, rest, rfl, hnext⟩ := (trace_resolver_bind_iff (.sleep fib_curr)).mp hrest
    exact .inr (.inr ⟨first, _, rest, before, rfl, ⟨_, hfirst, rfl, rfl⟩, rfl, hnext⟩)

/-- These are all the ways the loop may go. -/
theorem fetch_attempts_of_retried {left : Nat} {fib_prev fib_curr : Duration} {result : Except String Document}
    (hretried : backoff.Retried (Attempted lib kubo_url ipns_path) Lookup.Event.sleep
      (backoff.pauses next_delay left fib_prev fib_curr) events result) :
    (fetch_attempts lib kubo_url ipns_path left fib_prev fib_curr).Trace events result := by
  have hended {left : Nat} {fib_prev fib_curr : Duration} {events : List Lookup.Event} {fetched : Fetched}
      (hattempt : (fetch_attempt lib kubo_url ipns_path).Trace events fetched)
      (hend : fetched.retry = false ∨ left = 0) :
      (fetch_attempts lib kubo_url ipns_path left fib_prev fib_curr).Trace events fetched.result := by
    unfold fetch_attempts
    refine Prog.trace_bind_iff.mpr ⟨events, [], fetched, (List.append_nil events).symm, hattempt, ?_⟩
    match fetched, left, hend with
    | .found document, _, _ | .failed error false, _, _ | .failed error true, 0, _ => exact .ret _
  induction left generalizing fib_prev fib_curr events with
  | zero =>
    cases hretried with
    | done hattempt | spent hattempt =>
      obtain ⟨fetched, hattempt, _, rfl⟩ := hattempt
      exact hended hattempt (.inr rfl)
  | succ left ih =>
    cases hretried with
    | done hattempt =>
      obtain ⟨fetched, hattempt, hretry, rfl⟩ := hattempt
      exact hended hattempt (.inl hretry)
    | again hattempt hrest =>
      obtain ⟨fetched, hattempt, hretry, rfl⟩ := hattempt
      unfold fetch_attempts
      refine Prog.trace_bind_iff.mpr ⟨_, _, fetched, rfl, hattempt, ?_⟩
      match fetched, hretry with
      | .failed error true, _ =>
        exact (trace_resolver_bind_iff (.sleep fib_curr)).mpr ⟨(), _, rfl, ih hrest⟩

/-- A document is returned if it was fetched and is the valid document of the DID. -/
structure Accepted (lib : Lib) (did : Did) (fetched : Except String Document) (document : Document) : Prop where
  fetched : fetched = .ok document
  validate : document.validate lib = .ok ()
  verify : document.verify lib = .ok ()
  did : ∃ doc_did, Did.try_from lib document.id = .ok doc_did ∧ doc_did.ipns = did.ipns

/-- After the attempts nothing more is requested. -/
theorem fetch_did_document_trace {did : Did} {result : Result String Document}
    (htrace : (fetch_did_document lib kubo_url did).run.Trace events result) :
    ∃ fetched, (fetch_attempts lib kubo_url ("/ipns/" ++ did.ipns) 3 (Duration.from_millis 0)
        (Duration.from_millis 150)).Trace events fetched ∧
      ∀ document, result = .ok document → Accepted lib did fetched document := by
  unfold fetch_did_document at htrace
  obtain ⟨before, after, document, rfl, hfetched, hchecked⟩ | ⟨error, hfetched, rfl⟩ :=
    Prog.trace_run_bind_iff.mp htrace
  · obtain ⟨attempts, rest, fetched, rfl, hattempts, hrest⟩ := Prog.trace_bind_iff.mp hfetched
    obtain ⟨rfl, hdocument⟩ := Prog.trace_ret_iff.mp hrest
    have hfound : fetched = .ok document := of_library_eq_ok_iff.mp hdocument.symm
    simp only [Prog.trace_lift_bind_iff, context, map_err_eq_ok_iff, reject_if_eq_ok_iff, bne_eq_false_iff_eq,
      exists_unit] at hchecked
    obtain ⟨hvalid, ⟨hverify, ⟨doc_did, hdid, ⟨hsame, hreturned⟩ | ⟨_, _, rfl, rfl⟩⟩ | ⟨_, _, rfl, rfl⟩⟩ |
      ⟨_, _, rfl, rfl⟩⟩ | ⟨_, _, rfl, rfl⟩ := hchecked
    · obtain ⟨rfl, rfl⟩ := Prog.trace_ret_iff.mp hreturned
      refine ⟨fetched, by simpa using hattempts, fun found hresult => ?_⟩
      cases hresult
      exact ⟨hfound, hvalid, hverify, doc_did, hdid, hsame⟩
    all_goals exact ⟨fetched, by simpa using hattempts, fun found hresult => by cases hresult⟩
  · obtain ⟨attempts, rest, fetched, rfl, hattempts, hrest⟩ := Prog.trace_bind_iff.mp hfetched
    obtain ⟨rfl, _⟩ := Prog.trace_ret_iff.mp hrest
    exact ⟨fetched, by simpa using hattempts, fun found hresult => by cases hresult⟩

/-- The delays a fetch may make. -/
def FETCH_DELAYS : List Duration := [150, 150, 300].map Duration.from_millis

theorem slept_sleep (delay : Duration) : (Lookup.Event.sleep delay).slept = some delay := rfl

theorem Attempted.requests {retry : Bool} {result : Except String Document}
    (hattempted : Attempted lib kubo_url ipns_path events retry result) :
    events.filterMap Lookup.Event.slept = [] ∧ 0 ≤ events.countP Lookup.Event.is_request ∧
      events.countP Lookup.Event.is_request ≤ 3 := by
  obtain ⟨_, htrace, _, _⟩ := hattempted
  obtain ⟨hlength, hslept, _⟩ := fetch_attempt_trace htrace
  exact ⟨List.filterMap_eq_nil_iff.mpr hslept, Nat.zero_le _, List.countP_le_length.trans hlength⟩

/-- The requests are those of at most four attempts, three each, with the delays between them. Attempts end before on
    a document or on an error that is final. -/
theorem fetch_attempts_bounded {result : Except String Document}
    (htrace : (fetch_attempts lib kubo_url ipns_path 3 (Duration.from_millis 0) (Duration.from_millis 150)).Trace
      events result) :
    ∃ used ≤ 3, events.filterMap Lookup.Event.slept = FETCH_DELAYS.take used ∧
      events.countP Lookup.Event.is_request ≤ 3 * (used + 1) ∧
      match result with
      | .ok document => Received lib kubo_url ipns_path events document
      | .error _ => used = 3 ∨ Refused kubo_url ipns_path events := by
  have hretried := fetch_attempts_retried htrace
  have hdelays : backoff.pauses next_delay 3 (Duration.from_millis 0) (Duration.from_millis 150) = FETCH_DELAYS := by
    decide
  rw [hdelays] at hretried
  obtain ⟨used, before, final, retry, rfl, ⟨fetched, hfinal, rfl, rfl⟩, hused, hle, hspent⟩ :=
    hretried.last slept_sleep fun hattempt => hattempt.requests.1
  obtain ⟨_, _, hfetched⟩ := fetch_attempt_trace hfinal
  refine ⟨used, hle, hused, ?_, ?_⟩
  · have hcount := hretried.countP_bounds slept_sleep (fun _ => rfl) Attempted.requests
    rw [hused, List.length_take, Nat.min_eq_left hle] at hcount
    exact hcount.2
  · cases fetched with
    | found document =>
      obtain ⟨first, cid, bytes, rfl, hdecode, hcid⟩ := hfetched
      refine ⟨before ++ first, cid, bytes, (List.append_assoc _ _ _).symm, hdecode, ?_⟩
      exact hcid.imp_right (List.mem_append_right before)
    | failed error retry =>
      cases retry with
      | true => exact .inl (hspent rfl)
      | false =>
        obtain ⟨first, text, rfl, hrefused⟩ := hfetched rfl
        exact .inr ⟨before ++ first, text, (List.append_assoc _ _ _).symm, hrefused⟩

/-- A DID that does not parse is not looked up. Otherwise its IPNS path is. -/
theorem resolve_trace {did : String} {result : Result Error Document}
    (htrace : (KuboDidResolver.resolve lib ⟨kubo_url⟩ did).run.Trace events result) :
    (events = [] ∧ ∃ e, Did.try_from lib did = .error e) ∨
      ∃ parsed fetched, Did.try_from lib did = .ok parsed ∧
        (fetch_attempts lib kubo_url ("/ipns/" ++ parsed.ipns) 3 (Duration.from_millis 0)
          (Duration.from_millis 150)).Trace events fetched ∧
        ∀ document, result = .ok document → Accepted lib parsed fetched document := by
  unfold KuboDidResolver.resolve at htrace
  rw [Prog.trace_lift_bind_iff] at htrace
  obtain ⟨parsed, hparsed, hrest⟩ | ⟨e, hparsed, rfl, rfl⟩ := htrace
  · obtain ⟨before, after, fetched, rfl, hfetched, hreturned⟩ := Prog.trace_bind_iff.mp hrest
    obtain ⟨rfl, rfl⟩ := Prog.trace_ret_iff.mp hreturned
    obtain ⟨attempts, hattempts, haccepted⟩ := fetch_did_document_trace hfetched
    refine .inr ⟨parsed, attempts, validated_eq_ok_iff.mp hparsed, by simpa using hattempts,
      fun document hresult => ?_⟩
    exact haccepted document (map_err_eq_ok_iff.mp hresult)
  · refine .inl ⟨rfl, ?_⟩
    cases htry : Did.try_from lib did with
    | error e => exact ⟨e, rfl⟩
    | ok parsed =>
      rw [htry] at hparsed
      cases hparsed

/-- Whatever is replied, a resolved document is the one the last reply encodes, it is valid, its proof verifies, and
    its DID has the identifier that was to be resolved. -/
theorem resolve_authentic {did : String} {document : Document}
    (htrace : (KuboDidResolver.resolve lib ⟨kubo_url⟩ did).run.Trace events (.ok document)) :
    ∃ parsed doc_did before cid bytes, Did.try_from lib did = .ok parsed ∧
      Did.try_from lib document.id = .ok doc_did ∧ doc_did.ipns = parsed.ipns ∧
      events = before ++ [⟨.dag_get kubo_url cid, .ok bytes⟩] ∧ parse_document_bytes lib bytes = .ok document ∧
      (cid = "/ipns/" ++ parsed.ipns ∨
        ⟨.call (.name_resolve kubo_url ("/ipns/" ++ parsed.ipns) true), .ok cid⟩ ∈ before) := by
  obtain ⟨rfl, e, hinvalid⟩ | ⟨parsed, fetched, hparsed, hattempts, haccepted⟩ := resolve_trace htrace
  · unfold KuboDidResolver.resolve at htrace
    simp only [hinvalid, Prog.trace_lift_bind_iff, validated_eq_ok_iff] at htrace
    obtain ⟨_, hok, _⟩ | ⟨_, _, _, hok⟩ := htrace
    · cases hok
    · cases hok
  · obtain ⟨hfetched, hvalid, hverify, doc_did, hdid, hsame⟩ := haccepted document rfl
    subst hfetched
    obtain ⟨_, _, _, _, before, cid, bytes, hevents, hdecode, hcid⟩ := fetch_attempts_bounded hattempts
    exact ⟨parsed, doc_did, before, cid, bytes, hparsed, hdid, hsame, hevents,
      parse_document_bytes_eq_ok_iff.mpr ⟨hdecode, hvalid, hverify⟩, hcid⟩

/-- The requests are those of at most four attempts, three each. All are used up unless a document is received or the
    resolution of the name is refused. -/
theorem resolve_bounded {did : String} {result : Result Error Document}
    (htrace : (KuboDidResolver.resolve lib ⟨kubo_url⟩ did).run.Trace events result) :
    (events = [] ∧ ∃ e, Did.try_from lib did = .error e) ∨
      ∃ parsed, Did.try_from lib did = .ok parsed ∧
        ∃ used ≤ 3, events.filterMap Lookup.Event.slept = FETCH_DELAYS.take used ∧
          events.countP Lookup.Event.is_request ≤ 3 * (used + 1) ∧
          (used = 3 ∨ (∃ document, Received lib kubo_url ("/ipns/" ++ parsed.ipns) events document) ∨
            Refused kubo_url ("/ipns/" ++ parsed.ipns) events) := by
  obtain hinvalid | ⟨parsed, fetched, hparsed, hattempts, _⟩ := resolve_trace htrace
  · exact .inl hinvalid
  · obtain ⟨used, hle, hslept, hcount, hlast⟩ := fetch_attempts_bounded hattempts
    refine .inr ⟨parsed, hparsed, used, hle, hslept, hcount, ?_⟩
    cases fetched with
    | ok document => exact .inr (.inl ⟨document, hlast⟩)
    | error e => exact hlast.imp_right .inr

theorem dag_get_trace_ok {bytes : Bytes} {document : Document} (hdecode : Document.decode lib bytes = .ok document) :
    (dag_get lib kubo_url cid).Trace [⟨.dag_get kubo_url cid, .ok bytes⟩] (.ok document) := by
  refine Prog.trace_issue_bind_iff.mpr ⟨.ok bytes, [], rfl, ?_⟩
  simp only [decode_eq_ok_iff.mp hdecode]
  exact .ret _

/-- The document is found at the first request, -/
theorem found_trace {bytes : Bytes} {document : Document} (hdecode : Document.decode lib bytes = .ok document) :
    (fetch_attempt lib kubo_url ipns_path).Trace [⟨.dag_get kubo_url ipns_path, .ok bytes⟩] (.found document) :=
  Prog.trace_bind_iff.mpr ⟨_, [], _, (List.append_nil _).symm, dag_get_trace_ok hdecode, .ret _⟩

/-- and where no node is found and the name is not resolved, the error decides. -/
theorem fetch_attempt_trace_error (lib : Lib) (kubo_url ipns_path dag_err resolve_err : String) :
    ∃ error, (fetch_attempt lib kubo_url ipns_path).Trace
      [⟨.dag_get kubo_url ipns_path, .error dag_err⟩,
        ⟨.call (.name_resolve kubo_url ipns_path true), .error resolve_err⟩]
      (.failed error (should_retry_name_resolve_error resolve_err)) :=
  ⟨_, .call (.call (.ret _))⟩

/-- A valid document of the DID is returned once the attempts have come to it. -/
theorem resolve_of_attempts {did : String} {parsed doc_did : Did} {bytes : Bytes} {document : Document}
    (hparsed : Did.try_from lib did = .ok parsed)
    (hattempts : (fetch_attempts lib kubo_url ("/ipns/" ++ parsed.ipns) 3 (Duration.from_millis 0)
      (Duration.from_millis 150)).Trace events (.ok document))
    (hparse : parse_document_bytes lib bytes = .ok document) (hdid : Did.try_from lib document.id = .ok doc_did)
    (hsame : doc_did.ipns = parsed.ipns) :
    (KuboDidResolver.resolve lib ⟨kubo_url⟩ did).run.Trace events (.ok document) := by
  obtain ⟨hdecode, hvalid, hverify⟩ := parse_document_bytes_eq_ok_iff.mp hparse
  have hfetch : (fetch_did_document lib kubo_url parsed).run.Trace events (.ok document) := by
    unfold fetch_did_document
    refine Prog.trace_run_bind_iff.mpr (.inl ⟨events, [], document, (List.append_nil _).symm, ?_, ?_⟩)
    · exact Prog.trace_bind_iff.mpr ⟨events, [], _, (List.append_nil _).symm, hattempts, .ret _⟩
    · simp only [context, hvalid, hverify, hdid, hsame, map_err, reject_if, bne_self_eq_false, Bool.false_eq_true,
        if_false, Prog.lift_ok_bind]
      exact .ret _
  unfold KuboDidResolver.resolve
  rw [validated_eq_ok_iff.mpr hparsed, Prog.lift_ok_bind]
  exact Prog.trace_bind_iff.mpr ⟨events, [], _, (List.append_nil _).symm, hfetch, .ret _⟩

end

/-! A document that is received at the second attempt. -/

section
open ma_core.reference

def retried_events : List Lookup.Event := [
  ⟨.dag_get "http://kubo" ("/ipns/" ++ (did 1).ipns), .error "timeout"⟩,
  ⟨.call (.name_resolve "http://kubo" ("/ipns/" ++ (did 1).ipns) true), .error "timeout"⟩,
  .sleep (Duration.from_millis 150),
  ⟨.dag_get "http://kubo" ("/ipns/" ++ (did 1).ipns), .ok forgedRequest.document⟩]

theorem retried_trace :
    (KuboDidResolver.resolve library ⟨"http://kubo"⟩ (did 1).base_id).run.Trace retried_events
      (.ok (claimed 1 2)) := by
  have hparse : parse_document_bytes library forgedRequest.document = .ok (claimed 1 2) :=
    parse_document_bytes_eq_ok_iff.mpr ⟨claimed_decode 1 2, claimed_validate 1 2, claimed_verify 1 2⟩
  refine resolve_of_attempts (did_try_from 1) (fetch_attempts_of_retried ?_) hparse (did_try_from 1) rfl
  have hretry : should_retry_name_resolve_error "timeout" = true := by decide +kernel
  obtain ⟨error, htrace⟩ :=
    fetch_attempt_trace_error library "http://kubo" ("/ipns/" ++ (did 1).ipns) "timeout" "timeout"
  have hfailed : Attempted library "http://kubo" ("/ipns/" ++ (did 1).ipns) (retried_events.take 2) true
      (.error error) := by
    rw [hretry] at htrace
    exact ⟨_, htrace, rfl, rfl⟩
  have hfound : Attempted library "http://kubo" ("/ipns/" ++ (did 1).ipns) (retried_events.drop 3) false
      (.ok (claimed 1 2)) := ⟨.found (claimed 1 2), found_trace (claimed_decode 1 2), rfl, rfl⟩
  exact .again hfailed (.done hfound)

theorem resolve_authentic_retried :
    ∃ parsed doc_did before cid bytes, Did.try_from library (did 1).base_id = .ok parsed ∧
      Did.try_from library (claimed 1 2).id = .ok doc_did ∧ doc_did.ipns = parsed.ipns ∧
      retried_events = before ++ [⟨.dag_get "http://kubo" cid, .ok bytes⟩] ∧
      parse_document_bytes library bytes = .ok (claimed 1 2) ∧
      (cid = "/ipns/" ++ parsed.ipns ∨
        ⟨.call (.name_resolve "http://kubo" ("/ipns/" ++ parsed.ipns) true), .ok cid⟩ ∈ before) :=
  resolve_authentic retried_trace

theorem resolve_bounded_retried :
    (retried_events = [] ∧ ∃ e, Did.try_from library (did 1).base_id = .error e) ∨
      ∃ parsed, Did.try_from library (did 1).base_id = .ok parsed ∧
        ∃ used ≤ 3, retried_events.filterMap Lookup.Event.slept = FETCH_DELAYS.take used ∧
          retried_events.countP Lookup.Event.is_request ≤ 3 * (used + 1) ∧
          (used = 3 ∨
            (∃ document, Received library "http://kubo" ("/ipns/" ++ parsed.ipns) retried_events document) ∨
            Refused "http://kubo" ("/ipns/" ++ parsed.ipns) retried_events) :=
  resolve_bounded retried_trace

end

end ma_core.kubo
