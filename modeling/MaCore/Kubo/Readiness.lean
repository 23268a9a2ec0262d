import MaCore.Kubo.Retry

open rust backoff

namespace ma_core.kubo

structure VersionResponse where
  version_upper : String
  version_lower : String

/-- What waits for Kubo asks for: an HTTP client, the body of the reply to a request for the version, and the delay
    between two attempts. -/
inductive Poll where
  | client (timeout : Duration)
  | version (kubo_url : String)
  | sleep (delay : Duration)

abbrev Poll.Reply : Poll → Type
  | client _ => Except String Unit
  | version _ => Except String String
  | sleep _ => Unit

abbrev Waiting := Prog Poll Poll.Reply

section
variable (from_str : String → Except String VersionResponse)

/-- What is made of a reply. -/
def check_version (reply : Except String String) : Except String Unit := do
  let body ← reply
  match from_str body with
  | .error e => .error ("failed parsing version response: " ++ e ++ " body=" ++ body)
  | .ok parsed =>
    let version := if !parsed.version_upper.isEmpty then parsed.version_upper else parsed.version_lower
    if (trim version).isEmpty then .error ("missing version field in response: " ++ body) else return ()

/-- The attempts of `wait_for_api`, with `left` more after this one. -/
def wait_attempts (kubo_url : String) (attempts left : Nat) (fib_prev fib_curr : Duration) :
    Waiting (Except String Unit) := do
  match check_version from_str (← .issue (Poll.version kubo_url)) with
  | .ok () => return .ok ()
  | .error err =>
    match left with
    | 0 => return .error ("kubo API not ready after " ++ toString attempts ++ " attempts: " ++ err)
    | left + 1 =>
      let () ← .issue (Poll.sleep fib_curr)
      let next_ms := fib_prev.as_millis + fib_curr.as_millis
      wait_attempts kubo_url attempts left fib_curr (Duration.from_millis (min next_ms 5000))

def wait_for_api (kubo_url : String) (attempts : Nat) : Waiting (Except String Unit) :=
  match attempts with
  | 0 => return .error "kubo readiness attempts must be >= 1"
  | left + 1 => do
    match ← .issue (Poll.client (Duration.from_secs 6)) with
    | .error e => return .error e
    | .ok () =>
      wait_attempts from_str kubo_url attempts left (Duration.from_millis 0) (Duration.from_millis 200)

end

/-- A request with its reply. -/
abbrev Poll.Event := Σ poll : Poll, poll.Reply

def Poll.Event.slept : Poll.Event → Option Duration
  | ⟨.sleep delay, _⟩ => some delay
  | _ => none

def Poll.Event.sleep (delay : Duration) : Poll.Event := ⟨.sleep delay, ()⟩

def Poll.Event.is_version : Poll.Event → Bool
  | ⟨.version _, _⟩ => true
  | _ => false

theorem slept_poll_sleep (delay : Duration) : (Poll.Event.sleep delay).slept = some delay := rfl

def next_ready_delay (fib_prev fib_curr : Duration) : Duration :=
  Duration.from_millis (min (fib_prev.as_millis + fib_curr.as_millis) 5000)

/-- The delay after an attempt, which are counted from one. -/
def ready_delay (i : Nat) : Duration := Duration.from_millis (capped 200 5000 i)

theorem ready_delays (left : Nat) :
    pauses next_ready_delay left (Duration.from_millis 0) (Duration.from_millis 200) =
      (List.range left).map fun i => ready_delay (i + 1) := by
  have hnext (i : Nat) : next_ready_delay (ready_delay i) (ready_delay (i + 1)) = ready_delay (i + 2) := by
    rw [next_ready_delay, ready_delay, ready_delay, as_millis_from_millis, as_millis_from_millis, min_capped_add]
    rfl
  rw [List.range_eq_range']
  exact pauses_eq_map hnext left 0

section
variable {from_str : String → Except String VersionResponse} {kubo_url : String} {attempts left : Nat}
  {fib_prev fib_curr : Duration} {events : List Poll.Event} {result : Except String Unit}

/-- Kubo replies with a version. -/
def Ready (from_str : String → Except String VersionResponse) (event : Poll.Event) : Prop :=
  ∃ kubo_url reply, event = ⟨.version kubo_url, reply⟩ ∧ check_version from_str reply = .ok ()

/-- One attempt, whether another is to follow, and what it comes to. -/
inductive ReadyAttempt (from_str : String → Except String VersionResponse) (kubo_url : String) (attempts : Nat) :
    List Poll.Event → Bool → Except String Unit → Prop
  | ready {reply : Except String String} (hversion : check_version from_str reply = .ok ()) :
    ReadyAttempt from_str kubo_url attempts [⟨.version kubo_url, reply⟩] false (.ok ())
  | failed {reply : Except String String} {err : String} (hfailed : check_version from_str reply = .error err) :
    ReadyAttempt from_str kubo_url attempts [⟨.version kubo_url, reply⟩] true
      (.error ("kubo API not ready after " ++ toString attempts ++ " attempts: " ++ err))

theorem Ready.is_version {event : Poll.Event} (hready : Ready from_str event) : event.is_version = true := by
  obtain ⟨kubo_url, reply, rfl, _⟩ := hready
  rfl

theorem ReadyAttempt.asks {more : Bool} (hattempt : ReadyAttempt from_str kubo_url attempts events more result) :
    ∃ reply, events = [⟨.version kubo_url, reply⟩] ∧
      match result with
      | .ok () => check_version from_str reply = .ok ()
      | .error text => more = true ∧ ∃ err, check_version from_str reply = .error err ∧
        text = "kubo API not ready after " ++ toString attempts ++ " attempts: " ++ err := by
  cases hattempt with
  | ready hversion => exact ⟨_, rfl, hversion⟩
  | failed hfailed => exact ⟨_, rfl, rfl, _, hfailed, rfl⟩

theorem ReadyAttempt.counts {more : Bool} (hattempt : ReadyAttempt from_str kubo_url attempts events more result) :
    events.filterMap Poll.Event.slept = [] ∧ events.countP Poll.Event.is_version = 1 := by
  obtain ⟨reply, rfl, _⟩ := hattempt.asks
  exact ⟨rfl, rfl⟩

theorem ReadyAttempt.not_ready (hattempt : ReadyAttempt from_str kubo_url attempts events true result) :
    ∀ event ∈ events, ¬ Ready from_str event := by
  cases hattempt with
  | failed hfailed =>
    rintro event hevent ⟨kubo_url, reply, hready, hversion⟩
    cases (List.mem_singleton.mp hevent).symm.trans hready
    cases hfailed.symm.trans hversion

theorem wait_attempts_retried
    (htrace : (wait_attempts from_str kubo_url attempts left fib_prev fib_curr).Trace events result) :
    Retried (ReadyAttempt from_str kubo_url attempts) Poll.Event.sleep
      (pauses next_ready_delay left fib_prev fib_curr) events result := by
  refine retried_of_loop (fun left fib_prev fib_curr events result =>
    (wait_attempts from_str kubo_url attempts left fib_prev fib_curr).Trace events result) ?_ htrace
  intro left fib_prev fib_curr events result hround
  unfold wait_attempts at hround
  obtain ⟨reply, rest, rfl, hrest⟩ := Prog.trace_issue_bind_iff.mp hround
  cases hchecked : check_version from_str reply with
  | ok _ =>
    rw [hchecked] at hrest
    obtain ⟨rfl, rfl⟩ := Prog.trace_ret_iff.mp hrest
    exact .inl (.ready hchecked)
  | error err =>
    rw [hchecked] at hrest
    cases left with
    | zero =>
      obtain ⟨rfl, rfl⟩ := Prog.trace_ret_iff.mp hrest
      exact .inr (.inl ⟨rfl, .failed hchecked⟩)
    | succ before =>
      obtain ⟨_, after, rfl, hnext⟩ := Prog.trace_issue_bind_iff.mp hrest
      exact .inr (.inr ⟨[_], _, after, before, rfl, .failed hchecked, rfl, hnext⟩)

/-- Kubo is asked until it replies with a version, as often as attempts are made and with growing delays. These are all
    used up before the wait fails, and the error is that of the last. -/
theorem wait_for_api_bounded (htrace : (wait_for_api from_str kubo_url attempts).Trace events result) :
    (attempts = 0 ∧ events = [] ∧ result = .error "kubo readiness attempts must be >= 1") ∨
    (∃ e, events = [⟨.client (Duration.from_secs 6), .error e⟩] ∧ result = .error e) ∨
      ∃ (made : Nat) (before : List Poll.Event) (reply : Except String String), 1 ≤ made ∧ made ≤ attempts ∧
        events.countP Poll.Event.is_version = made ∧
        events.filterMap Poll.Event.slept = (List.range (made - 1)).map (fun i => ready_delay (i + 1)) ∧
        events = before ++ [⟨.version kubo_url, reply⟩] ∧ (∀ event ∈ before, ¬ Ready from_str event) ∧
        match result with
        | .ok () => check_version from_str reply = .ok ()
        | .error text => made = attempts ∧ ∃ err, check_version from_str reply = .error err ∧
          text = "kubo API not ready after " ++ toString attempts ++ " attempts: " ++ err := by
  cases attempts with
  | zero =>
    obtain ⟨rfl, rfl⟩ := Prog.trace_ret_iff.mp htrace
    exact .inl ⟨rfl, rfl, rfl⟩
  | succ left =>
    obtain ⟨client, rest, rfl, hrest⟩ := Prog.trace_issue_bind_iff.mp htrace
    cases client with
    | error e =>
      obtain ⟨rfl, rfl⟩ := Prog.trace_ret_iff.mp hrest
      exact .inr (.inl ⟨e, rfl, rfl⟩)
    | ok _ =>
      have hretried := wait_attempts_retried hrest
      have hsleep (delay : Duration) : ¬ Ready from_str (.sleep delay) := by
        intro hready
        cases hready.is_version
      obtain ⟨before, final, more, hevents, hlast, hbefore⟩ :=
        @Retried.before _ _ _ _ _ _ _ _ (fun event => ¬ Ready from_str event) hsleep ReadyAttempt.not_ready hretried
      rw [ready_delays] at hretried
      obtain ⟨made, before', final', more', hpos, hle, hcount, hslept, hevents', hfinal, hspent⟩ :=
        hretried.made slept_poll_sleep (fun _ => rfl) ReadyAttempt.counts
      obtain ⟨reply, rfl, hresult⟩ := hfinal.asks
      obtain ⟨reply', rfl, _⟩ := hlast.asks
      obtain ⟨rfl, hsame⟩ := List.append_inj' (hevents.symm.trans hevents') rfl
      cases hsame
      refine .inr (.inr ⟨made, ⟨.client (Duration.from_secs 6), .ok ()⟩ :: before, reply, hpos, hle, ?_, ?_, ?_, ?_, ?_⟩)
      · exact hcount
      · exact hslept
      · rw [hevents]
        rfl
      · intro event hevent
        obtain rfl | hevent := List.mem_cons.mp hevent
        · intro hready
          cases hready.is_version
        · exact hbefore event hevent
      · cases result with
        | ok _ => exact hresult
        | error text => exact ⟨hspent hresult.1, hresult.2⟩

/-- The body of a Kubo's reply, as `serde_json` reads it. -/
def version_body : String := "\x7b\"Version\":\"0.38.1\",\"Commit\":\"6b53194\"\x7d"

def read_version (body : String) : Except String VersionResponse :=
  if body = version_body then .ok ⟨"0.38.1", ""⟩ else .error "EOF while parsing a value at line 1 column 0"

/-- Kubo starts while it is waited for. -/
def started_meanwhile : List Poll.Event := [
  ⟨.client (Duration.from_secs 6), .ok ()⟩,
  ⟨.version "http://kubo", .error "connection refused"⟩,
  .sleep (Duration.from_millis 200),
  ⟨.version "http://kubo", .ok ""⟩,
  .sleep (Duration.from_millis 200),
  ⟨.version "http://kubo", .ok version_body⟩]

theorem started_meanwhile_trace :
    (wait_for_api read_version "http://kubo" 5).Trace started_meanwhile (.ok ()) := by
  have hempty : check_version read_version (.ok "") =
      .error ("failed parsing version response: EOF while parsing a value at line 1 column 0 body=" ++ "") := by
    decide +kernel
  have hversion : check_version read_version (.ok version_body) = .ok () := by decide +kernel
  unfold wait_for_api
  refine Prog.trace_issue_bind_iff.mpr ⟨.ok (), _, rfl, ?_⟩
  unfold wait_attempts
  refine Prog.trace_issue_bind_iff.mpr ⟨.error "connection refused", _, rfl, ?_⟩
  refine Prog.trace_issue_bind_iff.mpr ⟨(), _, rfl, ?_⟩
  unfold wait_attempts
  refine Prog.trace_issue_bind_iff.mpr ⟨.ok "", _, rfl, ?_⟩
  rw [hempty]
  refine Prog.trace_issue_bind_iff.mpr ⟨(), _, rfl, ?_⟩
  unfold wait_attempts
  refine Prog.trace_issue_bind_iff.mpr ⟨.ok version_body, [], rfl, ?_⟩
  rw [hversion]
  exact .ret _

theorem wait_for_api_bounded_third :
    ∃ made, 1 ≤ made ∧ made ≤ 5 ∧ started_meanwhile.countP Poll.Event.is_version = made ∧
      ∃ before reply, started_meanwhile = before ++ [⟨.version "http://kubo", reply⟩] ∧
        (∀ event ∈ before, ¬ Ready read_version event) ∧ check_version read_version reply = .ok () := by
  obtain ⟨hnone, _⟩ | ⟨e, _, herror⟩ | ⟨made, before, reply, hpos, hle, hcount, _, hevents, hbefore, hready⟩ :=
    wait_for_api_bounded started_meanwhile_trace
  · cases hnone
  · cases herror
  · exact ⟨made, hpos, hle, hcount, before, reply, hevents, hbefore, hready⟩

end

end ma_core.kubo
