import MaCore.Base.Backoff
import MaCore.Base.Trace
import MaCore.Ipfs.Publish

open rust backoff
open ma_core.ipfs

namespace ma_core.kubo

/-- A call of a publisher with its reply. -/
abbrev Call.Event := Σ call : Call, call.Reply

/-- The delay between two attempts. -/
def Call.Event.slept : Call.Event → Option Duration
  | ⟨.sleep delay, _⟩ => some delay
  | _ => none

def Call.Event.sleep (delay : Duration) : Call.Event := ⟨.sleep delay, ()⟩

def Call.Event.is_publish : Call.Event → Bool
  | ⟨.name_publish_with_options .., _⟩ => true
  | _ => false

def Call.Event.is_remote_pin : Call.Event → Bool
  | ⟨.pins (.remote_pin_add_named ..), _⟩ => true
  | _ => false

theorem slept_call_sleep (delay : Duration) : (Call.Event.sleep delay).slept = some delay := rfl

/-! Publishing a name. -/

/-- The delay after these two. -/
def next_publish_delay (fib_prev fib_curr : Duration) : Duration :=
  Duration.from_millis (min (fib_prev.as_millis + fib_curr.as_millis) 30000)

/-- The delay after an attempt, which are counted from one. -/
def publish_delay (initial_backoff : Duration) : Nat → Duration
  | 0 => Duration.from_millis 0
  | 1 => initial_backoff
  | i + 2 => Duration.from_millis (min (Nat.fib (i + 2) * initial_backoff.as_millis) 30000)

theorem as_millis_from_millis (millis : Nat) : (Duration.from_millis millis).as_millis = millis :=
  Nat.mul_div_cancel millis (by decide)

theorem publish_delay_as_millis (initial_backoff : Duration) (i : Nat) :
    (publish_delay initial_backoff i).as_millis = capped initial_backoff.as_millis 30000 i := by
  match i with
  | 0 => exact as_millis_from_millis 0
  | 1 => rfl
  | i + 2 => exact as_millis_from_millis _

theorem publish_delays (left : Nat) (initial_backoff : Duration) :
    pauses next_publish_delay left (Duration.from_millis 0) initial_backoff =
      (List.range left).map fun i => publish_delay initial_backoff (i + 1) := by
  have hnext (i : Nat) :
      next_publish_delay (publish_delay initial_backoff i) (publish_delay initial_backoff (i + 1)) =
      publish_delay initial_backoff (i + 2) := by
    rw [next_publish_delay, publish_delay_as_millis, publish_delay_as_millis, min_capped_add]
    rfl
  rw [List.range_eq_range']
  exact pauses_eq_map hnext left 0

/-- The name is published, or resolves to what was to be published. -/
def Acknowledged (kubo_url ipns_id cid value : String) (events : List Call.Event) : Prop :=
  (∃ before key_name options,
    events = before ++ [⟨.name_publish_with_options kubo_url key_name cid options, .ok value⟩]) ∨
  ∃ before, events = before ++ [⟨.name_resolve kubo_url ("/ipns/" ++ ipns_id) true, .ok value⟩] ∧
    trim value = normalize_ipfs_arg cid

/-- One attempt to publish, whether another is to follow, and what it comes to. -/
structure PublishAttempt (kubo_url key_name ipns_id cid : String) (options : IpnsPublishOptions)
    (events : List Call.Event) (more : Bool) (result : Except String String) : Prop where
  slept : events.filterMap Call.Event.slept = []
  published : events.countP Call.Event.is_publish = 1
  acknowledged : ∀ value, result = .ok value → Acknowledged kubo_url ipns_id cid value events
  failed : ∀ text, result = .error text → more = true

section
variable {kubo_url key_name ipns_id cid : String} {options : IpnsPublishOptions} {attempts left : Nat}
  {events : List Call.Event}

/-- The name is resolved once, and the path is returned if it is the one expected. -/
theorem verify_name_target_trace {result : Except String String}
    (htrace : (verify_name_target_after_error kubo_url ipns_id cid).Trace events result) :
    ∃ reply, events = [⟨.name_resolve kubo_url ("/ipns/" ++ ipns_id) true, reply⟩] ∧
      ∀ value, result = .ok value → reply = .ok value ∧ trim value = normalize_ipfs_arg cid := by
  obtain ⟨reply, rest, rfl, hrest⟩ := Prog.trace_call_iff.mp htrace
  cases reply with
  | error e =>
    obtain ⟨rfl, rfl⟩ := Prog.trace_ret_iff.mp hrest
    exact ⟨_, rfl, fun value hvalue => by cases hvalue⟩
  | ok resolved =>
    change Prog.Trace (if trim resolved = normalize_ipfs_arg cid then _ else _) rest result at hrest
    split at hrest
    · rename_i hexpected
      obtain ⟨rfl, rfl⟩ := Prog.trace_ret_iff.mp hrest
      refine ⟨_, rfl, fun value hvalue => ?_⟩
      cases hvalue
      exact ⟨rfl, hexpected⟩
    · obtain ⟨rfl, rfl⟩ := Prog.trace_ret_iff.mp hrest
      exact ⟨_, rfl, fun value hvalue => by cases hvalue⟩

/-- What the loop does after an attempt that was not acknowledged. -/
def after_failure (kubo_url key_name ipns_id cid : String) (options : IpnsPublishOptions) (attempts left : Nat)
    (fib_prev fib_curr : Duration) (text : String) : Publisher (Except String String) :=
  match left with
  | 0 => return .error text
  | left + 1 => do
    sleep fib_curr
    name_publish_attempts kubo_url key_name ipns_id cid options attempts left fib_curr
      (next_publish_delay fib_prev fib_curr)

/-- An attempt publishes once. If that fails and the name does not resolve to the target, the loop goes on. -/
theorem name_publish_attempts_trace {fib_prev fib_curr : Duration} {result : Except String String}
    (htrace : (name_publish_attempts kubo_url key_name ipns_id cid options attempts left fib_prev fib_curr).Trace
      events result) :
    PublishAttempt kubo_url key_name ipns_id cid options events false result ∨
      ∃ attempt rest text, events = attempt ++ rest ∧
        PublishAttempt kubo_url key_name ipns_id cid options attempt true (.error text) ∧
        (after_failure kubo_url key_name ipns_id cid options attempts left fib_prev fib_curr text).Trace rest
          result := by
  unfold name_publish_attempts at htrace
  obtain ⟨published, rest, rfl, hrest⟩ := Prog.trace_issue_bind_iff.mp htrace
  cases published with
  | ok value =>
    obtain ⟨rfl, rfl⟩ := Prog.trace_ret_iff.mp hrest
    refine .inl ⟨rfl, rfl, fun found hvalue => ?_, fun text hvalue => by cases hvalue⟩
    cases hvalue
    exact .inl ⟨[], key_name, options, rfl⟩
  | error err =>
    obtain ⟨verify, after, verified, rfl, hverify, hafter⟩ := Prog.trace_bind_iff.mp hrest
    obtain ⟨reply, rfl, hreply⟩ := verify_name_target_trace hverify
    cases verified with
    | ok value =>
      obtain ⟨rfl, rfl⟩ := Prog.trace_ret_iff.mp hafter
      obtain ⟨rfl, htarget⟩ := hreply value rfl
      refine .inl ⟨rfl, rfl, fun found hvalue => ?_, fun text hvalue => by cases hvalue⟩
      cases hvalue
      exact .inr ⟨[_], rfl, htarget⟩
    | error mismatch =>
      have hattempt (text : String) : PublishAttempt kubo_url key_name ipns_id cid options
          [⟨.name_publish_with_options kubo_url key_name cid options, .error err⟩,
            ⟨.name_resolve kubo_url ("/ipns/" ++ ipns_id) true, reply⟩] true (.error text) := by
        refine ⟨rfl, rfl, fun value hvalue => ?_, fun _ _ => rfl⟩
        cases hvalue
      refine .inr ⟨_, after, "name publish failed after " ++ toString attempts ++ " attempt(s): " ++ err, rfl,
        hattempt _, ?_⟩
      cases left with
      | zero => exact hafter
      | succ left => exact hafter

theorem name_publish_attempts_retried {fib_prev fib_curr : Duration} {result : Except String String}
    (htrace : (name_publish_attempts kubo_url key_name ipns_id cid options attempts left fib_prev fib_curr).Trace
      events result) :
    Retried (PublishAttempt kubo_url key_name ipns_id cid options) Call.Event.sleep
      (pauses next_publish_delay left fib_prev fib_curr) events result := by
  refine retried_of_loop (fun left fib_prev fib_curr events result =>
    (name_publish_attempts kubo_url key_name ipns_id cid options attempts left fib_prev fib_curr).Trace events result)
    ?_ htrace
  intro left fib_prev fib_curr events result hround
  obtain hlast | ⟨attempt, rest, text, rfl, hattempt, hrest⟩ := name_publish_attempts_trace hround
  · exact .inl hlast
  · cases left with
    | zero =>
      obtain ⟨rfl, rfl⟩ := Prog.trace_ret_iff.mp hrest
      rw [List.append_nil]
      exact .inr (.inl ⟨rfl, hattempt⟩)
    | succ before =>
      obtain ⟨_, after, rfl, hnext⟩ := Prog.trace_issue_bind_iff.mp hrest
      exact .inr (.inr ⟨attempt, _, after, before, rfl, hattempt, rfl, hnext⟩)

/-- A name is published as often as attempts are made, and these are all used up before it fails. It succeeds on an
    acknowledgement that comes last. -/
theorem name_publish_with_retry_bounded {initial_backoff : Duration} {result : Except String String}
    (htrace : (name_publish_with_retry kubo_url key_name ipns_id cid options attempts initial_backoff).Trace events
      result) :
    (attempts = 0 ∧ events = [] ∧ result = .error "name publish attempts must be >= 1") ∨
      ∃ made, 1 ≤ made ∧ made ≤ attempts ∧ events.countP Call.Event.is_publish = made ∧
        events.filterMap Call.Event.slept =
          (List.range (made - 1)).map (fun i => publish_delay initial_backoff (i + 1)) ∧
        match result with
        | .ok value => Acknowledged kubo_url ipns_id cid value events
        | .error _ => made = attempts := by
  cases attempts with
  | zero =>
    obtain ⟨rfl, rfl⟩ := Prog.trace_ret_iff.mp htrace
    exact .inl ⟨rfl, rfl, rfl⟩
  | succ left =>
    have hretried := name_publish_attempts_retried htrace
    rw [publish_delays] at hretried
    obtain ⟨made, before, final, more, hpos, hle, hcount, hslept, rfl, hfinal, hspent⟩ :=
      hretried.made slept_call_sleep (fun _ => rfl) fun hattempt => ⟨hattempt.slept, hattempt.published⟩
    refine .inr ⟨made, hpos, hle, hcount, hslept, ?_⟩
    cases result with
    | ok value =>
      obtain ⟨first, key, options, rfl⟩ | ⟨first, rfl, htarget⟩ := hfinal.acknowledged value rfl
      · exact .inl ⟨before ++ first, key, options, (List.append_assoc _ _ _).symm⟩
      · exact .inr ⟨before ++ first, (List.append_assoc _ _ _).symm, htarget⟩
    | error text => exact hspent (hfinal.failed text rfl)

/-- The second of three attempts succeeds. -/
def second_attempt : List Call.Event := [
  ⟨.name_publish_with_options "http://kubo" "ma-agent" "bafy" .default, .error "timeout"⟩,
  ⟨.name_resolve "http://kubo" "/ipns/k51" true, .error "timeout"⟩,
  .sleep (Duration.from_secs 1),
  ⟨.name_publish_with_options "http://kubo" "ma-agent" "bafy" .default, .ok "/ipfs/bafy"⟩]

theorem second_attempt_trace :
    (name_publish_with_retry "http://kubo" "ma-agent" "k51" "bafy" .default 3 (Duration.from_secs 1)).Trace
      second_attempt (.ok "/ipfs/bafy") := by
  unfold name_publish_with_retry name_publish_attempts
  refine Prog.trace_issue_bind_iff.mpr ⟨.error "timeout", _, rfl, ?_⟩
  refine Prog.trace_bind_iff.mpr ⟨[_], _, .error "timeout", rfl, .call (.ret _), ?_⟩
  refine Prog.trace_issue_bind_iff.mpr ⟨(), _, rfl, ?_⟩
  unfold name_publish_attempts
  exact Prog.trace_issue_bind_iff.mpr ⟨.ok "/ipfs/bafy", [], rfl, .ret _⟩

theorem name_publish_with_retry_bounded_second :
    ∃ made, 1 ≤ made ∧ made ≤ 3 ∧ second_attempt.countP Call.Event.is_publish = made ∧
      Acknowledged "http://kubo" "k51" "bafy" "/ipfs/bafy" second_attempt := by
  obtain ⟨hnone, _⟩ | ⟨made, hpos, hle, hcount, _, hlast⟩ := name_publish_with_retry_bounded second_attempt_trace
  · cases hnone
  · exact ⟨made, hpos, hle, hcount, hlast⟩

end

/-! Replicating a pin. -/

/-- The delay after these two. -/
def next_remote_pin_delay (previous_delay delay : Duration) : Duration :=
  min (previous_delay.saturating_add delay) (Duration.from_secs 30)

/-- The delay after an attempt, which are counted from one. -/
def remote_pin_delay (initial_backoff : Duration) : Nat → Duration :=
  capped initial_backoff (Duration.from_secs 30)

theorem remote_pin_delays (left : Nat) (initial_backoff : Duration) :
    pauses next_remote_pin_delay left 0 initial_backoff =
      (List.range left).map fun i => remote_pin_delay initial_backoff (i + 1) := by
  have hnext (i : Nat) : next_remote_pin_delay (remote_pin_delay initial_backoff i)
      (remote_pin_delay initial_backoff (i + 1)) = remote_pin_delay initial_backoff (i + 2) := by
    have hcap : Duration.from_secs 30 ≤ Duration.MAX := by decide
    rw [next_remote_pin_delay, Duration.saturating_add, Nat.min_assoc, Nat.min_eq_right hcap]
    exact min_capped_add _ _ i
  rw [List.range_eq_range']
  exact pauses_eq_map hnext left 0

/-- The request for a replica, with its reply. -/
def remote_pin_event (kubo_url : String) (remote : RemotePinOptions) (cid : String) (reply : Except String Unit) :
    Call.Event :=
  ⟨.pins (.remote_pin_add_named kubo_url remote.service cid remote.name), reply⟩

/-- One attempt to replicate, whether another is to follow, and what it comes to. -/
def RemotePinAttempt (kubo_url : String) (remote : RemotePinOptions) (cid : String) (events : List Call.Event)
    (more : Bool) (result : Except String Unit) : Prop :=
  events = [remote_pin_event kubo_url remote cid result] ∧ (∀ text, result = .error text → more = true)

section
variable {kubo_url cid : String} {remote : RemotePinOptions} {attempts left : Nat} {events : List Call.Event}

theorem remote_pin_attempts_retried {previous_delay delay : Duration} {result : Except String Unit}
    (htrace : (remote_pin_attempts kubo_url remote cid left previous_delay delay).Trace events result) :
    Retried (RemotePinAttempt kubo_url remote cid) Call.Event.sleep
      (pauses next_remote_pin_delay left previous_delay delay) events result := by
  refine retried_of_loop (fun left previous_delay delay events result =>
    (remote_pin_attempts kubo_url remote cid left previous_delay delay).Trace events result) ?_ htrace
  intro left previous_delay delay events result hround
  unfold remote_pin_attempts at hround
  obtain ⟨reply, rest, rfl, hrest⟩ := Prog.trace_issue_bind_iff.mp hround
  cases reply with
  | ok u =>
    obtain ⟨rfl, rfl⟩ := Prog.trace_ret_iff.mp hrest
    exact .inl ⟨rfl, fun text hresult => by cases hresult⟩
  | error error =>
    cases left with
    | zero =>
      obtain ⟨rfl, rfl⟩ := Prog.trace_ret_iff.mp hrest
      exact .inr (.inl ⟨rfl, rfl, fun _ _ => rfl⟩)
    | succ before =>
      obtain ⟨_, after, rfl, hnext⟩ := Prog.trace_issue_bind_iff.mp hrest
      exact .inr (.inr ⟨[_], .error error, after, before, rfl, ⟨rfl, fun _ _ => rfl⟩, rfl, hnext⟩)

/-- A replica is asked for as often as attempts are made, and these are all used up before it fails. The result is the
    last reply. -/
theorem remote_pin_with_retry_bounded {initial_backoff : Duration} {result : Except String Unit}
    (htrace : (remote_pin_with_retry kubo_url remote cid attempts initial_backoff).Trace events result) :
    (attempts = 0 ∧ events = [] ∧ result = .error "remote pin attempts must be >= 1") ∨
      ∃ made before, 1 ≤ made ∧ made ≤ attempts ∧ events.countP Call.Event.is_remote_pin = made ∧
        events.filterMap Call.Event.slept =
          (List.range (made - 1)).map (fun i => remote_pin_delay initial_backoff (i + 1)) ∧
        events = before ++ [remote_pin_event kubo_url remote cid result] ∧
        ∀ text, result = .error text → made = attempts := by
  cases attempts with
  | zero =>
    obtain ⟨rfl, rfl⟩ := Prog.trace_ret_iff.mp htrace
    exact .inl ⟨rfl, rfl, rfl⟩
  | succ left =>
    have hretried := remote_pin_attempts_retried htrace
    rw [remote_pin_delays] at hretried
    have hattempt {events : List Call.Event} {more : Bool} {result : Except String Unit}
        (hattempt : RemotePinAttempt kubo_url remote cid events more result) :
        events.filterMap Call.Event.slept = [] ∧ events.countP Call.Event.is_remote_pin = 1 := by
      obtain ⟨rfl, _⟩ := hattempt
      exact ⟨rfl, rfl⟩
    obtain ⟨made, before, final, more, hpos, hle, hcount, hslept, rfl, ⟨rfl, hfailed⟩, hspent⟩ :=
      hretried.made slept_call_sleep (fun _ => rfl) hattempt
    exact .inr ⟨made, before, hpos, hle, hcount, hslept, rfl, fun text hresult => hspent (hfailed text hresult)⟩

/-- The only attempt fails. -/
theorem remote_pin_with_retry_bounded_failed :
    ∃ made before, 1 ≤ made ∧ made ≤ 1 ∧
      [remote_pin_event "http://kubo" ⟨"pinata", "ma-agent"⟩ "bafy" (.error "timeout")] =
        before ++ [remote_pin_event "http://kubo" ⟨"pinata", "ma-agent"⟩ "bafy" (.error "timeout")] := by
  have htrace : (remote_pin_with_retry "http://kubo" ⟨"pinata", "ma-agent"⟩ "bafy" 1 (Duration.from_secs 1)).Trace
      [remote_pin_event "http://kubo" ⟨"pinata", "ma-agent"⟩ "bafy" (.error "timeout")] (.error "timeout") := by
    unfold remote_pin_with_retry remote_pin_attempts
    exact Prog.trace_issue_bind_iff.mpr ⟨.error "timeout", [], rfl, .ret _⟩
  obtain ⟨hnone, _⟩ | ⟨made, before, hpos, hle, _, _, hevents, _⟩ := remote_pin_with_retry_bounded htrace
  · cases hnone
  · exact ⟨made, before, hpos, hle, hevents⟩

end

end ma_core.kubo
