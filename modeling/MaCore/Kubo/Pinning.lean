import MaCore.Kubo.Rpc

open rust

namespace ma_core.kubo

def DEFAULT_QUEUE_CAPACITY : Nat := 64

def IN_FLIGHT_SUFFIX : String := "~new"

def in_flight_pin_name (name : String) : String := name ++ IN_FLIGHT_SUFFIX

def stale_pins (pins : List String) (protected_cid : String) : List String :=
  pins.filter (· != protected_cid)

theorem mem_stale_pins {pins : List String} {protected_cid cid : String} :
    cid ∈ stale_pins pins protected_cid ↔ cid ∈ pins ∧ cid ≠ protected_cid := by
  simp [stale_pins]

structure PinCleanupRequest where
  kubo_url : String
  name : String
  protected_cid : String
  cleanup_local : Bool
  remote_service : Option String
deriving DecidableEq, Repr

/-- A request without the CID it protects. -/
structure PinCleanupKey where
  kubo_url : String
  name : String
  cleanup_local : Bool
  remote_service : Option String
deriving DecidableEq, Repr

/-- `PinCleanupKey::from`. -/
def PinCleanupRequest.key (self : PinCleanupRequest) : PinCleanupKey where
  kubo_url := self.kubo_url
  name := self.name
  cleanup_local := self.cleanup_local
  remote_service := self.remote_service

/-- The scheduler: the requests by key, and the keys in its bounded channel. -/
structure PinCleanupScheduler where
  pending : Map PinCleanupKey PinCleanupRequest
  wake : List PinCleanupKey
  capacity : Nat
  capacity_pos : 0 < capacity

namespace PinCleanupScheduler

def with_capacity (capacity : Nat) : PinCleanupScheduler where
  pending := Map.empty
  wake := []
  capacity := max capacity 1
  capacity_pos := by omega

def new : PinCleanupScheduler := with_capacity DEFAULT_QUEUE_CAPACITY

/-- The channel is full. -/
def full (self : PinCleanupScheduler) : Bool := self.capacity ≤ self.wake.length

/-- A key sent on a channel that is not full. -/
def send (self : PinCleanupScheduler) (key : PinCleanupKey) : PinCleanupScheduler :=
  { self with wake := self.wake ++ [key] }

def schedule (self : PinCleanupScheduler) (request : PinCleanupRequest) :
    Bool × PinCleanupScheduler :=
  if self.pending.contains_key request.key then
    (true, { self with pending := self.pending.insert request.key request })
  else if self.full then (false, self)
  else
    (true, { self.send request.key with pending := self.pending.insert request.key request })

end PinCleanupScheduler

/-! One batch of cleanup. -/

/-- The loop over the stale pins: whether any of the removals succeeded. -/
def remove_stale {α : Type} (rm : α → Io (Except String Unit)) : List α → Bool → Io Bool
  | [], removed_any => return removed_any
  | pin :: stale, removed_any => do
    match ← rm pin with
    | .ok () => remove_stale rm stale true
    | .error _ => remove_stale rm stale removed_any

def cleanup_local_pass (request : PinCleanupRequest) : Io Bool := do
  let temp_name := in_flight_pin_name request.name
  match ← list_named_recursive_pins request.kubo_url request.name with
  | .error _ => return false
  | .ok final_pins =>
    match ← list_named_recursive_pins request.kubo_url temp_name with
    | .error _ => return false
    | .ok temp_pins =>
      let stale := stale_pins (final_pins ++ temp_pins) request.protected_cid
      if !stale.isEmpty then
        remove_stale (pin_rm request.kubo_url) stale false
      else if !final_pins.contains request.protected_cid then
        -- The pin is renamed; if that fails it stays under the in-flight name.
        let _ ← pin_add_named request.kubo_url request.protected_cid request.name
        return false
      else
        return false

def cleanup_remote_pass (request : PinCleanupRequest) : Io Bool :=
  match request.remote_service with
  | none => return false
  | some service => do
    let temp_name := in_flight_pin_name request.name
    match ← list_named_remote_pins request.kubo_url service request.name with
    | .error _ => return false
    | .ok final_pins =>
      match ← list_named_remote_pins request.kubo_url service temp_name with
      | .error _ => return false
      | .ok temp_pins =>
        let stale_final := stale_pins final_pins request.protected_cid
        let stale_temp := stale_pins temp_pins request.protected_cid
        if !stale_final.isEmpty || !stale_temp.isEmpty then
          remove_stale (fun (pin : String × String) =>
              remote_pin_rm_named request.kubo_url service pin.1 pin.2)
            (stale_final.map (·, request.name) ++ stale_temp.map (·, temp_name)) false
        else if temp_pins.contains request.protected_cid then
          if !final_pins.contains request.protected_cid then
            match ← remote_pin_rm_named request.kubo_url service request.protected_cid temp_name with
            | .error _ => return false
            | .ok () =>
              let _ ← remote_pin_add_named request.kubo_url service request.protected_cid request.name
              return false
          else
            let _ ← remote_pin_rm_named request.kubo_url service request.protected_cid temp_name
            return false
        else
          return false

def cleanup_one_batch (request : PinCleanupRequest) : Io Bool := do
  let local_more ← if request.cleanup_local then cleanup_local_pass request else pure false
  let remote_more ←
    if request.remote_service.isSome then cleanup_remote_pass request else pure false
  return local_more || remote_more

/-- Where the worker is in its loop: at the receive, between it and taking the
    request, in the batch, at the lock section after a batch that asked to be
    run again, or in the delay before it sends the key again. -/
inductive Worker where
  | receiving
  | received (key : PinCleanupKey)
  | cleaning (key : PinCleanupKey) (request : PinCleanupRequest)
  | requeueing (key : PinCleanupKey) (request : PinCleanupRequest)
  | sleeping (key : PinCleanupKey)

/-- The scheduler with its worker, and the keys whose delayed send found the
    channel full. -/
structure Cleanup where
  scheduler : PinCleanupScheduler
  worker : Worker
  dropped : List PinCleanupKey

/-- A call of `schedule`, or what the worker does next: receive a key, take its
    request, end the batch, put the request back, send the key again. -/
inductive CleanupEvent where
  | schedule (request : PinCleanupRequest)
  | recv
  | take
  | finish (more : Bool)
  | requeue
  | resend
deriving DecidableEq, Repr

namespace Cleanup

/-- `PinCleanupScheduler::with_capacity` with the worker it spawns. -/
def start (capacity : Nat) : Cleanup where
  scheduler := PinCleanupScheduler.with_capacity capacity
  worker := .receiving
  dropped := []

/-- `schedule` and the loop of `run_cleanup_worker`, one lock section or channel
    operation at a time. What a batch does, and whether it asks to be run again,
    is left open. -/
inductive Step : Cleanup → CleanupEvent → Cleanup → Prop
  | schedule (s : Cleanup) (request : PinCleanupRequest) :
    Step s (.schedule request) { s with scheduler := (s.scheduler.schedule request).2 }
  | recv (s : Cleanup) (key : PinCleanupKey) (wake : List PinCleanupKey)
    (hworker : s.worker = .receiving) (hwake : s.scheduler.wake = key :: wake) :
    Step s .recv { s with scheduler := { s.scheduler with wake }, worker := .received key }
  | take (s : Cleanup) (key : PinCleanupKey) (request : PinCleanupRequest)
    (hworker : s.worker = .received key) (hrequest : s.scheduler.pending.get key = some request) :
    Step s .take { s with
      scheduler := { s.scheduler with pending := s.scheduler.pending.remove key }
      worker := .cleaning key request }
  | take_none (s : Cleanup) (key : PinCleanupKey) (hworker : s.worker = .received key)
    (hnone : s.scheduler.pending.get key = none) : Step s .take { s with worker := .receiving }
  | finish (s : Cleanup) (key : PinCleanupKey) (request : PinCleanupRequest)
    (hworker : s.worker = .cleaning key request) :
    Step s (.finish false) { s with worker := .receiving }
  | finish_more (s : Cleanup) (key : PinCleanupKey) (request : PinCleanupRequest)
    (hworker : s.worker = .cleaning key request) :
    Step s (.finish true) { s with worker := .requeueing key request }
  | requeue (s : Cleanup) (key : PinCleanupKey) (request : PinCleanupRequest)
    (hworker : s.worker = .requeueing key request)
    (habsent : s.scheduler.pending.contains_key key = false) :
    Step s .requeue { s with
      scheduler := { s.scheduler with pending := s.scheduler.pending.insert key request }
      worker := .sleeping key }
  | requeue_superseded (s : Cleanup) (key : PinCleanupKey) (request : PinCleanupRequest)
    (hworker : s.worker = .requeueing key request)
    (hpresent : s.scheduler.pending.contains_key key = true) :
    Step s .requeue { s with worker := .receiving }
  | resend (s : Cleanup) (key : PinCleanupKey) (hworker : s.worker = .sleeping key)
    (hspace : s.scheduler.full = false) :
    Step s .resend { s with scheduler := s.scheduler.send key, worker := .receiving }
  | resend_dropped (s : Cleanup) (key : PinCleanupKey) (hworker : s.worker = .sleeping key)
    (hfull : s.scheduler.full = true) :
    Step s .resend { s with worker := .receiving, dropped := s.dropped ++ [key] }

end Cleanup

end ma_core.kubo
