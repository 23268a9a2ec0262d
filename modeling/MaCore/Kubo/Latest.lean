import MaCore.Base.Transition
import MaCore.Kubo.Pinning

open rust transition

namespace ma_core.kubo

/-- The scheduler with the requests it has accepted, in order. -/
structure Recorded where
  cleanup : Cleanup
  accepted : List PinCleanupRequest

/-- The request that an event gets accepted. -/
def Cleanup.accepts (self : Cleanup) : CleanupEvent → List PinCleanupRequest
  | .schedule request => if (self.scheduler.schedule request).1 then [request] else []
  | _ => []

/-- The request last accepted for a key. -/
def latest (accepted : List PinCleanupRequest) (key : PinCleanupKey) : Option PinCleanupRequest :=
  accepted.reverse.find? fun request => request.key == key

theorem latest_append_singleton {accepted : List PinCleanupRequest} {request : PinCleanupRequest}
    {key : PinCleanupKey} :
    latest (accepted ++ [request]) key = if request.key = key then some request else latest accepted key := by
  by_cases hkey : request.key = key <;> simp [latest, hkey]

theorem latest_key {accepted : List PinCleanupRequest} {request : PinCleanupRequest}
    {key : PinCleanupKey} (hlatest : latest accepted key = some request) : request.key = key := by
  simpa using List.find?_some hlatest

/-- A request accepted later is not older than the latest. -/
theorem latest_mem {before after : List PinCleanupRequest} {newer request : PinCleanupRequest}
    (hlatest : latest (before ++ newer :: after) newer.key = some request) :
    request ∈ newer :: after := by
  have hsplit : (before ++ newer :: after).reverse = (newer :: after).reverse ++ before.reverse := by
    rw [List.reverse_append]
  have hfound : ((newer :: after).reverse.find? fun r => r.key == newer.key).isSome = true := by
    rw [List.find?_isSome]
    exact ⟨newer, by simp, beq_self_eq_true _⟩
  rw [latest, hsplit, List.find?_append, Option.or_of_isSome hfound] at hlatest
  exact List.mem_reverse.mp (List.mem_of_find?_eq_some hlatest)

namespace Recorded

def start (capacity : Nat) : Recorded where
  cleanup := .start capacity
  accepted := []

/-- A step of the scheduler and its worker, on record. -/
def Step (s : Recorded) (event : CleanupEvent) (t : Recorded) : Prop :=
  s.cleanup.Step event t.cleanup ∧ t.accepted = s.accepted ++ s.cleanup.accepts event

theorem Step.record {s : Recorded} {event : CleanupEvent} {cleanup : Cleanup}
    (hstep : s.cleanup.Step event cleanup) :
    Step s event ⟨cleanup, s.accepted ++ s.cleanup.accepts event⟩ := ⟨hstep, rfl⟩

/-- Every run of the scheduler can be recorded. -/
theorem exists_run {capacity : Nat} {events : List CleanupEvent} {s : Cleanup}
    (hrun : Run Cleanup.Step (.start capacity) events s) :
    ∃ accepted, Run Step (start capacity) events ⟨s, accepted⟩ := by
  induction hrun with
  | nil => exact ⟨[], .nil⟩
  | snoc _ hlast ih =>
    obtain ⟨accepted, hrecorded⟩ := ih
    exact ⟨_, hrecorded.snoc (.record hlast)⟩

/-- What is pending under a key was accepted last, and so was what the worker has in hand, unless
    something else is pending there by now. -/
structure Inv (s : Recorded) : Prop where
  pending : ∀ key request, s.cleanup.scheduler.pending.get key = some request →
    latest s.accepted key = some request
  in_hand : ∀ key request,
    (s.cleanup.worker = .cleaning key request ∨ s.cleanup.worker = .requeueing key request) →
      request.key = key ∧
        (s.cleanup.scheduler.pending.contains_key key = false → latest s.accepted key = some request)

section
variable {s t : Recorded} {event : CleanupEvent} {capacity : Nat}

theorem start_inv : (start capacity).Inv where
  pending _ _ hpending := by cases hpending
  in_hand _ _ hworker := by rcases hworker with hworker | hworker <;> cases hworker

/-- A request that is accepted is then pending under its key. -/
theorem pending_of_schedule {scheduler : PinCleanupScheduler} {request : PinCleanupRequest}
    (htaken : (scheduler.schedule request).1 = true) :
    (scheduler.schedule request).2.pending = scheduler.pending.insert request.key request := by
  unfold PinCleanupScheduler.schedule at htaken ⊢
  split at htaken
  · rw [if_pos ‹_›]
  · split at htaken
    · cases htaken
    · rw [if_neg ‹_›, if_neg ‹_›]

/-- A request that is dropped changes nothing. -/
theorem schedule_dropped {scheduler : PinCleanupScheduler} {request : PinCleanupRequest}
    (hdropped : (scheduler.schedule request).1 = false) :
    (scheduler.schedule request).2 = scheduler := by
  unfold PinCleanupScheduler.schedule at hdropped ⊢
  split at hdropped
  · cases hdropped
  · split at hdropped
    · rw [if_neg ‹_›, if_pos ‹_›]
    · cases hdropped

theorem schedule_inv (hinv : s.Inv) (request : PinCleanupRequest) :
    Inv ⟨{ s.cleanup with scheduler := (s.cleanup.scheduler.schedule request).2 },
      s.accepted ++ s.cleanup.accepts (.schedule request)⟩ := by
  cases htaken : (s.cleanup.scheduler.schedule request).1 with
  | false =>
    simp only [Cleanup.accepts, htaken, Bool.false_eq_true, if_false, List.append_nil,
      schedule_dropped htaken]
    exact hinv
  | true =>
    simp only [Cleanup.accepts, htaken, if_true]
    constructor
    · intro key stored hstored
      rw [pending_of_schedule htaken, Map.get_insert] at hstored
      rw [latest_append_singleton]
      by_cases hkey : key = request.key
      · rw [if_pos hkey] at hstored
        rw [if_pos hkey.symm, hstored]
      · rw [if_neg hkey] at hstored
        rw [if_neg (Ne.symm hkey)]
        exact hinv.pending key stored hstored
    · intro key held hworker
      obtain ⟨hheld, hlatest⟩ := hinv.in_hand key held hworker
      refine ⟨hheld, fun habsent => ?_⟩
      rw [pending_of_schedule htaken, ← Bool.not_eq_true, Map.contains_key_insert_iff, not_or,
        Bool.not_eq_true] at habsent
      rw [latest_append_singleton, if_neg (Ne.symm habsent.1)]
      exact hlatest habsent.2

/-- A step that leaves the pending requests alone and takes up no request. -/
theorem Inv.of_same (hinv : s.Inv) {cleanup : Cleanup}
    (hpending : cleanup.scheduler.pending = s.cleanup.scheduler.pending)
    (hworker : ∀ key request,
      (cleanup.worker = .cleaning key request ∨ cleanup.worker = .requeueing key request) →
        s.cleanup.worker = .cleaning key request ∨ s.cleanup.worker = .requeueing key request) :
    Inv ⟨cleanup, s.accepted ++ []⟩ := by
  rw [List.append_nil]
  constructor
  · intro key request hstored
    rw [hpending] at hstored
    exact hinv.pending key request hstored
  · intro key request hheld
    rw [hpending]
    exact hinv.in_hand key request (hworker key request hheld)

theorem step_inv (hstep : Step s event t) (hinv : s.Inv) : t.Inv := by
  obtain ⟨hcleanup, haccepted⟩ := hstep
  obtain ⟨cleanup, accepted⟩ := t
  obtain rfl := haccepted
  cases hcleanup with
  | schedule request => exact schedule_inv hinv request
  | take key request hworker hrequest =>
    simp only [Cleanup.accepts, List.append_nil]
    have hlatest := hinv.pending key request hrequest
    constructor
    · intro k stored hstored
      rw [Map.get_remove] at hstored
      split at hstored
      · cases hstored
      · exact hinv.pending k stored hstored
    · intro k held hheld
      obtain ⟨rfl, rfl⟩ : key = k ∧ request = held := by simpa using hheld
      exact ⟨latest_key hlatest, fun _ => hlatest⟩
  | requeue key request hworker habsent =>
    simp only [Cleanup.accepts, List.append_nil]
    obtain ⟨_, hlatest⟩ := hinv.in_hand key request (.inr hworker)
    constructor
    · intro k stored hstored
      rw [Map.get_insert] at hstored
      split at hstored
      · rename_i hkey
        cases hstored
        rw [hkey]
        exact hlatest habsent
      · exact hinv.pending k stored hstored
    · intro k held hheld
      simp at hheld
  | finish_more key request hworker =>
    refine hinv.of_same rfl fun k held hheld => .inl ?_
    obtain ⟨rfl, rfl⟩ : key = k ∧ request = held := by simpa using hheld
    exact hworker
  | recv | take_none | finish | requeue_superseded | resend | resend_dropped =>
    exact hinv.of_same rfl fun k held hheld => by simp at hheld

theorem reachable_inv (hreach : Reachable Step (start capacity) s) : s.Inv :=
  hreach.invariant start_inv fun hinv hstep => step_inv hstep hinv

end

end Recorded

/-- The step starts a batch for the request, or puts the request back to be run again. -/
def Cleanup.TakesUp (event : CleanupEvent) (after : Cleanup) (key : PinCleanupKey)
    (request : PinCleanupRequest) : Prop :=
  event = .take ∧ after.worker = .cleaning key request ∨
    event = .requeue ∧ after.worker = .sleeping key ∧ after.scheduler.pending.get key = some request

namespace Recorded

/-- In every run the request that is started or put back is the one last accepted for its key,
    never one that is older than another accepted. -/
theorem takes_up_latest {capacity : Nat} {s t : Recorded} {event : CleanupEvent} {key : PinCleanupKey}
    {request : PinCleanupRequest} (hreach : Reachable Step (start capacity) s)
    (hstep : Step s event t) (htakes : Cleanup.TakesUp event t.cleanup key request) :
    request.key = key ∧ latest s.accepted key = some request ∧
      ∀ before newer after, s.accepted = before ++ newer :: after → newer.key = key →
        request ∈ newer :: after := by
  have hlatest : latest s.accepted key = some request := by
    have hinv := reachable_inv hreach
    obtain ⟨hcleanup, _⟩ := hstep
    obtain ⟨cleanup, _⟩ := t
    rcases htakes with ⟨rfl, hworker⟩ | ⟨rfl, hworker, hpending⟩
    · cases hcleanup with
      | take _ _ _ hrequest =>
        cases hworker
        exact hinv.pending key request hrequest
      | take_none => cases hworker
    · cases hcleanup with
      | requeue _ held hheld habsent =>
        cases hworker
        rw [Map.get_insert_self] at hpending
        cases hpending
        exact (hinv.in_hand key request (.inr hheld)).2 habsent
      | requeue_superseded => cases hworker
  refine ⟨latest_key hlatest, hlatest, ?_⟩
  rintro before newer after haccepted rfl
  rw [haccepted] at hlatest
  exact latest_mem hlatest

def request_protecting (cid : String) : PinCleanupRequest :=
  ⟨"http://127.0.0.1:5001", "doc", cid, true, none⟩

/-- A second request for a key replaces the first before the worker gets to it. -/
theorem replaced_run :
    ∃ s : Recorded, Reachable Step (start 1) s ∧
      s.accepted = [request_protecting "old", request_protecting "new"] ∧
      s.cleanup.worker = .received (request_protecting "new").key ∧
      s.cleanup.scheduler.pending.get (request_protecting "new").key = some (request_protecting "new") := by
  have hrun := Run.cons (Step.record (.schedule (start 1).cleanup (request_protecting "old"))) <|
    Run.cons (Step.record (.schedule _ (request_protecting "new"))) <|
    Run.single (Step.record (.recv _ (request_protecting "new").key [] rfl rfl))
  exact ⟨_, ⟨_, hrun⟩, rfl, rfl, rfl⟩

theorem takes_up_latest_replaced :
    ∃ s t : Recorded, s.accepted = [request_protecting "old", request_protecting "new"] ∧
      Cleanup.TakesUp .take t.cleanup (request_protecting "new").key (request_protecting "new") ∧
      (request_protecting "new").key = (request_protecting "new").key ∧
      latest s.accepted (request_protecting "new").key = some (request_protecting "new") ∧
      ∀ before newer after, s.accepted = before ++ newer :: after →
        newer.key = (request_protecting "new").key → request_protecting "new" ∈ newer :: after := by
  obtain ⟨s, hreach, haccepted, hworker, hpending⟩ := replaced_run
  obtain ⟨t, hstep, hstarted⟩ : ∃ t, Step s .take t ∧
      t.cleanup.worker = .cleaning (request_protecting "new").key (request_protecting "new") :=
    ⟨_, .record (.take s.cleanup _ _ hworker hpending), rfl⟩
  have htakes : Cleanup.TakesUp .take t.cleanup (request_protecting "new").key (request_protecting "new") :=
    .inl ⟨rfl, hstarted⟩
  exact ⟨s, t, haccepted, htakes, takes_up_latest hreach hstep htakes⟩

end Recorded

end ma_core.kubo
