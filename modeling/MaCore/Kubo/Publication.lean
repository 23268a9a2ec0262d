import Mathlib.Tactic.Tauto
import MaCore.Base.Transition
import MaCore.Kubo.Removal

open rust transition

namespace ma_core.kubo

/-- A document that is published: its pin name and CID on a Kubo. -/
structure Publication where
  kubo_url : String
  name : String
  cid : String
deriving DecidableEq, Repr

/-- The cleanup a confirmed publication schedules; the service is the one it
    was replicated to, if that succeeded. -/
def Publication.cleanup (self : Publication) (remote_service : Option String) :
    PinCleanupRequest where
  kubo_url := self.kubo_url
  name := self.name
  protected_cid := self.cid
  cleanup_local := true
  remote_service

/-- Publishers and the cleanup worker over the local pins: the batch that runs
    and what it has listed, the publications that are pinned and those that are
    also published but have not scheduled their cleanup, and by Kubo and name
    the CID published last. -/
structure Publishing where
  cleanup : Cleanup
  batch : Io Bool
  listed : List String
  pins : Pins
  in_flight : List Publication
  confirmed : List Publication
  latest : String → String → Option String

inductive PublishingEvent where
  | pin (publication : Publication)
  | publish (publication : Publication)
  | abandon (publication : Publication)
  | schedule (publication : Publication) (remote_service : Option String)
  | worker (event : CleanupEvent)
  | rpc (rpc : Rpc) (reply : rpc.Reply)

/-- The batch the worker runs after a step of its loop. -/
def Worker.batch : Worker → Io Bool
  | cleaning _ request => cleanup_one_batch request
  | receiving | received _ | requeueing _ _ | sleeping _ => .ret false

namespace Publishing

def start (capacity : Nat) (pins : Pins) : Publishing where
  cleanup := Cleanup.start capacity
  batch := .ret false
  listed := []
  pins
  in_flight := []
  confirmed := []
  latest _ _ := none

/-- The steps of publishers and worker, one request to Kubo at a time. -/
inductive Step : Publishing → PublishingEvent → Publishing → Prop
  | pin (s : Publishing) (p : Publication) :
    Step s (.pin p) { s with
      pins := s.pins.set p.kubo_url ((s.pins p.kubo_url).insert p.cid (in_flight_pin_name p.name))
      in_flight := p :: s.in_flight }
  | publish (s : Publishing) (p : Publication) (hpinned : p ∈ s.in_flight) :
    Step s (.publish p) { s with
      in_flight := s.in_flight.erase p
      confirmed := p :: s.confirmed
      latest := fun url name =>
        if url = p.kubo_url ∧ name = p.name then some p.cid else s.latest url name }
  | abandon (s : Publishing) (p : Publication) (hpinned : p ∈ s.in_flight) :
    Step s (.abandon p) { s with in_flight := s.in_flight.erase p }
  | schedule (s : Publishing) (p : Publication) (remote_service : Option String)
    (hconfirmed : p ∈ s.confirmed) (cleanup : Cleanup)
    (hstep : Cleanup.Step s.cleanup (.schedule (p.cleanup remote_service)) cleanup) :
    Step s (.schedule p remote_service) { s with cleanup, confirmed := s.confirmed.erase p }
  | worker (s : Publishing) (event : CleanupEvent) (cleanup : Cleanup)
    (hstep : Cleanup.Step s.cleanup event cleanup)
    (hloop : event = .recv ∨ event = .take ∨ event = .requeue ∨ event = .resend ∨
      ∃ more, event = .finish more ∧ s.batch = .ret more) :
    Step s (.worker event) { s with cleanup, batch := cleanup.worker.batch, listed := [] }
  | rpc (s : Publishing) (rpc : Rpc) (k : rpc.Reply → Io Bool) (reply : rpc.Reply) (pins : Pins)
    (hbatch : s.batch = .call rpc k) (hreply : s.pins.Replies rpc reply pins) :
    Step s (.rpc rpc reply) { s with batch := k reply, listed := track s.listed rpc reply, pins }

/-- The CID is the one published last under a name of this Kubo, or it is
    pinned and about to be. -/
def Live (s : Publishing) (kubo_url cid : String) : Prop :=
  (∃ name, s.latest kubo_url name = some cid) ∨
    ∃ p ∈ s.in_flight, p.kubo_url = kubo_url ∧ p.cid = cid

/-- What was published last is pinned. -/
def Kept (s : Publishing) : Prop :=
  ∀ kubo_url name cid, s.latest kubo_url name = some cid → s.pins.Pinned kubo_url cid

/-- A step at which publishers and worker do not meet: what the batch lists is
    not live unless the batch protects it, and nothing is pinned that the batch
    has listed, and not unpinned yet, unless it protects it. -/
def Apart (s : Publishing) : PublishingEvent → Prop
  | .pin p => ∀ key request, s.cleanup.worker = .cleaning key request →
    p.kubo_url = request.kubo_url → p.cid ∈ s.listed → p.cid = request.protected_cid
  | .rpc (.list_named_recursive_pins _ _) (.ok cids) => ∀ key request,
    s.cleanup.worker = .cleaning key request →
    ∀ cid, cid ∈ cids → s.Live request.kubo_url cid → cid = request.protected_cid
  | _ => True

/-- A step at which they do not meet. -/
def ApartStep (s : Publishing) (event : PublishingEvent) (t : Publishing) : Prop :=
  Step s event t ∧ s.Apart event

/-- Live CIDs are pinned, and a running batch unpins none of them. -/
structure Inv (s : Publishing) : Prop where
  pinned : ∀ kubo_url cid, s.Live kubo_url cid → s.pins.Pinned kubo_url cid
  running : ∀ key request, s.cleanup.worker = .cleaning key request →
    Monitored request s.listed s.batch ∧
      ∀ cid ∈ s.listed, s.Live request.kubo_url cid → cid = request.protected_cid
  ended : (∀ key request, s.cleanup.worker ≠ .cleaning key request) → ∃ more, s.batch = .ret more

section
variable {s t : Publishing} {event : PublishingEvent} {capacity : Nat} {pins : Pins}

theorem start_inv (capacity : Nat) (pins : Pins) : (start capacity pins).Inv := by
  refine ⟨?_, ?_, fun _ => ⟨false, rfl⟩⟩
  · rintro kubo_url cid (⟨_, hlatest⟩ | ⟨_, hmem, _⟩)
    · cases hlatest
    · cases hmem
  · rintro key request hworker
    cases hworker

theorem Live.of_subset {kubo_url cid : String} (hlive : t.Live kubo_url cid)
    (hlatest : ∀ name cid, t.latest kubo_url name = some cid → s.Live kubo_url cid)
    (hin_flight : ∀ p ∈ t.in_flight, p ∈ s.in_flight) : s.Live kubo_url cid := by
  rcases hlive with ⟨name, hname⟩ | ⟨p, hmem, hp⟩
  · exact hlatest name cid hname
  · exact .inr ⟨p, hin_flight p hmem, hp⟩

/-- The invariant survives where nothing becomes live and the worker goes on. -/
theorem Inv.of_live (hinv : s.Inv) (hlive : ∀ kubo_url cid, t.Live kubo_url cid → s.Live kubo_url cid)
    (hpins : t.pins = s.pins) (hworker : t.cleanup.worker = s.cleanup.worker)
    (hbatch : t.batch = s.batch) (hlisted : t.listed = s.listed) : t.Inv := by
  refine ⟨fun kubo_url cid h => ?_, ?_, ?_⟩
  · rw [hpins]
    exact hinv.pinned kubo_url cid (hlive kubo_url cid h)
  · intro key request hcleaning
    rw [hworker] at hcleaning
    rw [hbatch, hlisted]
    obtain ⟨hmonitored, hprotected⟩ := hinv.running key request hcleaning
    exact ⟨hmonitored, fun cid hmem h => hprotected cid hmem (hlive _ _ h)⟩
  · rw [hworker, hbatch]
    exact hinv.ended

theorem pin_inv (hinv : s.Inv) (p : Publication) (hapart : s.Apart (.pin p)) :
    Inv { s with
      pins := s.pins.set p.kubo_url ((s.pins p.kubo_url).insert p.cid (in_flight_pin_name p.name))
      in_flight := p :: s.in_flight } := by
  have hlive : ∀ kubo_url cid, Live { s with
      pins := s.pins.set p.kubo_url ((s.pins p.kubo_url).insert p.cid (in_flight_pin_name p.name))
      in_flight := p :: s.in_flight } kubo_url cid →
      (kubo_url = p.kubo_url ∧ cid = p.cid) ∨ s.Live kubo_url cid := by
    rintro kubo_url cid (hlatest | ⟨q, hmem, rfl, rfl⟩)
    · exact .inr (.inl hlatest)
    · rcases List.mem_cons.mp hmem with rfl | hold
      · exact .inl ⟨rfl, rfl⟩
      · exact .inr (.inr ⟨q, hold, rfl, rfl⟩)
  refine ⟨fun kubo_url cid h => ?_, fun key request hcleaning => ?_, hinv.ended⟩
  · exact Pins.pinned_add_iff.mpr ((hlive kubo_url cid h).imp_right (hinv.pinned kubo_url cid))
  · obtain ⟨hmonitored, hprotected⟩ := hinv.running key request hcleaning
    refine ⟨hmonitored, fun cid hmem h => ?_⟩
    rcases hlive _ _ h with ⟨hurl, rfl⟩ | hold
    · exact hapart key request hcleaning hurl.symm hmem
    · exact hprotected cid hmem hold

/-- While a request to Kubo is under way the worker is in a batch. -/
theorem Inv.cleaning (hinv : s.Inv) {rpc : Rpc} {k : rpc.Reply → Io Bool}
    (hbatch : s.batch = .call rpc k) : ∃ key request, s.cleanup.worker = .cleaning key request := by
  by_contra hnone
  simp only [not_exists] at hnone
  obtain ⟨more, hended⟩ := hinv.ended hnone
  rw [hbatch] at hended
  cases hended

theorem rpc_inv (hinv : s.Inv) {rpc : Rpc} {k : rpc.Reply → Io Bool} {reply : rpc.Reply}
    {pins' : Pins} (hbatch : s.batch = .call rpc k) (hreply : s.pins.Replies rpc reply pins')
    (hapart : s.Apart (.rpc rpc reply)) :
    Inv { s with batch := k reply, listed := track s.listed rpc reply, pins := pins' } := by
  obtain ⟨key, request, hcleaning⟩ := hinv.cleaning hbatch
  obtain ⟨hmonitored, hprotected⟩ := hinv.running key request hcleaning
  rw [hbatch] at hmonitored
  refine ⟨fun kubo_url cid hlive => ?_, fun key' request' hcleaning' => ?_, fun hnone => ?_⟩
  · refine hreply.pinned (hinv.pinned kubo_url cid hlive) fun hrm => ?_
    obtain ⟨rfl, hlisted, hother⟩ := hmonitored.1 kubo_url cid hrm
    exact hother (hprotected cid hlisted hlive)
  · change s.cleanup.worker = .cleaning key' request' at hcleaning'
    rw [hcleaning] at hcleaning'
    cases hcleaning'
    refine ⟨hmonitored.2 reply _ rfl, fun cid hmem hlive => ?_⟩
    have hcases : cid ∈ s.listed → cid = request.protected_cid :=
      fun hlisted => hprotected cid hlisted hlive
    cases rpc with
    | list_named_recursive_pins kubo_url name =>
      cases reply with
      | ok cids =>
        rcases List.mem_append.mp hmem with hold | hnew
        · exact hcases hold
        · exact hapart key request hcleaning cid hnew hlive
      | error _ => cases hmem
    | pin_rm kubo_url removed => exact hcases (List.mem_of_mem_erase hmem)
    | pin_add_named | list_named_remote_pins | remote_pin_add_named | remote_pin_rm_named =>
      exact hcases hmem
  · exact absurd hcleaning (hnone key request)

theorem step_inv (hstep : ApartStep s event t) (hinv : s.Inv) : t.Inv := by
  obtain ⟨hstep, hapart⟩ := hstep
  cases hstep with
  | pin p => exact pin_inv hinv p hapart
  | publish p hpinned =>
    refine hinv.of_live (fun kubo_url cid hlive => hlive.of_subset ?_ ?_) rfl rfl rfl rfl
    · intro name cid hlatest
      simp only at hlatest
      split at hlatest
      · next heq =>
        cases hlatest
        exact .inr ⟨p, hpinned, heq.1.symm, rfl⟩
      · exact .inl ⟨name, hlatest⟩
    · exact fun q hmem => List.mem_of_mem_erase hmem
  | abandon p hpinned =>
    refine hinv.of_live (fun kubo_url cid hlive => hlive.of_subset ?_ ?_) rfl rfl rfl rfl
    · exact fun name cid hlatest => .inl ⟨name, hlatest⟩
    · exact fun q hmem => List.mem_of_mem_erase hmem
  | schedule p remote_service hconfirmed cleanup hcleanup =>
    cases hcleanup
    exact hinv.of_live (fun _ _ hlive => hlive) rfl rfl rfl rfl
  | worker event cleanup hcleanup hloop =>
    refine ⟨hinv.pinned, fun key request hcleaning => ?_, fun hnone => ?_⟩
    · have hbatch : cleanup.worker.batch = cleanup_one_batch request := by
        rw [show cleanup.worker = .cleaning key request from hcleaning, Worker.batch]
      refine ⟨?_, by simp⟩
      rw [hbatch]
      exact cleanup_one_batch_monitored
    · refine ⟨false, ?_⟩
      cases hworker : cleanup.worker with
      | cleaning key request => exact absurd hworker (hnone key request)
      | receiving | received | requeueing | sleeping => rfl
  | rpc rpc k reply pins' hbatch hreply => exact rpc_inv hinv hbatch hreply hapart

/-- In a run in which publishers and worker keep apart, what was published last
    is pinned in every state. -/
theorem latest_kept {events : List PublishingEvent}
    (hrun : Run ApartStep (start capacity pins) events s) : s.Kept := by
  have hinv : s.Inv := hrun.invariant (I := fun _ s => s.Inv) (start_inv capacity pins)
    fun hinv hstep => step_inv hstep hinv
  exact fun kubo_url name cid hlatest => hinv.pinned kubo_url cid (.inl ⟨name, hlatest⟩)

theorem rpc_reachable {s₀ : Publishing} {rpc : Rpc} {k : rpc.Reply → Io Bool} {reply : rpc.Reply}
    {pins' : Pins} (hreach : Reachable Step s₀ s) (hbatch : s.batch = .call rpc k)
    (hreply : s.pins.Replies rpc reply pins') :
    Reachable Step s₀
      { s with batch := k reply, listed := track s.listed rpc reply, pins := pins' } := by
  obtain ⟨events, hrun⟩ := hreach
  exact ⟨_, hrun.snoc (.rpc s rpc k reply pins' hbatch hreply)⟩

theorem rpc_apart_reachable {s₀ : Publishing} {rpc : Rpc} {k : rpc.Reply → Io Bool}
    {reply : rpc.Reply} {pins' : Pins} (hreach : Reachable ApartStep s₀ s)
    (hbatch : s.batch = .call rpc k) (hreply : s.pins.Replies rpc reply pins')
    (hapart : s.Apart (.rpc rpc reply)) :
    Reachable ApartStep s₀
      { s with batch := k reply, listed := track s.listed rpc reply, pins := pins' } := by
  obtain ⟨events, hrun⟩ := hreach
  exact ⟨_, hrun.snoc ⟨.rpc s rpc k reply pins' hbatch hreply, hapart⟩⟩

end

/-! Two publications under one name. -/

def first : Publication := ⟨"http://127.0.0.1:5001", "ma-agent", "cid-1"⟩

def second : Publication := ⟨"http://127.0.0.1:5001", "ma-agent", "cid-2"⟩

def both_pinned : Pins :=
  let pins : Pins := fun _ => Map.empty
  let pins := pins.set first.kubo_url ((pins first.kubo_url).insert first.cid
    (in_flight_pin_name first.name))
  pins.set second.kubo_url ((pins second.kubo_url).insert second.cid (in_flight_pin_name second.name))

theorem both_pinned_get (cid : String) :
    (both_pinned first.kubo_url).get cid =
      if cid = "cid-2" ∨ cid = "cid-1" then some (in_flight_pin_name first.name) else none := by
  by_cases hsecond : cid = "cid-2" <;> by_cases hfirst : cid = "cid-1" <;>
    simp [both_pinned, Pins.set, Map.get_insert, first, second, hsecond, hfirst]

theorem both_pinned_listed_final (cid : String) :
    cid ∈ ([] : List String) ↔ (both_pinned first.kubo_url).get cid = some first.name := by
  have hname : in_flight_pin_name first.name ≠ first.name := by decide
  rw [both_pinned_get]
  split <;> simp [hname]

theorem both_pinned_listed_temp (cid : String) :
    cid ∈ ["cid-1", "cid-2"] ↔
      (both_pinned first.kubo_url).get cid = some (in_flight_pin_name first.name) := by
  rw [both_pinned_get]
  split <;> simp <;> tauto

/-- The second publication has replaced the request of the first when the worker
    takes it. -/
theorem replaced_reachable :
    ∃ s, Reachable ApartStep (start 64 fun _ => Map.empty) s ∧ s.pins = both_pinned ∧
      s.batch = cleanup_one_batch (second.cleanup none) ∧
      s.cleanup.worker = .cleaning (second.cleanup none).key (second.cleanup none) ∧
      s.latest second.kubo_url second.name = some second.cid ∧
      ∀ cid, s.Live second.kubo_url cid → cid = second.cid := by
  let request := second.cleanup none
  have hrun : Run ApartStep (start 64 fun _ => Map.empty) _ _ :=
    Run.cons ⟨Step.pin _ first, fun _ _ hworker => by cases hworker⟩ <|
    Run.cons ⟨Step.publish _ first (by simp), trivial⟩ <|
    Run.cons ⟨Step.schedule _ first none (by simp) _ (.schedule _ (first.cleanup none)), trivial⟩ <|
    Run.cons ⟨Step.pin _ second, fun _ _ hworker => by cases hworker⟩ <|
    Run.cons ⟨Step.publish _ second (by simp), trivial⟩ <|
    Run.cons ⟨Step.schedule _ second none (by simp) _ (.schedule _ request), trivial⟩ <|
    Run.cons ⟨Step.worker _ .recv _ (.recv _ request.key [] rfl rfl) (by simp), trivial⟩ <|
    Run.single ⟨Step.worker _ .take _ (.take _ request.key request rfl rfl) (by simp), trivial⟩
  refine ⟨_, ⟨_, hrun⟩, rfl, rfl, rfl, rfl, ?_⟩
  rintro cid (⟨name, hlatest⟩ | ⟨p, hmem, -, -⟩)
  · by_cases hname : name = "ma-agent" <;> simp [first, second, start, hname] at hlatest
    exact hlatest.symm
  · simp [start] at hmem

/-- Its batch unpins the first CID and keeps the second. -/
theorem latest_kept_second :
    ∃ s : Publishing, s.latest second.kubo_url second.name = some second.cid ∧
      ¬ s.pins.Pinned first.kubo_url first.cid ∧ s.Kept := by
  obtain ⟨s, hreach, hpins, hbatch, hworker, hlatest, hlive⟩ := replaced_reachable
  have hlisted : s.pins.Replies (.list_named_recursive_pins second.kubo_url second.name) (.ok [])
      both_pinned := by
    rw [hpins]
    exact .listed _ _ [] both_pinned_listed_final
  have hfinal := rpc_apart_reachable hreach hbatch hlisted fun _ _ _ cid hmem _ => by cases hmem
  have htemp := rpc_apart_reachable hfinal rfl
    (.listed _ _ ["cid-1", "cid-2"] both_pinned_listed_temp) fun key request hcleaning cid _ h => by
      cases hworker.symm.trans hcleaning
      exact hlive cid h
  obtain ⟨events, hremove⟩ := rpc_apart_reachable htemp rfl (.removed first.kubo_url first.cid) trivial
  refine ⟨_, ?_, ?_, latest_kept hremove⟩
  · exact hlatest
  · exact fun hpinned => (Pins.pinned_remove_iff.mp hpinned).1 ⟨rfl, rfl⟩

/-! The second is confirmed while the worker is about to clean up for the first. -/

/-- The worker has taken the first request when the second publication is confirmed. -/
theorem overtaken_reachable :
    ∃ s, Reachable Step (start 64 fun _ => Map.empty) s ∧ s.pins = both_pinned ∧
      s.batch = cleanup_one_batch (first.cleanup none) ∧
      s.latest second.kubo_url second.name = some second.cid := by
  let request := first.cleanup none
  have hrun := Run.cons (Step.pin (start 64 fun _ => Map.empty) first) <|
    Run.cons (Step.publish _ first (by simp)) <|
    Run.cons (Step.schedule _ first none (by simp) _ (.schedule _ request)) <|
    Run.cons (Step.worker _ .recv _ (.recv _ request.key [] rfl rfl) (by simp)) <|
    Run.cons (Step.worker _ .take _ (.take _ request.key request rfl rfl) (by simp)) <|
    Run.cons (Step.pin _ second) <|
    Run.single (Step.publish _ second (by simp))
  exact ⟨_, ⟨_, hrun⟩, rfl, rfl, rfl⟩

/-- It lists both pins after that, and unpins the second. -/
theorem overtaken_unpinned : ∃ s, Reachable Step (start 64 fun _ => Map.empty) s ∧ ¬ s.Kept := by
  obtain ⟨s, hreach, hpins, hbatch, hlatest⟩ := overtaken_reachable
  have hlisted : s.pins.Replies (.list_named_recursive_pins first.kubo_url first.name) (.ok [])
      both_pinned := by
    rw [hpins]
    exact .listed _ _ [] both_pinned_listed_final
  have hfinal := rpc_reachable hreach hbatch hlisted
  have htemp := rpc_reachable hfinal rfl (.listed _ _ ["cid-1", "cid-2"] both_pinned_listed_temp)
  have hremove := rpc_reachable htemp rfl (.removed second.kubo_url second.cid)
  refine ⟨_, hremove, fun hkept => ?_⟩
  exact (Pins.pinned_remove_iff.mp (hkept second.kubo_url second.name second.cid hlatest)).1 ⟨rfl, rfl⟩

/-- The worker can unpin what was published last. -/
theorem latest_unpinned :
    ¬ ∀ (capacity : Nat) (pins : Pins) (s : Publishing), Reachable Step (start capacity pins) s →
      s.Kept := by
  intro hclaim
  obtain ⟨s, hreach, hlost⟩ := overtaken_unpinned
  exact hlost (hclaim 64 _ s hreach)

end Publishing

end ma_core.kubo
