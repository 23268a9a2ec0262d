import Mathlib.Data.List.Basic
import Mathlib.Tactic.Tauto
import MaCore.Base.Transition
import MaCore.Kubo.Pinning

open rust transition

namespace ma_core.kubo

/-- The key a worker has received and not yet served, or is about to send. -/
def Worker.token : Worker → List PinCleanupKey
  | received key | sleeping key => [key]
  | receiving | cleaning _ _ | requeueing _ _ => []

namespace Cleanup

/-- The wake tokens: those in the channel, and the one the worker holds. -/
def tokens (s : Cleanup) : List PinCleanupKey := s.scheduler.wake ++ s.worker.token

/-- A key is pending exactly if it has its one token, or lost it. -/
structure Inv (s : Cleanup) : Prop where
  nodup : s.tokens.Nodup
  pending_iff : ∀ key, s.scheduler.pending.contains_key key = true ↔
    key ∈ s.tokens ∨ key ∈ s.dropped
  lost : ∀ key ∈ s.dropped, key ∉ s.tokens

section
variable {s t : Cleanup} {event : CleanupEvent} {capacity : Nat} {key : PinCleanupKey}

theorem start_inv (capacity : Nat) : (start capacity).Inv where
  nodup := List.nodup_nil
  pending_iff key := by simp [start, PinCleanupScheduler.with_capacity, Map.contains_key, Map.empty,
    tokens, Worker.token]
  lost _ hmem := by cases hmem

/-- What the scheduler does keeps the invariant if the tokens are the same up to order. -/
theorem Inv.of_perm (hinv : s.Inv) (htokens : t.tokens.Perm s.tokens)
    (hpending : ∀ key, t.scheduler.pending.contains_key key = true ↔
      s.scheduler.pending.contains_key key = true)
    (hdropped : t.dropped = s.dropped) : t.Inv where
  nodup := htokens.nodup_iff.mpr hinv.nodup
  pending_iff key := by rw [hpending, hinv.pending_iff, htokens.mem_iff, hdropped]
  lost key hmem := by
    rw [hdropped] at hmem
    rw [htokens.mem_iff]
    exact hinv.lost key hmem

/-- A key that was not pending gets its token when it becomes so. -/
theorem Inv.add (hinv : s.Inv) (habsent : s.scheduler.pending.contains_key key = false)
    (htokens : t.tokens.Perm (key :: s.tokens))
    (hpending : ∀ k, t.scheduler.pending.contains_key k = true ↔
      k = key ∨ s.scheduler.pending.contains_key k = true)
    (hdropped : t.dropped = s.dropped) : t.Inv := by
  have hfree : ¬ (key ∈ s.tokens ∨ key ∈ s.dropped) := by
    rw [← hinv.pending_iff, habsent]
    exact Bool.false_ne_true
  obtain ⟨hnew, hkept⟩ := not_or.mp hfree
  refine ⟨htokens.nodup_iff.mpr (List.nodup_cons.mpr ⟨hnew, hinv.nodup⟩), fun k => ?_, ?_⟩
  · rw [hpending, hinv.pending_iff, htokens.mem_iff, hdropped, List.mem_cons, or_assoc]
  · intro k hmem
    rw [hdropped] at hmem
    rw [htokens.mem_iff, List.mem_cons]
    rintro (rfl | htoken)
    · exact hkept hmem
    · exact hinv.lost k hmem htoken

/-- What the invariant says while the worker holds a token. -/
theorem Inv.held (hinv : s.Inv) (hworker : s.worker.token = [key]) :
    (s.scheduler.wake.Nodup ∧ key ∉ s.scheduler.wake ∧ key ∉ s.dropped) ∧
    (∀ k, s.scheduler.pending.contains_key k = true ↔
      k = key ∨ k ∈ s.scheduler.wake ∨ k ∈ s.dropped) ∧
    ∀ k ∈ s.dropped, k ∉ s.scheduler.wake := by
  obtain ⟨hnodup, hpending, hlost⟩ := hinv
  have hmem : ∀ k, k ∈ s.tokens ↔ k = key ∨ k ∈ s.scheduler.wake := by
    intro k
    rw [tokens, hworker, List.mem_append, List.mem_singleton, or_comm]
  rw [tokens, hworker] at hnodup
  obtain ⟨hfree, hwake⟩ := List.nodup_cons.mp ((List.perm_append_singleton key _).nodup_iff.mp hnodup)
  refine ⟨⟨hwake, hfree, fun hdropped => ?_⟩, fun k => ?_, fun k hdropped hin => ?_⟩
  · exact hlost key hdropped ((hmem key).mpr (.inl rfl))
  · rw [hpending, hmem, or_assoc]
  · exact hlost k hdropped ((hmem k).mpr (.inr hin))

/-- What it takes to establish it where the worker holds none. -/
theorem Inv.of_wake (hworker : t.worker.token = []) (hnodup : t.scheduler.wake.Nodup)
    (hpending : ∀ k, t.scheduler.pending.contains_key k = true ↔
      k ∈ t.scheduler.wake ∨ k ∈ t.dropped)
    (hlost : ∀ k ∈ t.dropped, k ∉ t.scheduler.wake) : t.Inv := by
  have htokens : t.tokens = t.scheduler.wake := by rw [tokens, hworker, List.append_nil]
  constructor
  · rwa [htokens]
  · rwa [htokens]
  · rwa [htokens]

theorem schedule_inv (request : PinCleanupRequest) (hinv : s.Inv) :
    Inv { s with scheduler := (s.scheduler.schedule request).2 } := by
  unfold PinCleanupScheduler.schedule
  by_cases hpresent : s.scheduler.pending.contains_key request.key = true
  · rw [if_pos hpresent]
    refine hinv.of_perm (List.Perm.refl _) (fun key => ?_) rfl
    rw [Map.contains_key_insert_iff]
    constructor
    · rintro (rfl | hkey)
      · exact hpresent
      · exact hkey
    · exact .inr
  · rw [if_neg hpresent]
    by_cases hfull : s.scheduler.full = true
    · rw [if_pos hfull]
      exact hinv
    · rw [if_neg hfull]
      refine hinv.add (Bool.eq_false_iff.mpr hpresent) ?_
        (fun k => Map.contains_key_insert_iff _ _ _ _) rfl
      simp only [tokens, PinCleanupScheduler.send, List.append_assoc]
      exact List.perm_middle

theorem step_inv (hstep : Step s event t) (hinv : s.Inv) : t.Inv := by
  cases hstep with
  | schedule request => exact schedule_inv request hinv
  | recv key wake hworker hwake =>
    refine hinv.of_perm ?_ (fun _ => Iff.rfl) rfl
    simp only [tokens, Worker.token, hworker, hwake, List.append_nil]
    exact List.perm_append_singleton key wake
  | take key request hworker hrequest =>
    -- The worker's token goes with the entry it is for.
    obtain ⟨⟨hwake, hfree, hkept⟩, hpending, hlost⟩ := hinv.held (show s.worker.token = [key] by rw [hworker]; rfl)
    refine .of_wake rfl hwake (fun k => ?_) hlost
    rw [Map.contains_key_remove_iff, hpending]
    constructor
    · rintro ⟨hother, hkey⟩
      exact hkey.resolve_left hother
    · rintro (hin | hdropped)
      · exact ⟨fun heq => hfree (heq ▸ hin), .inr (.inl hin)⟩
      · exact ⟨fun heq => hkept (heq ▸ hdropped), .inr (.inr hdropped)⟩
  | take_none key hworker hnone =>
    -- A received key is pending.
    obtain ⟨_, hpending, _⟩ := hinv.held (show s.worker.token = [key] by rw [hworker]; rfl)
    have hpresent := (hpending key).mpr (.inl rfl)
    rw [(Map.contains_key_eq_false_iff _ _).mpr hnone] at hpresent
    cases hpresent
  | finish key request hworker =>
    exact hinv.of_perm (by simp [tokens, Worker.token, hworker]) (fun _ => Iff.rfl) rfl
  | finish_more key request hworker =>
    exact hinv.of_perm (by simp [tokens, Worker.token, hworker]) (fun _ => Iff.rfl) rfl
  | requeue key request hworker habsent =>
    refine hinv.add habsent ?_ (fun k => Map.contains_key_insert_iff _ _ _ _) rfl
    simp only [tokens, Worker.token, hworker, List.append_nil]
    exact List.perm_append_singleton key _
  | requeue_superseded key request hworker hpresent =>
    exact hinv.of_perm (by simp [tokens, Worker.token, hworker]) (fun _ => Iff.rfl) rfl
  | resend key hworker hspace =>
    exact hinv.of_perm (by simp [tokens, Worker.token, hworker, PinCleanupScheduler.send])
      (fun _ => Iff.rfl) rfl
  | resend_dropped key hworker hfull =>
    obtain ⟨⟨hwake, hfree, _⟩, hpending, hlost⟩ := hinv.held (show s.worker.token = [key] by rw [hworker]; rfl)
    refine .of_wake rfl hwake (fun k => ?_) (fun k hmem => ?_)
    · rw [hpending, List.mem_append, List.mem_singleton]
      tauto
    · rcases List.mem_append.mp hmem with hdropped | hnew
      · exact hlost k hdropped
      · rw [List.mem_singleton.mp hnew]
        exact hfree

theorem reachable_inv (hreach : Reachable Step (start capacity) s) : s.Inv :=
  hreach.invariant (start_inv capacity) fun hinv hstep => step_inv hstep hinv

/-- A key that is pending has lost its token exactly if the worker dropped it. -/
theorem lost_iff (hinv : s.Inv) :
    s.scheduler.pending.contains_key key = true ∧ key ∉ s.tokens ↔ key ∈ s.dropped := by
  rw [hinv.pending_iff]
  constructor
  · rintro ⟨htoken | hdropped, hnone⟩
    · exact absurd htoken hnone
    · exact hdropped
  · intro hdropped
    exact ⟨.inr hdropped, hinv.lost key hdropped⟩

/-- A request that is taken has a token, unless its key lost it before. -/
theorem schedule_token_iff (hinv : s.Inv) {request : PinCleanupRequest}
    (htaken : (s.scheduler.schedule request).1 = true) :
    request.key ∈ tokens { s with scheduler := (s.scheduler.schedule request).2 } ↔
      request.key ∉ s.dropped := by
  have hinv' := schedule_inv request hinv
  have hpending : (s.scheduler.schedule request).2.pending.contains_key request.key = true := by
    unfold PinCleanupScheduler.schedule at htaken ⊢
    split at htaken
    · rw [if_pos ‹_›]
      exact (Map.contains_key_insert_iff _ _ _ _).mpr (.inl rfl)
    · split at htaken
      · cases htaken
      · rw [if_neg ‹_›, if_neg ‹_›]
        exact (Map.contains_key_insert_iff _ _ _ _).mpr (.inl rfl)
  rw [← @lost_iff _ request.key hinv', not_and_not_right]
  exact ⟨fun htoken _ => htoken, fun h => h hpending⟩

/-- In every state the pending keys all have tokens exactly if no delayed send
    found the channel full, and then every request that is taken has one. -/
theorem pending_has_token_iff (hreach : Reachable Step (start capacity) s) :
    ((∀ key, s.scheduler.pending.contains_key key = true → key ∈ s.tokens) ↔ s.dropped = []) ∧
    ∀ request, (s.scheduler.schedule request).1 = true →
      (request.key ∈ tokens { s with scheduler := (s.scheduler.schedule request).2 } ↔
        request.key ∉ s.dropped) := by
  have hinv := reachable_inv hreach
  refine ⟨⟨fun htokens => ?_, fun hnone key hpending => ?_⟩,
    fun request htaken => schedule_token_iff hinv htaken⟩
  · rw [List.eq_nil_iff_forall_not_mem]
    intro key hdropped
    obtain ⟨hpending, hlost⟩ := (lost_iff hinv).mpr hdropped
    exact hlost (htokens key hpending)
  · rw [hinv.pending_iff, hnone] at hpending
    exact hpending.resolve_right List.not_mem_nil

end

/-! Two pins cleaned up over a channel of one slot. -/

def request_of (name : String) : PinCleanupRequest :=
  ⟨"http://127.0.0.1:5001", name, "cid", true, none⟩

/-- The first batch asks to be run again, and the other pin is scheduled while
    the worker waits to send its key. -/
theorem dropped_run :
    ∃ s, Reachable Step (start 1) s ∧ s.dropped = [(request_of "a").key] := by
  have hrun := Run.cons (Step.schedule (start 1) (request_of "a")) <|
    Run.cons (Step.recv _ (request_of "a").key [] rfl rfl) <|
    Run.cons (Step.take _ (request_of "a").key (request_of "a") rfl rfl) <|
    Run.cons (Step.finish_more _ (request_of "a").key (request_of "a") rfl) <|
    Run.cons (Step.requeue _ (request_of "a").key (request_of "a") rfl rfl) <|
    Run.cons (Step.schedule _ (request_of "b")) <|
    Run.single (Step.resend_dropped _ (request_of "a").key rfl rfl)
  exact ⟨_, ⟨_, hrun⟩, rfl⟩

theorem pending_has_token_iff_dropped :
    ∃ s : Cleanup, s.dropped = [(request_of "a").key] ∧
      ((∀ key, s.scheduler.pending.contains_key key = true → key ∈ s.tokens) ↔ s.dropped = []) ∧
      ∀ request, (s.scheduler.schedule request).1 = true →
        (request.key ∈ tokens { s with scheduler := (s.scheduler.schedule request).2 } ↔
          request.key ∉ s.dropped) := by
  obtain ⟨s, hreach, hdropped⟩ := dropped_run
  exact ⟨s, hdropped, pending_has_token_iff hreach⟩

/-- A pending key can be without a wake token. -/
theorem pending_without_token :
    ¬ ∀ (capacity : Nat) (s : Cleanup), Reachable Step (start capacity) s →
      ∀ key, s.scheduler.pending.contains_key key = true → key ∈ s.tokens := by
  intro hclaim
  obtain ⟨s, hreach, hdropped⟩ := dropped_run
  obtain ⟨hpending, hlost⟩ := (@lost_iff _ (request_of "a").key (reachable_inv hreach)).mpr
    (by simp [hdropped])
  exact hlost (hclaim 1 s hreach _ hpending)

end Cleanup

end ma_core.kubo
